import Groundplan.Flowchart
import Groundplan.Text.Quoted

/-!
# Validation

What is wrong with a resource set before it is drawn. An issue has a severity, a code, a message,
the place it is about and perhaps a hint.

The *findings* of a set are all its issues with the severities of their codes. `Policy.issues`
drops the codes that a policy ignores and makes errors of the warnings that it escalates, and
changes nothing else.
-/

namespace Groundplan

/-- How bad an issue is. -/
inductive Severity where
  | error
  | warning
deriving DecidableEq, Repr

/-- The kinds of issues. -/
inductive IssueCode where
  | noResources
  | unsafeId
  | noBody
  | unknownConnection
  | untaggedService
  | unknownTag
deriving DecidableEq, Repr

namespace IssueCode

/-- The name of a code, by which a policy refers to it. -/
def name : IssueCode → Text
  | noResources => "W_NO_RESOURCES"
  | unsafeId => "E_RESOURCE_ID_NOT_MERMAID_SAFE"
  | noBody => "W_RESOURCE_NO_BODY"
  | unknownConnection => "W_CONNECTION_UNKNOWN_RESOURCE"
  | untaggedService => "W_SERVICE_UNTAGGED"
  | unknownTag => "W_TAG_UNKNOWN_SERVICE"

/-- The severity of a code. -/
def severity : IssueCode → Severity
  | unsafeId => .error
  | _ => .warning

end IssueCode

/-- One thing that is wrong with a resource set. -/
structure Issue where
  severity : Severity
  code : IssueCode
  message : Text
  path : Text := []
  hint : Option Text := none
deriving DecidableEq

namespace Issue

/-- An issue with the severity of its code. -/
def ofCode (code : IssueCode) (message : Text) (path : Text) (hint : Option Text) : Issue :=
  { severity := code.severity, code, message, path, hint }

/-- There is nothing to draw. -/
def noResources : Issue :=
  ofCode .noResources "no resource declarations found; the placeholder diagram will be used" []
    (some "Add resources to infra/main.bicep")

/-- The key cannot be the identifier of a node. -/
def unsafeId (key : Text) : Issue :=
  ofCode .unsafeId
    ("resource id " ++ Text.quoted key ++
      " is not Mermaid-safe (use [A-Za-z0-9_] and cannot start with a digit)")
    ("/resources/" ++ key) none

/-- The resource has no property block. -/
def noBody (key : Text) : Issue :=
  ofCode .noBody
    ("resource " ++ Text.quoted key ++ " has no property block; no connections inferred")
    ("/resources/" ++ key) none

/-- The resource is connected to something that is not in the set. -/
def unknownConnection (key target : Text) : Issue :=
  ofCode .unknownConnection
    ("resource " ++ Text.quoted key ++ " depends on unknown resource " ++ Text.quoted target ++
      " (edge not rendered)")
    ("/resources/" ++ key ++ "/connections") none

/-- No resource is tagged with a declared service. -/
def untaggedService (service : Text) : Issue :=
  ofCode .untaggedService
    ("service " ++ Text.quoted service ++
      " from azure.yaml has no resource tagged 'azd-service-name'")
    ("/services/" ++ service)
    (some ("Add tags: \x7b 'azd-service-name': '" ++ service ++
      "' \x7d to the hosting resource"))

/-- A resource is tagged with a service that is not declared. -/
def unknownTag (key tag : Text) : Issue :=
  ofCode .unknownTag
    ("resource " ++ Text.quoted key ++ " is tagged with service " ++ Text.quoted tag ++
      ", which azure.yaml does not declare")
    ("/resources/" ++ key ++ "/properties/service") none

end Issue

namespace ResourceSet

/-! ## Findings -/

/-- The connections of a resource that lead out of the set, each once, in order. -/
def unknownTargets (rs : ResourceSet) (r : Resource) : List Text :=
  r.connections.foldl
    (fun found target =>
      if rs.contains target || found.contains target then found else found ++ [target]) []

/-- What is wrong with one resource. -/
def resourceFindings (rs : ResourceSet) (key : Text) (r : Resource) : List Issue :=
  (if Flowchart.isId key then [] else [Issue.unsafeId key]) ++
    (if r.body.isNone then [Issue.noBody key] else []) ++
    (rs.unknownTargets r).map (Issue.unknownConnection key)

/-- The services that resources are tagged with, in the order in which they first occur, each with
the last resource that carries the tag. -/
def serviceTags (rs : ResourceSet) : OrderedMap Text Text :=
  OrderedMap.ofList (rs.entries.filterMap fun (key, r) => r.service?.map fun tag => (tag, key))

/-- The disagreements between the declared services and the tags. -/
def serviceFindings (rs : ResourceSet) (services : List Text) : List Issue :=
  let tags := rs.serviceTags
  (services.filter fun service => !tags.contains service).map Issue.untaggedService ++
    (tags.entries.filter fun (tag, _) => !services.contains tag).map
      fun (tag, key) => Issue.unknownTag key tag

/-- Everything that is wrong with a set. The services are compared with the tags only if there are
services and `checkTags` asks for it. -/
def findings (rs : ResourceSet) (services : List Text) (checkTags : Bool) : List Issue :=
  if rs.isEmpty then [Issue.noResources]
  else
    rs.entries.flatMap (fun (key, r) => rs.resourceFindings key r) ++
      if checkTags && !services.isEmpty then rs.serviceFindings services else []

end ResourceSet

/-! ## Policies -/

/-- Which issues are reported, and as what. -/
structure Policy where
  /-- The names of the codes that are not reported. -/
  ignore : List Text := []
  /-- The names of the codes whose warnings become errors. -/
  escalate : List Text := []
  /-- Whether services are compared with tags. -/
  checkTags : Bool := true

namespace Policy

/-- The issue as the policy reports it. -/
def report? (p : Policy) (issue : Issue) : Option Issue :=
  if p.ignore.contains issue.code.name then none
  else if issue.severity = .warning && p.escalate.contains issue.code.name then
    some { issue with severity := .error }
  else some issue

/-- The issues of a set as the policy reports them. -/
def issues (p : Policy) (rs : ResourceSet) (services : List Text) : List Issue :=
  (rs.findings services p.checkTags).filterMap p.report?

end Policy

/-- The messages of a validation. -/
structure Report where
  errors : List Text
  warnings : List Text
deriving DecidableEq

namespace Report

/-- The messages of the issues with the given severity. -/
def messages (severity : Severity) (issues : List Issue) : List Text :=
  (issues.filter fun issue => issue.severity = severity).map Issue.message

/-- The messages of the issues, errors and warnings apart. -/
def ofIssues (issues : List Issue) : Report :=
  ⟨messages .error issues, messages .warning issues⟩

end Report

/-- The messages about a set under the policy that ignores and escalates nothing. -/
def ResourceSet.validate (rs : ResourceSet) (services : List Text) : Report :=
  Report.ofIssues (({} : Policy).issues rs services)

end Groundplan

import Groundplan.Workspace.Document

/-!
# The configuration of a template

A template is a directory with a configuration document, which names the services that the
template deploys. A template without a readable configuration is treated as one that names none.
-/

namespace Groundplan.Template

/-- The names of a configuration document; an earlier one goes before a later one. -/
def configurationNames : List Text := ["azure.yaml", "azure-dev.yaml"]

/-- The configuration document of a template. -/
def findConfiguration (template : Path) : Session (Option Path) :=
  (configurationNames.map template.child).findM? Session.isFile

/-- The configuration of a template; nothing if it has none or, with a report, if it cannot be
read. -/
def loadConfiguration (template : Path) : Session (Option (List (Value × Value))) := do
  match ← findConfiguration template with
  | none => return none
  | some path =>
    Session.recover (fun k => k.isSystem || k.isValue || k = .type)
      (some <$> Session.readMapping path) fun f => do
        Session.report (.cannotLoadTemplate path f)
        return none

/-- The text of a name; nothing for other values and for the empty text. -/
def serviceName? : Value → Option Text
  | .text t => if t.isEmpty then none else some t
  | _ => none

/-- The services that a configuration names. -/
def services (configuration : List (Value × Value)) : List Text :=
  match Value.lookup? (.text "services") configuration with
  | some (.map entries) => entries.filterMap fun (key, _) => serviceName? key
  | _ => []

end Groundplan.Template

import Groundplan.Proofs.Validation

/-!
# A policy only filters

**Writing down.** `Policy.walk` goes through a set once and writes every issue into a log as soon as
it meets it, as the policy reports it or not at all. Meanwhile it remembers the connections that it
has met, whether it wrote them down or not. So what is not reported never changes what is reported
later: each step adds to the log what the policy reports of the findings of that step
(`emitConnections_eq`, `emitResource_eq`, `emitServices_eq`), and the whole log is the list of
issues (`walk_eq_issues`).

**Filters.** The issues under a policy are those of the policy that ignores and escalates nothing,
less the ignored codes and with the escalated warnings as errors (`issues_eq_map_filter`).

Main result: `policy_only_filters`.
-/

namespace Groundplan

namespace Policy

/-! ## Writing issues down -/

/-- The log with an issue written down as the policy reports it, unless the policy ignores it. -/
def emit (p : Policy) (log : List Issue) (issue : Issue) : List Issue :=
  if p.ignore.contains issue.code.name then log
  else if issue.severity = .warning && p.escalate.contains issue.code.name then
    log ++ [{ issue with severity := .error }]
  else log ++ [issue]

/-- One connection of the resource under `key`. It is written down if it leads out of the set and is
not among the connections `met` already. -/
def emitConnection (p : Policy) (rs : ResourceSet) (key : Text) :
    List Text × List Issue → Text → List Text × List Issue
  | (met, log), target =>
    if rs.contains target || met.contains target then (met, log)
    else (met ++ [target], p.emit log (Issue.unknownConnection key target))

/-- One resource: its key, its body, and then its connections one after the other. -/
def emitResource (p : Policy) (rs : ResourceSet) (log : List Issue) (key : Text) (r : Resource) :
    List Issue :=
  let log := if Flowchart.isId key then log else p.emit log (Issue.unsafeId key)
  let log := if r.body.isNone then p.emit log (Issue.noBody key) else log
  (r.connections.foldl (p.emitConnection rs key) ([], log)).2

/-- The services that no resource is tagged with, and then the tags that are no service. -/
def emitServices (p : Policy) (rs : ResourceSet) (services : List Text) (log : List Issue) :
    List Issue :=
  let tags := rs.serviceTags
  let log := services.foldl
    (fun log service =>
      if tags.contains service then log else p.emit log (Issue.untaggedService service)) log
  tags.entries.foldl
    (fun log (tag, key) =>
      if services.contains tag then log else p.emit log (Issue.unknownTag key tag)) log

/-- The log of a walk through the set. An empty set ends it at once. -/
def walk (p : Policy) (rs : ResourceSet) (services : List Text) : List Issue :=
  if rs.isEmpty then p.emit [] Issue.noResources
  else
    let log := rs.entries.foldl (fun log (key, r) => p.emitResource rs log key r) []
    if p.checkTags && !services.isEmpty then p.emitServices rs services log else log

variable {p : Policy} {rs : ResourceSet} {services : List Text}

/-! ## What a step adds -/

theorem emit_eq (p : Policy) (log : List Issue) (issue : Issue) :
    p.emit log issue = log ++ [issue].filterMap p.report? := by
  rw [emit, List.filterMap_cons, report?]
  split
  · simp
  · split
    · rfl
    · rfl

/-- An issue that is written down on a condition. -/
theorem emit_unless_eq (p : Policy) (log : List Issue) (issue : Issue) (b : Bool) :
    (if b then log else p.emit log issue) =
      log ++ (if b then [] else [issue]).filterMap p.report? := by
  cases b with
  | false => exact p.emit_eq log issue
  | true => exact (List.append_nil log).symm

/-- If every step adds what the policy reports of some findings, so do all steps together. -/
theorem foldl_emits {α : Type} {step : List Issue → α → List Issue} {found : α → List Issue}
    (h : ∀ log a, step log a = log ++ (found a).filterMap p.report?) (l : List α)
    (log : List Issue) : l.foldl step log = log ++ (l.flatMap found).filterMap p.report? := by
  induction l generalizing log with
  | nil => simp
  | cons a l ih => rw [List.foldl_cons, ih, h, List.flatMap_cons, List.filterMap_append,
      List.append_assoc]

/-- The connections met by a walk are the same under every policy, and the log grows by what the
policy reports of them. -/
theorem exists_emitConnections (p : Policy) (rs : ResourceSet) (key : Text) (l met : List Text)
    (log : List Issue) : ∃ new, l.foldl (fun found target =>
      if rs.contains target || found.contains target then found else found ++ [target]) met =
        met ++ new ∧
      l.foldl (p.emitConnection rs key) (met, log) =
        (met ++ new, log ++ (new.map (Issue.unknownConnection key)).filterMap p.report?) := by
  induction l generalizing met log with
  | nil => exact ⟨[], by simp, by simp⟩
  | cons target l ih =>
    rw [List.foldl_cons, List.foldl_cons, emitConnection]
    by_cases hknown : (rs.contains target || met.contains target) = true
    · rw [if_pos hknown, if_pos hknown]
      exact ih met log
    · rw [if_neg hknown, if_neg hknown]
      obtain ⟨new, hmet, hlog⟩ := ih (met ++ [target])
        (p.emit log (Issue.unknownConnection key target))
      refine ⟨target :: new, ?_, ?_⟩
      · rw [hmet, List.append_assoc, List.singleton_append]
      · rw [hlog, emit_eq, List.append_assoc, List.append_assoc, ← List.filterMap_append]
        rfl

theorem emitConnections_eq (p : Policy) (rs : ResourceSet) (key : Text) (r : Resource)
    (log : List Issue) : (r.connections.foldl (p.emitConnection rs key) ([], log)).2 =
      log ++ ((rs.unknownTargets r).map (Issue.unknownConnection key)).filterMap p.report? := by
  obtain ⟨new, hmet, hlog⟩ := exists_emitConnections p rs key r.connections [] log
  rw [hlog, ResourceSet.unknownTargets, hmet]
  rfl

theorem emitResource_eq (p : Policy) (rs : ResourceSet) (log : List Issue) (key : Text)
    (r : Resource) : p.emitResource rs log key r =
      log ++ (rs.resourceFindings key r).filterMap p.report? := by
  have hbody : ∀ log : List Issue, (if r.body.isNone then p.emit log (Issue.noBody key) else log) =
      log ++ (if r.body.isNone then [Issue.noBody key] else []).filterMap p.report? := by
    intro log
    cases r.body.isNone with
    | false => exact (List.append_nil log).symm
    | true => exact p.emit_eq log _
  rw [emitResource, emit_unless_eq, hbody, emitConnections_eq, ResourceSet.resourceFindings,
    List.filterMap_append, List.filterMap_append, List.append_assoc, List.append_assoc,
    List.append_assoc]

theorem flatMap_unless {α β : Type} (b : α → Bool) (f : α → β) (l : List α) :
    (l.flatMap fun a => if b a then [] else [f a]) = (l.filter fun a => !b a).map f := by
  induction l with
  | nil => rfl
  | cons a l ih => cases h : b a <;> simp [h, ih]

theorem emitServices_eq (p : Policy) (rs : ResourceSet) (services : List Text)
    (log : List Issue) : p.emitServices rs services log =
      log ++ (rs.serviceFindings services).filterMap p.report? := by
  have htagged := foldl_emits (p := p) fun log service =>
    p.emit_unless_eq log (Issue.untaggedService service) (rs.serviceTags.contains service)
  have hdeclared := foldl_emits (p := p) fun log (entry : Text × Text) =>
    p.emit_unless_eq log (Issue.unknownTag entry.2 entry.1) (services.contains entry.1)
  rw [emitServices, htagged, hdeclared, flatMap_unless, flatMap_unless, ResourceSet.serviceFindings,
    List.filterMap_append, List.append_assoc]

/-- **The log of a walk is the list of issues.** -/
theorem walk_eq_issues (p : Policy) (rs : ResourceSet) (services : List Text) :
    p.walk rs services = p.issues rs services := by
  have hresources := foldl_emits (p := p) fun log (entry : Text × Resource) =>
    p.emitResource_eq rs log entry.1 entry.2
  rw [walk, issues, ResourceSet.findings]
  split
  · exact p.emit_eq [] Issue.noResources
  · rw [hresources, List.nil_append, List.filterMap_append]
    split
    · rw [emitServices_eq]
    · exact (List.append_nil _).symm

/-! ## Filters -/

/-- What is left of a list of issues under a policy. -/
theorem filterMap_report? (p : Policy) (l : List Issue) :
    l.filterMap p.report? = (l.filter fun issue => issue.code.name ∉ p.ignore).map fun issue =>
      if issue.severity = .warning ∧ issue.code.name ∈ p.escalate then
        { issue with severity := .error }
      else issue := by
  induction l with
  | nil => rfl
  | cons issue l ih =>
    rw [List.filterMap_cons, List.filter_cons, report?, ih]
    by_cases hignore : issue.code.name ∈ p.ignore
    · simp [hignore]
    · by_cases hraise : issue.severity = .warning ∧ issue.code.name ∈ p.escalate
      · simp [hignore, hraise]
      · simp [hignore, hraise]

theorem issues_eq_map_filter (p : Policy) (rs : ResourceSet) (services : List Text) :
    p.issues rs services =
      ((({ checkTags := p.checkTags } : Policy).issues rs services).filter fun issue =>
        issue.code.name ∉ p.ignore).map fun issue =>
          if issue.severity = .warning ∧ issue.code.name ∈ p.escalate then
            { issue with severity := .error }
          else issue := by
  have hplain : ({ checkTags := p.checkTags } : Policy).report? = some := by
    funext issue
    simp [report?]
  rw [issues, issues, hplain, List.filterMap_some, filterMap_report?]

/-! ## Messages -/

/-- Every message is an error or a warning, and none is both. -/
theorem perm_messages (l : List Issue) :
    (Report.messages .error l ++ Report.messages .warning l).Perm (l.map Issue.message) := by
  have hwarning : (l.filter fun issue => issue.severity = .warning) =
      l.filter fun issue => !decide (issue.severity = .error) := by
    refine List.filter_congr fun issue _ => ?_
    cases issue.severity with
    | error => rfl
    | warning => rfl
  rw [Report.messages, Report.messages, ← List.map_append, hwarning]
  exact (List.filter_append_perm _ l).map Issue.message

/-- **A policy only filters.** The issues are what a walk through the set writes down one by one.
They are the issues of the policy that ignores and escalates nothing and compares the tags or not as
this one does, in their order: those with an ignored code are dropped, a warning with an escalated
code becomes an error, and nothing else changes. The messages of a validation are those of the
issues under the policy without exceptions, errors and warnings apart and each in order, and none is
lost or doubled. -/
theorem policy_only_filters (p : Policy) (rs : ResourceSet) (services : List Text) :
    p.walk rs services = p.issues rs services ∧
      p.issues rs services =
        ((({ checkTags := p.checkTags } : Policy).issues rs services).filter fun issue =>
          issue.code.name ∉ p.ignore).map (fun issue =>
            if issue.severity = .warning ∧ issue.code.name ∈ p.escalate then
              { issue with severity := .error }
            else issue) ∧
      (rs.validate services).errors = ((({} : Policy).issues rs services).filter fun issue =>
        issue.severity = .error).map Issue.message ∧
      (rs.validate services).warnings = ((({} : Policy).issues rs services).filter fun issue =>
        issue.severity = .warning).map Issue.message ∧
      ((rs.validate services).errors ++ (rs.validate services).warnings).Perm
        ((({} : Policy).issues rs services).map Issue.message) :=
  ⟨walk_eq_issues p rs services, issues_eq_map_filter p rs services, rfl, rfl, perm_messages _⟩

end Policy

end Groundplan

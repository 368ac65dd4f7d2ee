import Groundplan.Workspace

/-!
# Documents in files

Documents are mappings in YAML, which the reader of the workspace reads. Reading one is lenient;
what was repaired is reported, the first lines of it in full. An empty document is the empty
mapping, and a document that is something else is a failure.
-/

namespace Groundplan.Session

/-- How many repaired lines are reported in full. -/
def shownRepairs : Nat := 10

/-- Reports the changes that a repair made, if there are any. -/
def reportRepair (path : Path) (changes : List Yaml.Repair.Change) : Session Unit := do
  unless changes.isEmpty do
    report (.repaired path changes.length)
    for change in changes.take shownRepairs do
      report (.repairedLine path change.line change.before change.after)

/-- The entries of the mapping in a file. -/
def readMapping (path : Path) : Session (List (Value × Value)) := do
  let t ← readText path
  match Yaml.readLeniently (← get).reader t with
  | .error (.malformed wording) => throw (.unreadable path wording)
  | .error (.raised kind wording) => throw (.raised kind wording)
  | .ok (value, changes) => do
    reportRepair path changes
    match value with
    | .null => return []
    | .map entries => return Value.unrolled entries
    | value => throw (.notMapping path value.typeName)

end Groundplan.Session

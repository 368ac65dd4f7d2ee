import Groundplan.FailureKind
import Groundplan.Value
import Groundplan.Yaml.Repair

/-!
# Readers of documents

Reading YAML is the work of another library, so a reader is something that is given: a function from
texts to values that can fail. A text may be malformed, which is the one failure that is a matter of
YAML; while the values are built, any other failure may happen.

`readLeniently` gives a malformed text a second chance: it is repaired and read once more.
-/

namespace Groundplan.Yaml

/-- Why a reader gives no value. -/
inductive ReaderFailure where
  /-- The text is no document. -/
  | malformed (wording : Text)
  /-- Any other failure, by its class. -/
  | raised (kind : FailureKind) (wording : Text)
deriving DecidableEq, Repr

/-- A reader of documents. -/
abbrev Reader := Text → Except ReaderFailure Value

/-- The value of a text, or of its repair, and the changes that the repair made. -/
def readLeniently (read : Reader) (t : Text) : Except ReaderFailure (Value × List Repair.Change) :=
  match read t with
  | .ok value => .ok (value, [])
  | .error (.malformed _) => (read (Repair.text t)).map fun value => (value, Repair.changes t)
  | .error e => .error e

end Groundplan.Yaml

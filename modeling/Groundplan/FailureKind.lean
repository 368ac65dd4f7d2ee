import Groundplan.Text.Basic

/-!
# Classes of failures

A failure belongs to a class, and what an activity recovers from is said by class. The classes are
those that some activity tells apart, and one for all others.
-/

namespace Groundplan

/-- The classes of failures. -/
inductive FailureKind where
  /-- Something is not there. -/
  | missing
  | isDirectory
  | alreadyExists
  /-- Any other fault of an operation on files. -/
  | system
  /-- Bytes that are no text. -/
  | undecodable
  /-- A text that has no bytes. -/
  | unencodable
  /-- A value that does not fit. -/
  | value
  /-- A value of the wrong kind. -/
  | type
  /-- A class that no activity asks for, by its name. -/
  | other (name : Text)
deriving DecidableEq, Repr

namespace FailureKind

/-- A fault of an operation on files. -/
def isSystem : FailureKind → Bool
  | missing | isDirectory | alreadyExists | system => true
  | _ => false

/-- A value that does not fit. Bytes that are no text and a text that has no bytes are such. -/
def isValue : FailureKind → Bool
  | value | undecodable | unencodable => true
  | _ => false

end FailureKind

end Groundplan

import Groundplan.Files.Store
import Groundplan.Settings.Override
import Groundplan.Yaml.Reader

/-!
# Failures

Why an activity on the files of a workspace ends without its result. A failure belongs to a class
(`Failure.kind`).
-/

namespace Groundplan

/-- Why an activity fails. -/
inductive Failure where
  /-- An operation on a path. -/
  | file (fault : FileFault) (path : Path)
  /-- The bytes of a file are no text. -/
  | undecodable (e : Utf8.Malformed)
  /-- A text for a file has no bytes. -/
  | unencodable (e : Utf8.Unencodable)
  /-- A settings document that is not there. -/
  | missingSettings (path : Path)
  /-- A document that is malformed, even after repair. -/
  | unreadable (path : Path) (wording : Text)
  /-- Any other failure of the reader of documents. -/
  | raised (kind : FailureKind) (wording : Text)
  /-- A document that is no mapping. -/
  | notMapping (path : Path) (typeName : Text)
  /-- The settings inside a document are no mapping. -/
  | sectionNotMapping (path : Path)
  | settings (e : SettingsError)
  /-- A path without a name where a name is needed. -/
  | noName (path : Path)
  /-- More seconds than a run of another program can be given. -/
  | overlongTimeout (seconds : Nat)

namespace Failure

/-- The class of a fault of an operation on files. -/
def kindOfFault : FileFault → FailureKind
  | .notFound => .missing
  | .isDirectory => .isDirectory
  | .alreadyExists => .alreadyExists
  | .notDirectory | .nameTooLong => .system
  | .nullCharacter => .value
  | .unencodable _ => .unencodable

/-- The class of a failure. -/
def kind : Failure → FailureKind
  | file fault _ => kindOfFault fault
  | undecodable _ => .undecodable
  | unencodable _ => .unencodable
  | missingSettings _ => .missing
  | unreadable _ _ => .value
  | raised kind _ => kind
  | notMapping _ _ | sectionNotMapping _ => .type
  | settings e => match e with
    | .unknownKey _ => .type
    | _ => .value
  | noName _ => .value
  | overlongTimeout _ => .other "OverflowError"

/-- The wording of a failure. -/
def message : Failure → Text
  | file .nullCharacter _ => FileFault.nullCharacter.message
  | file (.unencodable e) _ => e.message
  | file fault path => fault.message ++ ": " ++ Text.quoted path.toText
  | undecodable e => e.message
  | unencodable e => e.message
  | missingSettings path => path.toText
  | unreadable path wording => "Failed to parse YAML " ++ path.toText ++ ": " ++ wording
  | raised _ wording => wording
  | notMapping path typeName =>
    "Top-level YAML must be a mapping in " ++ path.toText ++ ", got " ++ typeName
  | sectionNotMapping path => "\u0060diagram\u0060 section must be a mapping in " ++ path.toText
  | settings e => e.message
  | noName path => Text.quoted path.toText ++ " has an empty name"
  | overlongTimeout _ => "timeout is too large"

end Failure

end Groundplan

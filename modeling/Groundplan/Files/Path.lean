import Groundplan.Text.Basic

/-!
# Paths

A path is where it starts, at the root or at the working directory, and the names to follow from
there. Reading a path from text drops empty names and single dots, which lead nowhere; two dots
are kept, because where they lead depends on the files.

Joining a path to an absolute one gives the absolute one.
-/

namespace Groundplan

/-- A path as its start (`/`, or nothing for the working directory) and its names. -/
structure Path where
  start : Text := []
  names : List Text := []
deriving DecidableEq, Repr

namespace Path

/-- The working directory. -/
def here : Path := {}

instance : Inhabited Path := ⟨here⟩

/-- Where a path written as text starts. Exactly two slashes are a start of their own. -/
def startOf (t : Text) : Text :=
  match (t.takeWhile (· == ↑ '/')).length with
  | 0 => []
  | 2 => ['/', '/']
  | _ => ['/']

/-- A name that leads somewhere. -/
def isName (t : Text) : Bool := !t.isEmpty && t != (['.'] : Text)

/-- The path that a text writes. -/
def ofText (t : Text) : Path := ⟨startOf t, (Text.split (· == '/') t).filter isName⟩

instance : Coe Text Path := ⟨ofText⟩

/-- The text of a path; the working directory is a dot. -/
def toText (p : Path) : Text :=
  if p.start.isEmpty && p.names.isEmpty then ['.'] else p.start ++ Text.join ['/'] p.names

/-- The path starts at the root. -/
def isAbsolute (p : Path) : Bool := !p.start.isEmpty

/-- The path `q` taken from `p`. -/
def append (p q : Path) : Path := if q.isAbsolute then q else { p with names := p.names ++ q.names }

instance : Append Path := ⟨append⟩

/-- The path of an entry of the directory at `p`. -/
def child (p : Path) (name : Text) : Path := { p with names := p.names ++ [name] }

/-- The last name; nothing for a path without names. -/
def name (p : Path) : Text := p.names.getLast?.getD []

/-- The path without its last name. -/
def parent (p : Path) : Path := { p with names := p.names.dropLast }

@[simp] theorem name_child (p : Path) (name : Text) : (p.child name).name = name := by
  simp [Path.name, child]

@[simp] theorem parent_child (p : Path) (name : Text) : (p.child name).parent = p := by
  simp [parent, child]

/-- A name without its suffix. A dot at the start or the end of a name starts no suffix. -/
def stem (name : Text) : Text :=
  let suffix := name.reverse.takeWhile (· != ↑ '.')
  let before := (name.reverse.dropWhile (· != ↑ '.')).tail
  if suffix.isEmpty || before.isEmpty then name else before.reverse

/-- The path with another suffix; nothing for a path without names. -/
def withSuffix? (p : Path) (suffix : Text) : Option Path :=
  if p.names.isEmpty then none
  else some { p with names := p.names.dropLast ++ [stem p.name ++ suffix] }

end Path

end Groundplan

import Groundplan.Files.FileName
import Groundplan.Files.Path
import Groundplan.OrderedMap

/-!
# A store of files

A store maps locations to directories and files. A location is the list of names from the root;
the root itself is a directory that no entry holds. Paths are followed name by name
(`Store.resolve`): every name but the last must lead to a directory, and two dots lead to the
directory above.

The operations fail as file systems do: a missing name, a file where a directory is needed or the
other way round, a name that exists already, a name or path that is too long, and a path that cannot
be passed on, because it has a null character or cannot be encoded.

Main statements: `lookup?_put` and `lookup?_remove` say what a change does to every location.
-/

namespace Groundplan

/-- The names from the root. -/
abbrev Location := List FileName

/-- What a location holds. -/
inductive Entry where
  | directory
  | file (bytes : List UInt8)
deriving DecidableEq, Repr

/-- The entry is a file. -/
def Entry.isFile : Entry → Bool
  | file _ => true
  | directory => false

/-- The entry is a directory. -/
def Entry.isDirectory : Entry → Bool
  | file _ => false
  | directory => true

/-- Why an operation on files fails. -/
inductive FileFault where
  | notFound
  | notDirectory
  | isDirectory
  | alreadyExists
  | nameTooLong
  | nullCharacter
  | unencodable (e : Utf8.Unencodable)
deriving DecidableEq, Repr

/-- The file system was not asked: the text of the path is none that can be passed on to it. -/
def FileFault.isRefusal : FileFault → Bool
  | nullCharacter | unencodable _ => true
  | _ => false

/-- The wording of a fault. -/
def FileFault.message : FileFault → Text
  | notFound => "No such file or directory"
  | notDirectory => "Not a directory"
  | isDirectory => "Is a directory"
  | alreadyExists => "File exists"
  | nameTooLong => "File name too long"
  | nullCharacter => "embedded null byte"
  | unencodable e => e.message

/-- Directories and files by their locations. -/
structure Store where
  entries : OrderedMap Location Entry := ∅

namespace Store

/-! ## Locations -/

/-- What a location holds. -/
def lookup? (s : Store) (l : Location) : Option Entry :=
  if l.isEmpty then some .directory else s.entries.get? l

/-- The most bytes of a name. -/
def longestName : Nat := 255

/-- The most bytes of a path, with one for its end. -/
def longestPath : Nat := 4096

/-- Follows names from a location. -/
def follow (s : Store) : Location → List Text → Except FileFault Location
  | l, [] => .ok l
  | l, name :: names =>
    match s.lookup? l with
    | none => .error .notFound
    | some (.file _) => .error .notDirectory
    | some .directory =>
      if name == (['.', '.'] : Text) then s.follow l.dropLast names
      else if longestName < (FileName.ofText name).bytes.length then .error .nameTooLong
      else s.follow (l ++ [.ofText name]) names

/-- Why the text of a path cannot be passed on, if it cannot. -/
def refusal? (t : Text) : Option FileFault :=
  match FileName.unencodable? t with
  | some e => some (.unencodable e)
  | none => if t.contains '\x00' then some .nullCharacter else none

/-- The location that a path leads to from a working directory. The last name need not exist. -/
def resolve (s : Store) (here : Location) (p : Path) : Except FileFault Location :=
  match refusal? p.toText with
  | some fault => .error fault
  | none =>
    if longestPath ≤ (FileName.ofText p.toText).bytes.length then .error .nameTooLong
    else s.follow (if p.isAbsolute then [] else here) p.names

/-- What a path leads to. -/
def find (s : Store) (here : Location) (p : Path) : Except FileFault (Location × Entry) := do
  let l ← s.resolve here p
  match s.lookup? l with
  | some e => return (l, e)
  | none => throw .notFound

/-! ## Changes at locations -/

/-- The store with an entry at a location. -/
def put (s : Store) (l : Location) (e : Entry) : Store := ⟨s.entries.insert l e⟩

/-- The store without a location and all that lies below it. -/
def remove (s : Store) (l : Location) : Store :=
  ⟨s.entries.filter fun k _ => !l.isPrefixOf k⟩

theorem lookup?_put {s : Store} {l : Location} {e : Entry} (h : l ≠ []) (k : Location) :
    (s.put l e).lookup? k = if k = l then some e else s.lookup? k := by
  unfold lookup? put
  by_cases hk : k = l
  · subst hk
    simp [h]
  · simp [hk]

theorem lookup?_remove {s : Store} {l : Location} (k : Location) :
    (s.remove l).lookup? k = if k ≠ [] ∧ l.isPrefixOf k then none else s.lookup? k := by
  unfold lookup? remove
  by_cases hk : k = []
  · simp [hk]
  · by_cases hp : l.isPrefixOf k = true <;> simp [hk, hp, OrderedMap.get?_filter_keys]

/-- The names of the entries directly below a location. -/
def namesIn (s : Store) (l : Location) : List FileName :=
  s.entries.keys.filterMap fun k => if k.dropLast = l then k.getLast? else none

/-! ## Operations on paths -/

/-- The question whether a path leads to an entry that satisfies `p`. A path that leads nowhere
does not; one that is too long cannot be asked about. -/
def isEntry (s : Store) (here : Location) (path : Path) (p : Entry → Bool) :
    Except FileFault Bool :=
  match s.find here path with
  | .ok (_, e) => .ok (p e)
  | .error .nameTooLong => .error .nameTooLong
  | .error _ => .ok false

/-- The path leads to a file or a directory. -/
def exists? (s : Store) (here : Location) (path : Path) : Except FileFault Bool :=
  s.isEntry here path fun _ => true

/-- The path leads to a file. -/
def isFile (s : Store) (here : Location) (path : Path) : Except FileFault Bool :=
  s.isEntry here path Entry.isFile

/-- The path leads to a directory. -/
def isDirectory (s : Store) (here : Location) (path : Path) : Except FileFault Bool :=
  s.isEntry here path Entry.isDirectory

/-- The bytes of a file. -/
def read (s : Store) (here : Location) (path : Path) : Except FileFault (List UInt8) := do
  match ← s.find here path with
  | (_, .file bytes) => return bytes
  | (_, .directory) => throw .isDirectory

/-- The store with a file at a path, new or in place of another file. -/
def write (s : Store) (here : Location) (path : Path) (bytes : List UInt8) :
    Except FileFault Store := do
  let l ← s.resolve here path
  match s.lookup? l with
  | some .directory => throw .isDirectory
  | _ => return s.put l (.file bytes)

/-- The store with a new directory at a path. -/
def makeDirectory (s : Store) (here : Location) (path : Path) : Except FileFault Store := do
  let l ← s.resolve here path
  match s.lookup? l with
  | some _ => throw .alreadyExists
  | none => return s.put l .directory

/-- Makes a directory that may exist already. The question whether it does is asked only after
making it has failed. -/
def ensureDirectory (s : Store) (here : Location) (path : Path) : Except FileFault Store :=
  match s.makeDirectory here path with
  | .ok s => .ok s
  | .error .notFound => .error .notFound
  | .error e =>
    if e.isRefusal then .error e
    else do
      if ← s.isDirectory here path then return s else throw e

/-- Makes a directory and those above it that are missing. The names of the path are given in
reverse; the answer comes with the store, in which directories may have been made even if the last
one could not be. -/
def ensureNames (s : Store) (here : Location) (start : Text) :
    (reversed : List Text) → Except FileFault Unit × Store
  | [] => settle s (s.ensureDirectory here ⟨start, []⟩)
  | name :: above =>
    let path : Path := ⟨start, (name :: above).reverse⟩
    match s.ensureDirectory here path with
    | .error .notFound =>
      match s.ensureNames here start above with
      | (.error e, s) => (.error e, s)
      | (.ok (), s) => settle s (s.ensureDirectory here path)
    | r => settle s r
where
  /-- The new store, or the old one with the fault. -/
  settle (s : Store) : Except FileFault Store → Except FileFault Unit × Store
    | .ok s => (.ok (), s)
    | .error e => (.error e, s)

/-- Makes a directory and those above it that are missing. -/
def ensureDirectories (s : Store) (here : Location) (path : Path) :
    Except FileFault Unit × Store :=
  s.ensureNames here path.start path.names.reverse

/-- The names in a directory. -/
def list (s : Store) (here : Location) (path : Path) : Except FileFault (List FileName) := do
  match ← s.find here path with
  | (l, .directory) => return s.namesIn l
  | (_, .file _) => throw .notDirectory

end Store

end Groundplan

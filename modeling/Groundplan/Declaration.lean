import Groundplan.Declaration.Block
import Groundplan.Resource
import Groundplan.Text.Word

/-!
# Resource declarations

A declaration is the word `resource`, an identifier and a type between single quotes; a property
block may follow it. The text around declarations is not understood, so declarations are found
where their words stand, even inside comments and strings.

**Where a block ends.** A block never runs into the next declaration that starts a line
(`untilDeclaration`). A block that does not close before is cut at its first closing brace.

**Resources.** `ResourceSet.extract` collects the declared resources of a source: the first
declaration of each identifier gives the type, and the first declaration that a block follows
gives the body.
-/

namespace Groundplan

/-- The identifier and the type that a declaration writes. -/
structure Declaration where
  id : Text
  type : Text
deriving DecidableEq, Repr

namespace Declaration

/-- The word that starts a declaration. -/
def keyword : Text := "resource"

/-! ## Parts of a declaration -/

/-- What follows a run of at least one blank. -/
def afterBlanks? : Text → Option Text
  | [] => none
  | c :: r => if isBlank c then some (r.dropWhile isBlank) else none

/-- A type between single quotes, which is not empty, and what follows it. -/
def quotedType? : Text → Option (Text × Text)
  | '\'' :: r =>
    let type := r.takeWhile (· != ↑ '\'')
    match r.dropWhile (· != ↑ '\'') with
    | _ :: rest => if type.isEmpty then none else some (type, rest)
    | [] => none
  | _ => none

/-- An identifier, which is a run of at least one word character, and what follows it. -/
def identifier? (t : Text) : Option (Text × Text) :=
  let id := t.takeWhile isWord
  if id.isEmpty then none else some (id, t.dropWhile isWord)

/-- The declaration that the text starts with and what follows its type. -/
def header? (t : Text) : Option (Declaration × Text) := do
  let t ← Text.after? keyword t
  let t ← afterBlanks? t
  let (id, t) ← identifier? t
  let t ← afterBlanks? t
  let (type, rest) ← quotedType? t
  return (⟨id, type⟩, rest)

/-- The text starts with the word `resource` and a blank. -/
def startsWord (t : Text) : Bool :=
  match Text.after? keyword t with
  | some (c :: _) => isBlank c
  | _ => false

/-- The line that the text starts with begins, after indentation, with the word `resource` and a
blank. -/
def startsLine (t : Text) : Bool := startsWord (t.dropWhile isIndent)

/-! ## Finding declarations -/

/-- The declarations of a text whose first `skip` characters belong to a declaration already
found. `inWord` says that the character before was a word character, so that no word starts
here. -/
def allFrom : (inWord : Bool) → (skip : Nat) → Text → List Declaration
  | _, _, [] => []
  | inWord, skip + 1, _ :: r => allFrom inWord skip r
  | inWord, 0, c :: r =>
    match if inWord then none else header? (c :: r) with
    | some (d, rest) => d :: allFrom false (r.length - rest.length) r
    | none => allFrom (isWord c) 0 r

/-- The declarations of a text, from left to right and without overlap. -/
def all (t : Text) : List Declaration := allFrom false 0 t

theorem allFrom_skip (inWord : Bool) (skip : Nat) (t : Text) :
    allFrom inWord skip t = allFrom inWord 0 (t.drop skip) := by
  induction t generalizing skip with
  | nil => cases skip <;> rfl
  | cons c r ih =>
    cases skip with
    | zero => rfl
    | succ skip => exact ih skip

/-! ## Property blocks -/

/-- The text before the next line that begins with the word `resource` and a blank. `lineStart`
says that a line begins here. -/
def untilDeclaration : (lineStart : Bool) → Text → Text
  | _, [] => []
  | lineStart, c :: r =>
    if lineStart && startsLine (c :: r) then [] else c :: untilDeclaration (c == '\n') r

/-- The offset of the next line after `start` that begins with the word `resource` and a blank;
the length of the text if there is none. -/
def nextOffset (t : Text) (start : Int) : Nat :=
  let offset := min (start + 1).toNat t.length
  let lineStart := offset = 0 || t[offset - 1]? = some ↑ '\n'
  offset + (untilDeclaration lineStart (t.drop offset)).length

/-- What follows the next opening brace that comes before the next word `resource` with a blank
after it. -/
def afterBrace? : (inWord : Bool) → Text → Option Text
  | _, [] => none
  | inWord, c :: r =>
    if c = '\x7b' then some r
    else if !inWord && startsWord (c :: r) then none
    else afterBrace? (isWord c) r

/-- What `next` makes of the text after a run of at least one blank; a longer run is tried before
a shorter one. -/
def afterBlanksThen? {α : Type} (next : Text → Option α) : Text → Option α
  | [] => none
  | c :: r => if isBlank c then afterBlanksThen? next r <|> next r else none

/-- When the text starts with a declaration of `id` that a block follows: the text after the
block's opening brace. -/
def openBlock? (id t : Text) : Option Text := do
  let t ← Text.after? keyword t
  let t ← afterBlanksThen? (fun t => (Text.after? id t).bind afterBlanks?) t
  let (_, rest) ← quotedType? t
  afterBrace? false rest

/-- The text after the opening brace of the first declaration of `id` that a block follows. -/
def firstBlockFrom? (id : Text) : (inWord : Bool) → Text → Option Text
  | _, [] => none
  | inWord, c :: r =>
    (if inWord then none else openBlock? id (c :: r)) <|> firstBlockFrom? id (isWord c) r

/-- The body of the block whose text after the opening brace is given: up to the matching brace
when the block closes before the next declaration, else up to the first closing brace or that
declaration. -/
def blockBody (t : Text) : Text :=
  let segment := untilDeclaration false t
  (Block.body? (↑ '\x7b' :: segment)).getD (segment.takeWhile (· != ↑ '\x7d'))

/-- The property block that the source gives to `id`. -/
def body? (source id : Text) : Option Text := (firstBlockFrom? id false source).map blockBody

end Declaration

/-! ## Resource sets -/

namespace ResourceSet

/-- Adds the resource of a declaration, unless its identifier is there or its type is blank. -/
def declare (rs : ResourceSet) (d : Declaration) : ResourceSet :=
  if rs.contains d.id || (Text.trim d.type).isEmpty then rs
  else rs.insert d.id { id := d.id, type := d.type }

/-- The resources that a source declares, each with the body of its block. -/
def extract (source : Text) : ResourceSet :=
  ((Declaration.all source).foldl declare ∅).mapValues fun id r =>
    { r with body := Declaration.body? source id }

end ResourceSet

end Groundplan

import Groundplan.Text.Basic

/-!
# Positions in a YAML text

Reading a YAML text goes from left to right and needs to know the line and the column it has
reached, because indentation is structure. A cursor is the text still to be read with its offset,
line and column. Faults are the reasons why a text is no YAML document.
-/

namespace Groundplan.Yaml

/-- Why a text is not a document that can be read. -/
inductive Fault where
  /-- A character that may not occur in a document. -/
  | unprintable
  /-- A character that no token starts with. -/
  | unexpectedCharacter
  /-- The text of a tag, anchor, alias or directive is malformed. -/
  | malformedToken
  /-- The header of a block scalar is malformed. -/
  | malformedBlockHeader
  /-- A quoted scalar is not closed, or holds a document marker. -/
  | unclosedQuote
  /-- An escape in a double-quoted scalar is not known. -/
  | unknownEscape
  /-- An escape in a double-quoted scalar asks for a code point beyond the last one. -/
  | escapeBeyondRange
  /-- An escape in a double-quoted scalar asks for a number of more than 31 bits. -/
  | escapeTooLarge
  /-- A key without the colon it needs. -/
  | missingColon
  /-- An entry, key or value where none may start. -/
  | misplacedIndicator
  /-- A token that cannot follow here. -/
  | unexpectedToken
  /-- A directive that repeats another or asks for an unknown version. -/
  | badDirective
  | undefinedTagHandle
  | undefinedAlias
  | duplicateAnchor
  /-- A second document in the text. -/
  | secondDocument
  /-- A tag that stands for no kind of value. -/
  | unknownTag
  /-- A node of the wrong kind for its tag. -/
  | wrongKind
  /-- A collection as the key of a map. -/
  | collectionAsKey
deriving DecidableEq, Repr

/-- The wording of a fault. -/
def Fault.message : Fault → Text
  | unprintable => "a character that may not occur"
  | unexpectedCharacter => "a character that starts no token"
  | malformedToken => "a malformed tag, anchor, alias or directive"
  | malformedBlockHeader => "a malformed header of a block scalar"
  | unclosedQuote => "a quoted scalar that is not closed"
  | unknownEscape => "an unknown escape"
  | escapeBeyondRange => "an escape beyond the last code point"
  | escapeTooLarge => "an escape with a number of more than 31 bits"
  | missingColon => "a key without a colon"
  | misplacedIndicator => "an entry, key or value that may not start here"
  | unexpectedToken => "a token that cannot follow here"
  | badDirective => "a directive that repeats another or asks for an unknown version"
  | undefinedTagHandle => "a tag handle that is not defined"
  | undefinedAlias => "an alias that is not defined"
  | duplicateAnchor => "an anchor that is defined twice"
  | secondDocument => "a second document"
  | unknownTag => "a tag that stands for no kind of value"
  | wrongKind => "a node of the wrong kind for its tag"
  | collectionAsKey => "a collection as a key"

/-! ## Classes of characters -/

/-- A character that ends a line. -/
def isBreak (c : CodePoint) : Bool :=
  c == '\n' || c == '\r' || c == '\u0085' || c == '\u2028' || c == '\u2029'

/-- A space, or the end of a line or of the text. -/
def endsField : Option CodePoint → Bool
  | none => true
  | some c => c == ' ' || isBreak c

/-- A space or tab, or the end of a line or of the text. -/
def endsWord : Option CodePoint → Bool
  | none => true
  | some c => c == ' ' || c == '\t' || isBreak c

/-- The end of a line or of the text. -/
def endsLine : Option CodePoint → Bool
  | none => true
  | some c => isBreak c

/-- A character of the name of an anchor, an alias, a directive or a tag handle. -/
def isNameChar (c : CodePoint) : Bool := c.isAlphanum || c == '-' || c == '_'

/-- The byte order mark, which may start a text and takes up no column. -/
def byteOrderMark : CodePoint := '\ufeff'

/-- A character that may occur in a document. -/
def isAllowed (c : CodePoint) : Bool :=
  let n := c.toNat
  n = 9 || n = 10 || n = 13 || (0x20 ≤ n && n ≤ 0x7e) || n = 0x85 || (0xa0 ≤ n && n ≤ 0xd7ff) ||
    (0xe000 ≤ n && n ≤ 0xfffd) || 0x10000 ≤ n

/-! ## Cursors -/

/-- The text still to be read and where it stands. -/
structure Cursor where
  rest : Text
  offset : Nat := 0
  line : Nat := 0
  column : Nat := 0

namespace Cursor

/-- The next character. -/
def peek? (c : Cursor) : Option CodePoint := c.rest.head?

/-- The character `n` places ahead. -/
def peekAt? (c : Cursor) (n : Nat) : Option CodePoint := c.rest[n]?

/-- The text is at its end. -/
def atEnd (c : Cursor) : Bool := c.rest.isEmpty

/-- The cursor after the next character. -/
def next (c : Cursor) : Cursor :=
  match c.rest with
  | [] => c
  | a :: rest =>
    if isBreak a && !(a == '\r' && rest.head? = some ↑ '\n') then
      ⟨rest, c.offset + 1, c.line + 1, 0⟩
    else if a == byteOrderMark then ⟨rest, c.offset + 1, c.line, c.column⟩
    else ⟨rest, c.offset + 1, c.line, c.column + 1⟩

/-- The cursor after `n` characters. -/
def advance : Nat → Cursor → Cursor
  | 0, c => c
  | n + 1, c => advance n c.next

/-- The longest run of characters that satisfy `p`, and the cursor after it. -/
def span (p : CodePoint → Bool) (c : Cursor) : Text × Cursor :=
  let run := c.rest.takeWhile p
  (run, advance run.length c)

/-- The cursor after the longest run of characters that satisfy `p`. -/
def skip (p : CodePoint → Bool) (c : Cursor) : Cursor := (c.span p).2

/-- The cursor after the spaces. -/
def skipSpaces (c : Cursor) : Cursor := c.skip (· == ' ')

/-- The cursor at the end of the line, if a comment starts here. -/
def skipComment (c : Cursor) : Cursor :=
  if c.peek? = some ↑ '#' then c.skip fun a => !isBreak a else c

/-- The end of a line, as it counts in a scalar, and the cursor after it. The two characters of a
carriage return with a newline are one end of a line. -/
def lineBreak? (c : Cursor) : Option (CodePoint × Cursor) :=
  match c.rest with
  | '\r' :: '\n' :: _ => some ('\n', advance 2 c)
  | a :: _ =>
    if a == '\n' || a == '\r' || a == '\u0085' then some ('\n', c.next)
    else if a == '\u2028' || a == '\u2029' then some (a, c.next)
    else none
  | [] => none

/-- The cursor after the end of the line, if it is there. -/
def skipBreak (c : Cursor) : Cursor := (c.lineBreak?.map Prod.snd).getD c

/-- A document marker, `---` or `...` as a word of its own. -/
def atMarker (c : Cursor) : Bool :=
  (Text.startsWith "---" c.rest || Text.startsWith "..." c.rest) && endsWord (c.peekAt? 3)

end Cursor

end Groundplan.Yaml

import Groundplan.Text.Basic

/-!
# Property blocks

A property block is text between balanced braces. Braces inside quoted strings, line comments and
block comments do not count. `Block.body?` reads the block at the start of a text and gives what
stands between its outermost braces, or nothing when the block does not close.

Reading goes character by character. The *context* says what the next character belongs to, the
*depth* counts the open braces. A text that does not start with a brace is read the same way; its
depth may then go below zero.
-/

namespace Groundplan.Block

/-- What the next character belongs to. -/
inductive Context where
  /-- Plain text, where braces count. -/
  | code
  /-- A string, up to the next quote of the same kind. -/
  | quoted (quote : CodePoint)
  /-- The character after a backslash in a string. -/
  | escaped (quote : CodePoint)
  /-- A line comment, up to the end of the line. -/
  | lineComment
  /-- A block comment, up to the next `*/`. -/
  | blockComment
deriving DecidableEq, Repr

/-- `'` and `"` open a string. -/
def isQuote (c : CodePoint) : Bool := c == '\'' || c == '"'

/-- The text before the brace that brings the depth back to zero. -/
def beforeClose? : Context → (depth : Int) → Text → Option Text
  | _, _, [] => none
  | .quoted q, d, c :: r =>
    let next := if c = '\\' then .escaped q else if c = q then .code else .quoted q
    (beforeClose? next d r).map (c :: ·)
  | .escaped q, d, c :: r => (beforeClose? (.quoted q) d r).map (c :: ·)
  | .lineComment, d, c :: r =>
    (beforeClose? (if c = '\n' then .code else .lineComment) d r).map (c :: ·)
  | .blockComment, d, '*' :: '/' :: r => (beforeClose? .code d r).map (↑ '*' :: ↑ '/' :: ·)
  | .blockComment, d, c :: r => (beforeClose? .blockComment d r).map (c :: ·)
  | .code, d, '/' :: '/' :: r => (beforeClose? .lineComment d r).map (↑ '/' :: ↑ '/' :: ·)
  | .code, d, '/' :: '*' :: r => (beforeClose? .blockComment d r).map (↑ '/' :: ↑ '*' :: ·)
  | .code, d, c :: r =>
    if isQuote c then (beforeClose? (.quoted c) d r).map (c :: ·)
    else if c = '\x7b' then (beforeClose? .code (d + 1) r).map (c :: ·)
    else if c = '\x7d' then
      if d = 1 then some [] else (beforeClose? .code (d - 1) r).map (c :: ·)
    else (beforeClose? .code d r).map (c :: ·)

/-- A block does not close where the text runs out. -/
theorem beforeClose?_nil (context : Context) (depth : Int) :
    beforeClose? context depth [] = none := by
  rw [beforeClose?]

/-- What stands between the outermost braces of the block that the text starts with. -/
def body? (t : Text) : Option Text := (beforeClose? .code 0 t).map List.tail

end Groundplan.Block

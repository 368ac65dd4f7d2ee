import Groundplan.Text.Basic
import Groundplan.Text.Printable

/-!
# Quoted text

How a message shows a text that came from a file: between quotes on one line, so that blanks and
control characters can be told apart. The quote is `'`, or `"` for a text that holds `'` and no
`"`. Backslash, the quote and unprintable characters are escaped; every other character stands for
itself.
-/

namespace Groundplan.Text

/-- A number in base sixteen, as an escape of two, four or eight places. -/
def hexEscape (n : Nat) : Text :=
  if n < 0x100 then "\\x" ++ ofHex 2 n
  else if n < 0x10000 then "\\u" ++ ofHex 4 n
  else "\\U" ++ ofHex 8 n

/-- One character between the quotes `quote`. -/
def quotedChar (quote c : CodePoint) : Text :=
  if c = quote ∨ c = '\\' then ['\\', c]
  else if c = '\t' then "\\t"
  else if c = '\n' then "\\n"
  else if c = '\r' then "\\r"
  else if isPrintable c then [c]
  else hexEscape c.toNat

/-- The quote that a text is shown between. -/
def quoteFor (t : Text) : CodePoint :=
  if ↑ '\'' ∈ t ∧ ↑ '"' ∉ t then '"' else '\''

/-- The text between quotes. -/
def quoted (t : Text) : Text :=
  let quote := quoteFor t
  quote :: t.flatMap (quotedChar quote) ++ [quote]

end Groundplan.Text

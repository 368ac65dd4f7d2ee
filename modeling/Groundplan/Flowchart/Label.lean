import Groundplan.Text.CharRef

/-!
# Labels of a flowchart

The text between the quotes of a flowchart node. Character references in it are decoded, runs of
blanks become one space, and the five characters that end a label or draw something are written
as codes. Lines of a label are joined by a line break tag.
-/

namespace Groundplan.Label

/-- What stands between two lines of a label. -/
def lineBreak : Text := "<br/>"

/-- The characters that cannot stand in a label, in the order in which they are replaced, and
their codes. -/
def codes : List (CodePoint × Text) :=
  [('&', "#amp;"), ('<', "#lt;"), ('>', "#gt;"), ('"', "#quot;"), ('|', "#124;")]

/-- Every `c` replaced by `code`. -/
def replaceChar (c : CodePoint) (code : Text) (t : Text) : Text :=
  t.flatMap fun a => if a = c then code else [a]

/-- The characters of `codes` replaced one after the other. -/
def encode (t : Text) : Text := codes.foldl (fun t (c, code) => replaceChar c code t) t

/-- The text with its character references decoded, its runs of blanks made one space, and its
ends trimmed. -/
def normalize (t : Text) : Text := Text.trim (Text.collapse (CharRef.decode t))

/-- A text as a label shows it. -/
def escape (t : Text) : Text := encode (normalize t)

/-- The label of several lines; empty lines are left out. -/
def ofLines (ts : List Text) : Text :=
  Text.join lineBreak ((ts.filter fun t => !t.isEmpty).map escape)

end Groundplan.Label

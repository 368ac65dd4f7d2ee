import Groundplan.Text.Lines

/-!
# Repairing unquoted descriptions

A description such as `title: Setup: part one` is no YAML, because a colon before a blank cannot
stand in a plain scalar. The repair puts quotes around such values, line by line: only values of
the keys that hold free text, only if they are not quoted already and are not block scalars, and
only if they hold a colon before a blank or at their end. A comment behind the value stays
outside the quotes.
-/

namespace Groundplan

namespace Yaml.Repair

/-- The keys whose values are free text. -/
def freeTextKeys : List Text :=
  ["name", "description", "displayName", "title", "label", "summary"]

/-- A line that was changed: its number, counted from one, and what it was and is. -/
structure Change where
  line : Nat
  before : Text
  after : Text
deriving DecidableEq, Repr

/-- The key of free text that the text starts with, and what follows its colon. -/
def afterKey? (t : Text) : Option Text :=
  freeTextKeys.findSome? fun key => Text.after? (key ++ ([':'] : Text)) t

/-- The text after a dash and blanks, if it starts with a dash. -/
def skipDash : Text → Text
  | '-' :: r => Text.trimStart r
  | t => t

/-- A line as the part up to the value of a key of free text, and that value. -/
def value? (line : Text) : Option (Text × Text) := do
  let rest ← afterKey? (skipDash (Text.trimStart line))
  let value := Text.trimStart rest
  if value.isEmpty then none
  else return (line.take (line.length - value.length), value)

/-- The value is quoted or a block scalar. -/
def isMarked (value : Text) : Bool :=
  value.head?.any fun c : CodePoint => c == '\'' || c == '"' || c == '|' || c == '>'

/-- A value as the part before a comment, and the comment with the blanks before it. -/
def splitComment : Text → Text × Text
  | [] => ([], [])
  | c :: r =>
    if isBlank c && (Text.trimStart r).head? = some ↑ '#' then ([], c :: r)
    else
      let (body, comment) := splitComment r
      (c :: body, comment)

/-- The value holds a colon before a blank or at its end. -/
def needsQuotes : Text → Bool
  | [] => false
  | c :: r => (c == ':' && r.head?.all isBlank) || needsQuotes r

/-- The value with its backslashes and quotation marks escaped. -/
def escape (t : Text) : Text :=
  t.flatMap fun c : CodePoint => if c = '\\' ∨ c = '"' then ['\\', c] else [c]

/-- The line with its value between quotes; nothing if the line needs no repair. -/
def line? (line : Text) : Option Text := do
  let (start, value) ← value? line
  if isMarked value then none
  else
    let (body, comment) := splitComment value
    if needsQuotes body then some (start ++ ↑ '"' :: escape body ++ ↑ '"' :: comment) else none

/-- A text with its lines repaired. -/
def text (t : Text) : Text :=
  let lines := (Text.fileLines t).map fun line => (line? line).getD line
  Text.join ['\n'] lines ++ (if t.getLast? = some ↑ '\n' then ['\n'] else [] : Text)

/-- The lines that a repair changes. -/
def changes (t : Text) : List Change :=
  (Text.fileLines t).zipIdx.filterMap fun (line, i) =>
    (line? line).map fun after => { line := i + 1, before := line, after }

end Yaml.Repair

end Groundplan

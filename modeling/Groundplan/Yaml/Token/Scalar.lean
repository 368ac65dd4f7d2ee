import Groundplan.Text.CharRef
import Groundplan.Yaml.Cursor

/-!
# Scalars of a YAML text

The three ways to write a scalar: plain, between quotes, and as a block of indented lines. Each
function reads one scalar at a cursor and gives its value and the cursor after it.

A line break inside a plain or quoted scalar is folded: one break is a space, and of several the
first is dropped. A block scalar keeps its breaks, or folds those between lines that do not start
with a blank.
-/

namespace Groundplan.Yaml

open Cursor

/-! ## Plain scalars -/

/-- The brackets, braces and commas of flow collections. -/
def isFlowIndicator (c : CodePoint) : Bool :=
  c == ',' || c == '[' || c == ']' || c == '\x7b' || c == '\x7d'

/-- How many characters from here on belong to one word of a plain scalar. -/
def plainLength (inFlow : Bool) : Text → Nat
  | [] => 0
  | c :: r =>
    if endsWord (some c) then 0
    else if c == ':' && (endsWord r.head? || (inFlow && r.head?.any isFlowIndicator)) then 0
    else if inFlow && (isFlowIndicator c || c == '?') then 0
    else plainLength inFlow r + 1

/-- The breaks of empty lines and the cursor after them and the spaces between them; nothing if a
document marker comes first. -/
def emptyLines? : (fuel : Nat) → Text → Cursor → Option Text × Cursor
  | 0, breaks, c => (some breaks, c)
  | fuel + 1, breaks, c =>
    if c.peek? = some ↑ ' ' then emptyLines? fuel breaks c.next
    else match c.lineBreak? with
      | none => (some breaks, c)
      | some (b, c) =>
        if c.atMarker then (none, c) else emptyLines? fuel (breaks ++ [b]) c

/-- A first line break and the further ones as they count in a folded scalar. -/
def folded (first : CodePoint) (breaks : Text) : Text :=
  if first != '\n' then first :: breaks else if breaks.isEmpty then [' '] else breaks

/-- What stands between two words of a plain scalar: as it counts in the scalar, whether a line
ended, and the cursor after it. -/
def plainSpaces (c : Cursor) : Text × Bool × Cursor :=
  let (spaces, c) := c.span (· == ↑ ' ')
  match c.lineBreak? with
  | none => (spaces, false, c)
  | some (first, c) =>
    if c.atMarker then ([], true, c)
    else match emptyLines? (c.rest.length + 1) [] c with
      | (some breaks, c) => (folded first breaks, true, c)
      | (none, c) => ([], true, c)

/-- A plain scalar: its value, whether it ended with a line, and the cursor after it. -/
structure Plain where
  value : Text
  lineEnded : Bool
  cursor : Cursor

/-- Reads the words of a plain scalar after `p`; `spaces` stand before the next word. -/
def plainFrom (inFlow : Bool) (indent : Int) : (fuel : Nat) → (spaces : Text) → Plain → Plain
  | 0, _, p => p
  | fuel + 1, spaces, p =>
    let length := plainLength inFlow p.cursor.rest
    if p.cursor.peek? = some ↑ '#' || length = 0 then p
    else
      let word := p.cursor.rest.take length
      let (after, lineEnded, c) := plainSpaces (advance length p.cursor)
      let p := ⟨p.value ++ spaces ++ word, lineEnded, c⟩
      if after.isEmpty || c.peek? = some ↑ '#' || (!inFlow && (c.column : Int) < indent) then p
      else plainFrom inFlow indent fuel after p

/-- The plain scalar at the cursor. Outside flow collections its further lines are indented by at
least `indent`. -/
def plain (inFlow : Bool) (indent : Int) (c : Cursor) : Plain :=
  plainFrom inFlow indent (c.rest.length + 1) [] ⟨[], false, c⟩

/-! ## Quoted scalars -/

/-- The breaks of empty lines inside a quoted scalar and the cursor after them and the blanks. -/
def quotedBreaks : (fuel : Nat) → Text → Cursor → Except Fault (Text × Cursor)
  | 0, breaks, c => .ok (breaks, c)
  | fuel + 1, breaks, c =>
    if c.atMarker then .error .unclosedQuote
    else
      let c := c.skip isIndent
      match c.lineBreak? with
      | some (b, c) => quotedBreaks fuel (breaks ++ [b]) c
      | none => .ok (breaks, c)

/-- Blanks and line breaks between two words of a quoted scalar. -/
def quotedSpaces (c : Cursor) : Except Fault (Text × Cursor) := do
  let (spaces, c) := c.span isIndent
  if c.atEnd then throw .unclosedQuote
  match c.lineBreak? with
  | none => return (spaces, c)
  | some (first, c) =>
    let (breaks, c) ← quotedBreaks (c.rest.length + 1) [] c
    return (folded first breaks, c)

/-- What a backslash with this letter stands for. -/
def escapedChar? : CodePoint → Option CodePoint
  | '0' => some '\x00'
  | 'a' => some '\x07'
  | 'b' => some '\x08'
  | 't' => some '\t'
  | '\t' => some '\t'
  | 'n' => some '\n'
  | 'v' => some '\x0b'
  | 'f' => some '\x0c'
  | 'r' => some '\r'
  | 'e' => some '\x1b'
  | ' ' => some ' '
  | '"' => some '"'
  | '\\' => some '\\'
  | '/' => some '/'
  | 'N' => some '\u0085'
  | '_' => some '\u00a0'
  | 'L' => some '\u2028'
  | 'P' => some '\u2029'
  | _ => none

/-- How many hexadecimal digits follow a backslash with this letter. -/
def escapeLength? : CodePoint → Option Nat
  | 'x' => some 2
  | 'u' => some 4
  | 'U' => some 8
  | _ => none

/-- The character with the code point that an escape gives, which may be a lone surrogate. -/
def escapedCode (n : Nat) : Except Fault CodePoint :=
  if 0x7fffffff < n then .error .escapeTooLarge
  else if 0x10ffff < n then .error .escapeBeyondRange
  else .ok (CodePoint.ofNat n)

/-- The escape after a backslash: what it stands for and the cursor after it. -/
def escape? (c : Cursor) : Except Fault (Text × Cursor) :=
  match c.peek? with
  | none => .error .unknownEscape
  | some letter =>
    match escapedChar? letter, escapeLength? letter with
    | some a, _ => .ok ([a], c.next)
    | none, some length =>
      let digits := c.next.rest.take length
      if digits.length = length && digits.all (fun a => (CharRef.hexDigit? a).isSome) then do
        return ([← escapedCode (CharRef.number 16 digits)], advance (length + 1) c)
      else .error .unknownEscape
    | none, none =>
      match c.lineBreak? with
      | some (_, c) => quotedBreaks (c.rest.length + 1) [] c
      | none => .error .unknownEscape

/-- Reads a scalar up to the closing `quote`, after the part `value`. -/
def quotedFrom (quote : CodePoint) : (fuel : Nat) → (value : Text) → Cursor →
    Except Fault (Text × Cursor)
  | 0, _, _ => .error .unclosedQuote
  | fuel + 1, value, c =>
    match c.rest with
    | [] => .error .unclosedQuote
    | a :: r =>
      if quote == '\'' && a == '\'' && r.head? = some ↑ '\'' then
        quotedFrom quote fuel (value ++ (['\''] : Text)) (advance 2 c)
      else if a == quote then .ok (value, c.next)
      else if quote == '"' && a == '\\' then do
        let (text, c) ← escape? c.next
        quotedFrom quote fuel (value ++ text) c
      else if endsWord (some a) then do
        let (text, c) ← quotedSpaces c
        quotedFrom quote fuel (value ++ text) c
      else
        let (run, c) := c.span fun a =>
          !(a == '\'' || a == '"' || a == '\\' || endsWord (some a))
        if run.isEmpty then quotedFrom quote fuel (value ++ [a]) c.next
        else quotedFrom quote fuel (value ++ run) c

/-- The quoted scalar at the cursor, which stands at its opening quote. -/
def quoted (quote : CodePoint) (c : Cursor) : Except Fault (Text × Cursor) :=
  quotedFrom quote (c.rest.length + 1) [] c.next

/-! ## Block scalars -/

/-- What happens to the line breaks at the end of a block scalar. -/
inductive Chomping where
  | clip
  | strip
  | keep
deriving DecidableEq, Repr

/-- The sign in the header of a block scalar. -/
def chomping? : Option CodePoint → Option Chomping
  | some '+' => some .keep
  | some '-' => some .strip
  | _ => none

/-- The digit in the header of a block scalar. -/
def increment? : Option CodePoint → Option Nat
  | some c => if c.isDigit then some (c.toNat - '0'.toNat) else none
  | none => none

/-- The header of a block scalar: a sign and a digit in any order, each at most once, then only
blanks and a comment on the line. -/
def blockHeader (c : Cursor) : Except Fault (Chomping × Option Nat × Cursor) := do
  let (chomping, increment, c) :=
    match chomping? c.peek? with
    | some chomping => match increment? c.next.peek? with
      | some n => (chomping, some n, advance 2 c)
      | none => (chomping, none, c.next)
    | none => match increment? c.peek? with
      | some n => match chomping? c.next.peek? with
        | some chomping => (chomping, some n, advance 2 c)
        | none => (.clip, some n, c.next)
      | none => (.clip, none, c)
  if increment = some 0 then throw .malformedBlockHeader
  unless endsField c.peek? do throw .malformedBlockHeader
  let c := c.skipSpaces.skipComment
  unless endsLine c.peek? do throw .malformedBlockHeader
  return (chomping, increment, c.skipBreak)

/-- The breaks of the leading empty lines of a block scalar, the largest indentation among them,
and the cursor after them. -/
def blockIndentation : (fuel : Nat) → (breaks : Text) → (widest : Nat) → Cursor →
    Text × Nat × Cursor
  | 0, breaks, widest, c => (breaks, widest, c)
  | fuel + 1, breaks, widest, c =>
    if c.peek? = some ↑ ' ' then blockIndentation fuel breaks (max widest c.next.column) c.next
    else match c.lineBreak? with
      | some (b, c) => blockIndentation fuel (breaks ++ [b]) widest c
      | none => (breaks, widest, c)

/-- The cursor after at most the spaces of the indentation. -/
def skipIndent (indent : Nat) (c : Cursor) : Cursor :=
  advance (min (indent - c.column) (c.rest.takeWhile (· == ↑ ' ')).length) c

/-- The breaks of empty lines in a block scalar and the cursor after them and the indentation. -/
def blockBreaks (indent : Nat) : (fuel : Nat) → (breaks : Text) → Cursor → Text × Cursor
  | 0, breaks, c => (breaks, c)
  | fuel + 1, breaks, c =>
    let c := skipIndent indent c
    match c.lineBreak? with
    | some (b, c) => blockBreaks indent fuel (breaks ++ [b]) c
    | none => (breaks, c)

/-- The break that ends a line of a block scalar, as text; nothing at the end of the text. -/
def endOfLine (c : Cursor) : Text × Cursor :=
  match c.lineBreak? with
  | some (b, c) => ([b], c)
  | none => ([], c)

/-- Reads the lines of a block scalar. `breaks` are the empty lines before the next line; the
answer is the text, the last line break, and the empty lines after it. -/
def blockLines (fold : Bool) (indent : Nat) : (fuel : Nat) → (value breaks : Text) → Cursor →
    Text × Text × Text × Cursor
  | 0, value, breaks, c => (value, [], breaks, c)
  | fuel + 1, value, breaks, c =>
    let startsBlank := c.peek?.any isIndent
    let (line, c) := c.span fun a => !isBreak a
    let value := value ++ breaks ++ line
    let (ended, c) := endOfLine c
    let (breaks, c) := blockBreaks indent (c.rest.length + 1) [] c
    if c.column = indent && !c.atEnd then
      let joint : Text :=
        if fold && ended == (['\n'] : Text) && !startsBlank && !c.peek?.any isIndent then
          if breaks.isEmpty then [' '] else []
        else ended
      blockLines fold indent fuel (value ++ joint) breaks c
    else (value, ended, breaks, c)

/-- The block scalar at the cursor, which stands at its indicator, inside a collection indented by
`parent`. -/
def block (fold : Bool) (parent : Int) (c : Cursor) : Except Fault (Text × Cursor) := do
  let (chomping, increment, c) ← blockHeader c.next
  let least := (max (parent + 1) 1).toNat
  let (indent, breaks, c) :=
    match increment with
    | some n =>
      let indent := least + n - 1
      let (breaks, c) := blockBreaks indent (c.rest.length + 1) [] c
      (indent, breaks, c)
    | none =>
      let (breaks, widest, c) := blockIndentation (c.rest.length + 1) [] 0 c
      (max least widest, breaks, c)
  let (value, ended, breaks, c) :=
    if c.column = indent && !c.atEnd then
      blockLines fold indent (c.rest.length + 1) [] breaks c
    else ([], [], breaks, c)
  match chomping with
  | .strip => return (value, c)
  | .clip => return (value ++ ended, c)
  | .keep => return (value ++ ended ++ breaks, c)

end Groundplan.Yaml

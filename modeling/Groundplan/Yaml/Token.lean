import Groundplan.Yaml.Token.Scalar

/-!
# Tokens of a YAML text

A token is one lexical unit: an indicator, a scalar, an anchor, an alias, a tag or a directive, or
one of the units that indentation stands for, such as the start and the end of a block mapping.

**Keys.** A key of a mapping needs no indicator before it; only the colon after it shows that it
was one. So the start of every token that may turn out to be a key is remembered (`PendingKey`),
and the colon puts the missing units in front of it. A pending key must end on its line and within
1024 characters.

**Indentation.** `Scan.indent` is the column of the innermost block collection. A token further to
the left closes collections, one further to the right may open one. Inside flow collections
indentation means nothing.

`Token.ofText` reads the tokens of a whole text.
-/

namespace Groundplan.Yaml

/-- The text of a tag: a handle that a directive may define, and what follows it. -/
structure TagText where
  handle : Option Text
  suffix : Text
deriving DecidableEq, Repr

/-- A line that starts with a percent sign. -/
inductive Directive where
  | version (major minor : Nat)
  | tag (handle start : Text)
  | other
deriving DecidableEq, Repr

/-- A lexical unit. -/
inductive Token where
  | streamEnd
  | directive (d : Directive)
  | documentStart
  | documentEnd
  | blockSequenceStart
  | blockMappingStart
  | blockEnd
  | flowSequenceStart
  | flowSequenceEnd
  | flowMappingStart
  | flowMappingEnd
  | key
  | value
  | blockEntry
  | flowEntry
  | anchor (name : Text)
  | alias (name : Text)
  | tag (t : TagText)
  | scalar (value : Text) (isPlain : Bool)
deriving DecidableEq, Repr

open Cursor

/-! ## Names, tags and directives -/

/-- A non-empty run of name characters after the indicator at the cursor. -/
def name (c : Cursor) : Except Fault (Text × Cursor) :=
  let (run, c) := c.span isNameChar
  if run.isEmpty then .error .malformedToken else .ok (run, c)

/-- What may follow an anchor or an alias. -/
def endsName (a : Option CodePoint) : Bool :=
  endsWord a || a.any fun c : CodePoint =>
    c == '?' || c == ':' || c == ',' || c == ']' || c == '\x7d' || c == '%' || c == '@' ||
      c == '\u0060'

/-- The name of the anchor or alias whose indicator is at the cursor. -/
def anchorName (c : Cursor) : Except Fault (Text × Cursor) := do
  let (name, c) ← name c.next
  if endsName c.peek? then return (name, c) else throw .malformedToken

/-- A character of a tag that is not escaped. -/
def isTagChar (c : CodePoint) : Bool :=
  c.isAlphanum || ("-;/?:@&=+$,_.!~*'()[]" : Text).contains c

/-- The bytes of a run of escapes such as `%C3%A9`, and the cursor after it. -/
def escapedBytes : (fuel : Nat) → (bytes : List UInt8) → Cursor → Except Fault (List UInt8 × Cursor)
  | 0, bytes, c => .ok (bytes, c)
  | fuel + 1, bytes, c =>
    match c.rest with
    | '%' :: a :: b :: _ =>
      match CharRef.hexDigit? a, CharRef.hexDigit? b with
      | some x, some y => escapedBytes fuel (bytes ++ [UInt8.ofNat (16 * x + y)]) (advance 3 c)
      | _, _ => .error .malformedToken
    | '%' :: _ => .error .malformedToken
    | _ => .ok (bytes, c)

/-- The text of a tag after its handle, with its escapes decoded. -/
def tagUriFrom : (fuel : Nat) → (uri : Text) → Cursor → Except Fault (Text × Cursor)
  | 0, uri, c => .ok (uri, c)
  | fuel + 1, uri, c =>
    if c.peek? = some ↑ '%' then do
      let (bytes, c) ← escapedBytes (c.rest.length + 1) [] c
      match String.fromUTF8? ⟨bytes.toArray⟩ with
      | some s => tagUriFrom fuel (uri ++ Text.ofString s) c
      | none => throw .malformedToken
    else
      let (run, c) := c.span isTagChar
      if run.isEmpty then .ok (uri, c) else tagUriFrom fuel (uri ++ run) c

/-- The text of a tag after its handle, which is not empty. -/
def tagUri (c : Cursor) : Except Fault (Text × Cursor) := do
  let (uri, c') ← tagUriFrom (c.rest.length + 1) [] c
  if uri.isEmpty && c'.rest.length = c.rest.length then throw .malformedToken else return (uri, c')

/-- A tag handle: `!`, `!!` or `!name!`. -/
def tagHandle (c : Cursor) : Except Fault (Text × Cursor) :=
  if c.peek? != some ↑ '!' then .error .malformedToken
  else if c.peekAt? 1 = some ↑ ' ' then .ok (['!'], c.next)
  else
    let (run, c) := c.next.span isNameChar
    if c.peek? = some ↑ '!' then .ok (↑ '!' :: run ++ (['!'] : Text), c.next)
    else .error .malformedToken

/-- A second exclamation mark in the word that the text starts with. -/
def hasHandle : Text → Bool
  | [] => false
  | c :: r => if endsField (some c) then false else c == '!' || hasHandle r

/-- The tag whose exclamation mark is at the cursor. -/
def tagText (c : Cursor) : Except Fault (TagText × Cursor) := do
  let (tag, c) ←
    if c.peekAt? 1 = some ↑ '<' then do
      let (uri, c) ← tagUri (advance 2 c)
      if c.peek? != some ↑ '>' then throw .malformedToken
      pure (({ handle := none, suffix := uri } : TagText), c.next)
    else if endsWord (c.peekAt? 1) then
      pure (({ handle := none, suffix := (['!'] : Text) } : TagText), c.next)
    else do
      let (handle, c) ← if hasHandle (c.rest.drop 1) then tagHandle c else pure (['!'], c.next)
      let (uri, c) ← tagUri c
      pure (({ handle := some handle, suffix := uri } : TagText), c)
  if endsField c.peek? then return (tag, c) else throw .malformedToken

/-- The digits of a version. -/
def versionNumber (c : Cursor) : Except Fault (Nat × Cursor) :=
  let (run, c) := c.span CodePoint.isDigit
  if run.isEmpty then .error .malformedToken else .ok (CharRef.number 10 run, c)

/-- The directive whose percent sign is at the cursor; the cursor after it is on the next line. -/
def directive (c : Cursor) : Except Fault (Directive × Cursor) := do
  let (name, c) ← name c.next
  unless endsField c.peek? do throw .malformedToken
  let (d, c) ←
    if name == ("YAML" : Text) then do
      let (major, c) ← versionNumber c.skipSpaces
      if c.peek? != some ↑ '.' then throw .malformedToken
      let (minor, c) ← versionNumber c.next
      unless endsField c.peek? do throw .malformedToken
      pure (Directive.version major minor, c)
    else if name == ("TAG" : Text) then do
      let (handle, c) ← tagHandle c.skipSpaces
      if c.peek? != some ↑ ' ' then throw .malformedToken
      let (start, c) ← tagUri c.skipSpaces
      unless endsField c.peek? do throw .malformedToken
      pure (Directive.tag handle start, c)
    else pure (Directive.other, c.skip fun a => !isBreak a)
  let c := c.skipSpaces.skipComment
  if endsLine c.peek? then return (d, c.skipBreak) else throw .malformedToken

/-! ## The state of a scan -/

/-- The start of a token that a colon may turn into a key. -/
structure PendingKey where
  /-- How many tokens come before it. -/
  position : Nat
  /-- The block collection can only go on with a key here. -/
  required : Bool
  offset : Nat
  line : Nat
  column : Nat

/-- What has been read so far. -/
structure Scan where
  cursor : Cursor
  tokens : Array Token := #[]
  /-- The number of open flow collections. -/
  flow : Nat := 0
  /-- The column of the innermost block collection; -1 outside all. -/
  indent : Int := -1
  /-- The columns of the collections around it. -/
  outer : List Int := []
  /-- A key without an indicator may start here. -/
  keyAllowed : Bool := true
  /-- The pending keys by the number of flow collections around them. -/
  pending : List (Nat × PendingKey) := []

namespace Scan

/-- A step of a scan. -/
abbrev Step := Scan → Except Fault Scan

/-- Adds a token. -/
def push (t : Token) (s : Scan) : Scan := { s with tokens := s.tokens.push t }

/-- Forgets the pending key inside as many flow collections as now. -/
def dropPending (s : Scan) : Scan :=
  { s with pending := s.pending.filter fun (level, _) => level != s.flow }

/-- Forgets that pending key; it is a fault if a key was required. -/
def removePending (s : Scan) : Except Fault Scan :=
  match s.pending.lookup s.flow with
  | some key => if key.required then .error .missingColon else .ok s.dropPending
  | none => .ok s

/-- Forgets the pending keys that no colon can reach any more. -/
def dropStale (s : Scan) : Except Fault Scan :=
  let stale (key : PendingKey) : Bool :=
    key.line != s.cursor.line || 1024 < s.cursor.offset - key.offset
  if s.pending.any fun (_, key) => stale key && key.required then .error .missingColon
  else .ok { s with pending := s.pending.filter fun (_, key) => !stale key }

/-- Remembers that a token which may be a key starts here. -/
def savePending (s : Scan) : Except Fault Scan :=
  if s.keyAllowed then do
    let s ← s.removePending
    let key : PendingKey := {
      position := s.tokens.size
      required := s.flow = 0 && s.indent = s.cursor.column
      offset := s.cursor.offset
      line := s.cursor.line
      column := s.cursor.column }
    return { s with pending := (s.flow, key) :: s.pending }
  else .ok s

/-- Closes the block collections to the right of a column. -/
def closeTo (column : Int) : (outer : List Int) → Scan → Scan
  | [], s => s
  | parent :: outer, s =>
    if column < s.indent then
      closeTo column outer { s.push .blockEnd with indent := parent, outer := outer }
    else s

/-- Closes the block collections to the right of a column, outside flow collections. -/
def unwind (column : Int) (s : Scan) : Scan :=
  if s.flow = 0 then closeTo column s.outer s else s

/-- The column is to the right of the innermost block collection, which then opens there. -/
def opensAt (column : Nat) (s : Scan) : Bool := s.indent < column

/-- Enters a block collection at a column. -/
def enter (column : Nat) (s : Scan) : Scan :=
  { s with indent := column, outer := s.indent :: s.outer }

/-! ## Blanks -/

/-- Skips spaces, comments and line breaks up to the next token. -/
def skipBlanks : (fuel : Nat) → Scan → Scan
  | 0, s => s
  | fuel + 1, s =>
    let c := s.cursor.skipSpaces.skipComment
    match c.lineBreak? with
    | some (_, c) =>
      skipBlanks fuel { s with cursor := c, keyAllowed := s.keyAllowed || s.flow = 0 }
    | none => { s with cursor := c }

/-- Skips what stands before the next token; at the start of the text also a byte order mark. -/
def toToken (s : Scan) : Scan :=
  let c := s.cursor
  let c := if c.offset = 0 && c.peek? = some byteOrderMark then c.next else c
  skipBlanks (c.rest.length + 1) { s with cursor := c }

/-! ## Steps -/

/-- The cursor moves on `n` characters. -/
def forward (n : Nat) (s : Scan) : Scan := { s with cursor := advance n s.cursor }

/-- The end of the text. -/
def streamEnd : Step := fun s => do
  let s ← (s.unwind (-1)).removePending
  return { s with keyAllowed := false, pending := [] }.push .streamEnd

/-- A directive. -/
def directiveToken : Step := fun s => do
  let s ← (s.unwind (-1)).removePending
  let (d, c) ← directive s.cursor
  return { s with keyAllowed := false, cursor := c }.push (.directive d)

/-- A document marker. -/
def marker (t : Token) : Step := fun s => do
  let s ← (s.unwind (-1)).removePending
  return ({ s with keyAllowed := false }.push t).forward 3

/-- The start of a flow collection. -/
def flowStart (t : Token) : Step := fun s => do
  let s ← s.savePending
  return ({ s with flow := s.flow + 1, keyAllowed := true }.push t).forward 1

/-- The end of a flow collection. -/
def flowEnd (t : Token) : Step := fun s => do
  let s ← s.removePending
  if s.flow = 0 then throw .unexpectedToken
  return ({ s with flow := s.flow - 1, keyAllowed := false }.push t).forward 1

/-- A comma in a flow collection. -/
def flowEntry : Step := fun s => do
  let s ← { s with keyAllowed := true }.removePending
  return (s.push .flowEntry).forward 1

/-- Opens a block collection at the cursor, outside flow collections, if the cursor is to the right
of the innermost one. Nothing may start here unless a key might. -/
def openBlock (start : Token) (s : Scan) : Except Fault Scan :=
  if s.flow ≠ 0 then .ok s
  else if !s.keyAllowed then .error .misplacedIndicator
  else if s.opensAt s.cursor.column then .ok ((s.enter s.cursor.column).push start)
  else .ok s

/-- The dash of a block sequence. -/
def blockEntry : Step := fun s => do
  let s ← s.openBlock .blockSequenceStart
  let s ← { s with keyAllowed := true }.removePending
  return (s.push .blockEntry).forward 1

/-- A question mark before a key. -/
def keyToken : Step := fun s => do
  let s ← s.openBlock .blockMappingStart
  let s ← { s with keyAllowed := s.flow = 0 }.removePending
  return (s.push .key).forward 1

/-- Puts tokens in front of those from `position` on. -/
def insertAt (position : Nat) (ts : List Token) (s : Scan) : Scan :=
  { s with tokens := s.tokens.extract 0 position ++ ts.toArray ++ s.tokens.extract position }

/-- A colon: before it stands a pending key, or one with an indicator, or none. -/
def valueToken : Step := fun s => do
  match s.pending.lookup s.flow with
  | some key =>
    let s := { s.dropPending with keyAllowed := false }
    let s :=
      if s.flow = 0 && s.opensAt key.column then
        (s.enter key.column).insertAt key.position [.blockMappingStart, .key]
      else s.insertAt key.position [.key]
    return (s.push .value).forward 1
  | none =>
    let s ← s.openBlock .blockMappingStart
    let s ← { s with keyAllowed := s.flow = 0 }.removePending
    return (s.push .value).forward 1

/-- An anchor or an alias. -/
def anchorToken (token : Text → Token) : Step := fun s => do
  let s ← s.savePending
  let (name, c) ← anchorName s.cursor
  return { s with keyAllowed := false, cursor := c }.push (token name)

/-- A tag. -/
def tagToken : Step := fun s => do
  let s ← s.savePending
  let (t, c) ← tagText s.cursor
  return { s with keyAllowed := false, cursor := c }.push (.tag t)

/-- A block scalar. -/
def blockScalar (fold : Bool) : Step := fun s => do
  let s ← { s with keyAllowed := true }.removePending
  let (value, c) ← block fold s.indent s.cursor
  return { s with cursor := c }.push (.scalar value false)

/-- A quoted scalar. -/
def quotedScalar (quote : CodePoint) : Step := fun s => do
  let s ← s.savePending
  let (value, c) ← quoted quote s.cursor
  return { s with keyAllowed := false, cursor := c }.push (.scalar value false)

/-- A plain scalar. -/
def plainScalar : Step := fun s => do
  let s ← s.savePending
  let p := plain (s.flow != 0) (s.indent + 1) s.cursor
  return { s with keyAllowed := p.lineEnded, cursor := p.cursor }.push (.scalar p.value true)

/-- The characters that no plain scalar starts with, blanks and ends of lines apart. -/
def indicators : Text := "-?:,[]\x7b\x7d#&*!|>'\"%@\u0060"

/-- A plain scalar starts at the cursor. -/
def startsPlain (s : Scan) (c : CodePoint) : Bool :=
  !(endsWord (some c) || indicators.contains c) ||
    (!endsWord (s.cursor.peekAt? 1) && (c == '-' || (s.flow = 0 && (c == '?' || c == ':'))))

/-- Reads the token that starts at the cursor. -/
def token : Step := fun s =>
  match s.cursor.peek? with
  | none => s.streamEnd
  | some c =>
    let lineStart := s.cursor.column = 0
    let alone := endsWord (s.cursor.peekAt? 1)
    if c == '%' && lineStart then s.directiveToken
    else if c == '-' && lineStart && s.cursor.atMarker then marker .documentStart s
    else if c == '.' && lineStart && s.cursor.atMarker then marker .documentEnd s
    else if c == '[' then flowStart .flowSequenceStart s
    else if c == '\x7b' then flowStart .flowMappingStart s
    else if c == ']' then flowEnd .flowSequenceEnd s
    else if c == '\x7d' then flowEnd .flowMappingEnd s
    else if c == ',' then s.flowEntry
    else if c == '-' && alone then s.blockEntry
    else if c == '?' && (s.flow ≠ 0 || alone) then s.keyToken
    else if c == ':' && (s.flow ≠ 0 || alone) then s.valueToken
    else if c == '*' then anchorToken .alias s
    else if c == '&' then anchorToken .anchor s
    else if c == '!' then s.tagToken
    else if c == '|' && s.flow = 0 then blockScalar false s
    else if c == '>' && s.flow = 0 then blockScalar true s
    else if c == '\'' || c == '"' then quotedScalar c s
    else if s.startsPlain c then s.plainScalar
    else .error .unexpectedCharacter

/-- Reads tokens up to the end of the text. -/
def toEnd : (fuel : Nat) → Scan → Except Fault (List Token)
  | 0, _ => .error .unexpectedCharacter
  | fuel + 1, s => do
    let s ← s.toToken.dropStale
    let s := s.unwind s.cursor.column
    let atEnd := s.cursor.atEnd
    let s ← s.token
    if atEnd then return s.tokens.toList else s.toEnd fuel

end Scan

/-- The tokens of a text. -/
def Token.ofText (t : Text) : Except Fault (List Token) :=
  if t.all isAllowed then Scan.toEnd (t.length + 2) { cursor := { rest := t } }
  else .error .unprintable

end Groundplan.Yaml

import Groundplan.Text.Base64
import Groundplan.Yaml.Node
import Groundplan.Yaml.Reader

/-!
# YAML documents as values

A reader of documents, which the program runs with. `Yaml.read` gives the value of the one document
of a text. Values follow the tags of the nodes: scalars are read as their tag asks, sequences become
lists and mappings maps.

**Maps.** A key that comes twice keeps its first place and its last value. The key `<<` merges the
entries of another mapping, or of several, in front of the map's own.

A text can fail in two ways (`Problem`): it is not a document, or it is one with a scalar that has
no value, such as a day that does not exist.
-/

namespace Groundplan.Yaml

/-- Why a text has no value. -/
inductive Problem where
  /-- The text is not a document of known kinds of values. -/
  | fault (f : Fault)
  /-- A code point beyond the last one. -/
  | beyondRange
  /-- The number of a code point with more than 31 bits. -/
  | tooLarge
  | calendar (e : CalendarError)
  /-- Not an integer in the given base. -/
  | notInteger (base : Nat) (t : Text)
  | tooManyDigits (count : Nat)
  | notNumber (t : Text)
  /-- A number without characters. -/
  | emptyNumber
  | notFlag (t : Text)
  | notTimestamp (t : Text)
deriving DecidableEq, Repr

namespace Problem

/-- The problem of a fault. -/
def ofFault : Fault → Problem
  | .escapeBeyondRange => .beyondRange
  | .escapeTooLarge => .tooLarge
  | f => .fault f

/-- The wording of a problem. -/
def message : Problem → Text
  | fault f => f.message
  | beyondRange => "chr() arg not in range(0x110000)"
  | tooLarge => "signed integer is greater than maximum"
  | calendar e => e.message
  | notInteger base t =>
    "invalid literal for int() with base " ++ Text.ofNat base ++ ": " ++ Text.quoted t
  | tooManyDigits count =>
    "Exceeds the limit (4300 digits) for integer string conversion: value has " ++
      Text.ofNat count ++ " digits"
  | notNumber t => "could not convert string to float: " ++ Text.quoted t
  | emptyNumber => "string index out of range"
  | notFlag t => Text.quoted t
  | notTimestamp t => "no timestamp: " ++ Text.quoted t

/-- The failure that a problem is. Where a scalar is looked up, searched or cut without asking
whether that can be done, the failure is of a class that is not one of wrong values. -/
def failure : Problem → ReaderFailure
  | fault f => .malformed f.message
  | emptyNumber => .raised (.other "IndexError") emptyNumber.message
  | notFlag t => .raised (.other "KeyError") (notFlag t).message
  | notTimestamp t => .raised (.other "AttributeError") (notTimestamp t).message
  | tooLarge => .raised (.other "OverflowError") tooLarge.message
  | problem => .raised .value problem.message

end Problem

/-- A value, or why there is none. -/
abbrev Reading := Except Problem

/-! ## Scalars -/

/-- The text without underscores. -/
def withoutUnderscores (t : Text) : Text := t.filter (· != ↑ '_')

/-- A sign and what follows it; no sign is plus. -/
def signed (t : Text) : Bool × Text :=
  match t with
  | '-' :: r => (true, r)
  | '+' :: r => (false, r)
  | r => (false, r)

/-- The most digits that a decimal integer may have. -/
def mostDigits : Nat := 4300

/-- The integer that digits in a base write, with a sign and blanks around them or without. -/
def integer (base : Nat) (t : Text) : Reading Int :=
  let (negative, digits) := signed (Text.trim t)
  let isDigit (c : CodePoint) : Bool := (CharRef.hexDigit? c).any (· < base)
  if digits.isEmpty || !digits.all isDigit then .error (.notInteger base t)
  else if base = 10 && mostDigits < digits.length then .error (.tooManyDigits digits.length)
  else
    let n : Int := CharRef.number base digits
    .ok (if negative then -n else n)

/-- The sum of parts to the base sixty, the last part first. -/
def sexagesimal : List Int → Int
  | [] => 0
  | part :: parts => part + 60 * sexagesimal parts

/-- The integer that a scalar writes. -/
def intOf (value : Text) : Reading Int := do
  let t := withoutUnderscores value
  if t.isEmpty then throw .emptyNumber
  let (negative, digits) := signed t
  let n ← match digits with
    | ['0'] => pure 0
    | '0' :: 'b' :: r => integer 2 r
    | '0' :: 'x' :: r => integer 16 r
    | '0' :: 'o' :: r => integer 8 r
    | '0' :: _ => integer 8 digits
    | [] => throw .emptyNumber
    | _ =>
      if digits.contains ':' then do
        let parts ← (Text.split (· == ':') digits).mapM (integer 10)
        pure (sexagesimal parts.reverse)
      else integer 10 digits
  return if negative then -n else n

/-- The number that a decimal writes, with a sign and blanks around it or without, or infinity, or
not a number. -/
def number (t : Text) : Reading Float :=
  let (negative, r) := signed (Text.trim t)
  let magnitude : Option Float :=
    if r == ("inf" : Text) || r == ("infinity" : Text) then some (1.0 / 0.0)
    else if r == ("nan" : Text) then some (0.0 / 0.0)
    else Decimal.unsigned? r
  match magnitude with
  | some x => .ok (if negative then -x else x)
  | none => .error (.notNumber t)

/-- The sum of parts to the base sixty, the last part first; `base` is the weight of the next
part. -/
def sexagesimalFloat : (base sum : Float) → List Float → Float
  | _, sum, [] => sum
  | base, sum, part :: parts => sexagesimalFloat (base * 60) (sum + part * base) parts

/-- The floating-point number that a scalar writes. -/
def floatOf (value : Text) : Reading Float := do
  let t := Tag.lower (withoutUnderscores value)
  if t.isEmpty then throw .emptyNumber
  let (negative, r) := signed t
  let x ←
    if r == (".inf" : Text) then pure (1.0 / 0.0)
    else if r == (".nan" : Text) then return 0.0 / 0.0
    else if r.contains ':' then do
      let parts ← (Text.split (· == ':') r).mapM number
      pure (sexagesimalFloat 1.0 0.0 parts.reverse)
    else number r
  return if negative then -x else x

/-- The date or the moment that a scalar writes. -/
def timestampOf (value : Text) : Reading Value :=
  match Timestamp.ofText? value with
  | none => .error (.notTimestamp value)
  | some t =>
    match t.time with
    | none => match Date.of? t.year t.month t.day with
      | .ok d => .ok (.date d)
      | .error e => .error (.calendar e)
    | some time =>
      match Moment.of? t.year t.month t.day time.hour time.minute time.second
          (Timestamp.microseconds time.fraction) time.offset with
      | .ok m => .ok (.moment m)
      | .error e => .error (.calendar e)

/-- The value of a scalar with a tag. -/
def scalarValue (tag : Tag) (value : Text) : Reading Value :=
  match tag with
  | .null => .ok .null
  | .str => .ok (.text value)
  | .bool => match Tag.flagWord? (Tag.lower value) with
    | some b => .ok (.flag b)
    | none => .error (.notFlag value)
  | .int => .int <$> intOf value
  | .float => .float <$> floatOf value
  | .timestamp => timestampOf value
  | .binary =>
    if value.all fun c => c.toNat < 0x80 then
      match Base64.decode? value with
      | some bytes => .ok (.bytes bytes)
      | none => .error (.fault .wrongKind)
    else .error (.fault .wrongKind)
  | .omap | .pairs | .set | .seq | .map => .error (.fault .wrongKind)
  | .merge | .value | .other _ => .error (.fault .unknownTag)

/-- The tag is that of a kind of scalar. -/
def Tag.isScalar : Tag → Bool
  | .null | .bool | .int | .float | .binary | .timestamp | .str => true
  | _ => false

/-! ## Collections -/

/-- What stands for a mapping whose tag is that of a scalar: the scalar at its key `=`. -/
def scalarOf? : Node → Option Text
  | .scalar _ value => some value
  | .mapping _ entries => valueText? entries
  | _ => none
where
  /-- The scalar at the first key `=`. -/
  valueText? : List (Node × Node) → Option Text
    | [] => none
    | (.scalar .value _, node) :: _ => scalarOf? node
    | _ :: rest => valueText? rest

/-- The tag of a node; an enclosing collection has none of its own. -/
def Node.tag? : Node → Option Tag
  | .scalar tag _ => some tag
  | .sequence tag _ => some tag
  | .mapping tag _ => some tag
  | .enclosing _ => none

/-- The map of entries whose keys are no collections. -/
def mapEntries (entries : List (Value × Value)) : Reading (List (Value × Value)) :=
  if entries.all fun (key, _) => key.isKey then .ok (Value.distinctEntries entries)
  else .error (.fault .collectionAsKey)

mutual

/-- The value of a node. -/
def valueOf : Node → Reading Value
  | .enclosing isMapping => .ok (.enclosing isMapping)
  | .scalar tag value => scalarValue tag value
  | .sequence tag items =>
    match tag with
    | .seq => .list <$> valuesOf items
    | .omap | .pairs => .pairs <$> pairsOf items
    | .merge | .value | .other _ => .error (.fault .unknownTag)
    | _ => .error (.fault .wrongKind)
  | .mapping tag entries =>
    match tag with
    | .map => do
      let merged ← mergedEntries entries
      return .map (← mapEntries (merged ++ (← ownEntries entries)))
    | .set => do
      let merged ← mergedEntries entries
      return .set ((← mapEntries (merged ++ (← ownEntries entries))).map Prod.fst)
    | .merge | .value | .other _ => .error (.fault .unknownTag)
    | tag =>
      match scalarOf?.valueText? entries with
      | some value =>
        if tag.isScalar then scalarValue tag value else .error (.fault .wrongKind)
      | none => .error (.fault .wrongKind)

/-- The values of nodes. -/
def valuesOf : List Node → Reading (List Value)
  | [] => .ok []
  | node :: rest => do
    let value ← valueOf node
    return value :: (← valuesOf rest)

/-- The pairs of a sequence of mappings with one entry each. -/
def pairsOf : List Node → Reading (List (Value × Value))
  | [] => .ok []
  | .mapping _ [(key, value)] :: rest => do
    let key ← valueOf key
    let value ← valueOf value
    return (key, value) :: (← pairsOf rest)
  | _ :: _ => .error (.fault .wrongKind)

/-- The entries of a mapping other than those that are merged into it. The key `=` is a text. -/
def ownEntries : List (Node × Node) → Reading (List (Value × Value))
  | [] => .ok []
  | (key, value) :: rest =>
    match key.tag? with
    | some .merge => ownEntries rest
    | some .value => do
      let value ← valueOf value
      match scalarOf? key with
      | some t => return (.text t, value) :: (← ownEntries rest)
      | none => throw (.fault .wrongKind)
    | _ => do
      let key ← valueOf key
      let value ← valueOf value
      return (key, value) :: (← ownEntries rest)

/-- The entries that are merged into a mapping. -/
def mergedEntries : List (Node × Node) → Reading (List (Value × Value))
  | [] => .ok []
  | (key, value) :: rest =>
    match key.tag? with
    | some .merge => do
      let merged ← mergeOf value
      return merged ++ (← mergedEntries rest)
    | _ => mergedEntries rest

/-- The entries that the value of a key `<<` adds: those of a mapping, or those of several
mappings, the last mapping first. -/
def mergeOf : Node → Reading (List (Value × Value))
  | .mapping _ entries => do
    let merged ← mergedEntries entries
    return merged ++ (← ownEntries entries)
  | .sequence _ items => mergeAll items
  | .enclosing true => .ok []
  | _ => .error (.fault .wrongKind)

/-- The entries of several mappings, the last mapping first. -/
def mergeAll : List Node → Reading (List (Value × Value))
  | [] => .ok []
  | .mapping _ entries :: rest => do
    let merged ← mergedEntries entries
    let own ← ownEntries entries
    return (← mergeAll rest) ++ merged ++ own
  | _ :: _ => .error (.fault .wrongKind)

end

/-! ## Texts -/

/-- The value of the only document of a text; null if there is none. -/
def read (t : Text) : Reading Value :=
  match (do Node.ofTokens? (← Token.ofText t)) with
  | .error f => .error (.ofFault f)
  | .ok none => .ok .null
  | .ok (some root) => valueOf root

/-- The reader of documents that the program runs with. -/
def reader : Reader := fun t => (read t).mapError Problem.failure

end Groundplan.Yaml

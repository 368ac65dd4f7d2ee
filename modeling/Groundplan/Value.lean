import Groundplan.Calendar
import Groundplan.Decimal
import Groundplan.Text.Quoted

/-!
# Values

What a settings document or a template configuration can hold: scalars, lists, maps and the rarer
collections of the format. Maps keep the order of their keys.

Keys are compared by value across the kinds of numbers, so `1`, `1.0` and `true` are one key
(`Value.sameKey`). `Value.display` is how a message shows a value, `Value.typeName` how it names
its kind.
-/

namespace Groundplan

/-- A value of a document. -/
inductive Value where
  | null
  | flag (b : Bool)
  | int (n : Int)
  | float (x : Float)
  | text (t : Text)
  | date (d : Date)
  | moment (m : Moment)
  | bytes (b : List UInt8)
  | list (items : List Value)
  /-- A list of pairs, which is how ordered maps with repeated keys are kept. -/
  | pairs (items : List (Value × Value))
  | map (entries : List (Value × Value))
  | set (members : List Value)
  /-- A list or a map that this value is a part of. -/
  | enclosing (isMap : Bool)

namespace Value

instance : Inhabited Value := ⟨null⟩

/-- How a message names the kind of a value. -/
def typeName : Value → Text
  | null => "NoneType"
  | flag _ => "bool"
  | int _ => "int"
  | float _ => "float"
  | text _ => "str"
  | date _ => "date"
  | moment _ => "datetime"
  | bytes _ => "bytes"
  | list _ | pairs _ | enclosing false => "list"
  | map _ | enclosing true => "dict"
  | set _ => "set"

/-! ## Keys -/

/-- The value can be the key of a map. -/
def isKey : Value → Bool
  | list _ | pairs _ | map _ | set _ | enclosing _ => false
  | _ => true

/-- The whole number that a truth value or a number is equal to. -/
def asInteger? : Value → Option Int
  | flag b => some (if b then 1 else 0)
  | int n => some n
  | float x => Decimal.integer? x
  | _ => none

/-- Two values are the same key. -/
def sameKey (a b : Value) : Bool :=
  match a.asInteger?, b.asInteger? with
  | some m, some n => m == n
  | none, none =>
    match a, b with
    | null, null => true
    | float x, float y => x == y
    | text s, text t => s == t
    | date c, date d => c == d
    | moment m, moment n => m.same n
    | bytes s, bytes t => s == t
    | _, _ => false
  | _, _ => false

/-- The value at a key. -/
def lookup? (key : Value) : List (Value × Value) → Option Value
  | [] => none
  | (k, v) :: rest => if k.sameKey key then some v else lookup? key rest

/-- Entries with the value `v` at `k`: in place of an earlier value, else at the end. -/
def insertEntry (k v : Value) : List (Value × Value) → List (Value × Value)
  | [] => [(k, v)]
  | (a, b) :: rest => if a.sameKey k then (a, v) :: rest else (a, b) :: insertEntry k v rest

/-- The entries of a map whose later entries replace earlier ones with the same key. -/
def distinctEntries (l : List (Value × Value)) : List (Value × Value) :=
  l.foldl (fun entries (k, v) => insertEntry k v entries) []

/-- Entries in which a value that is the whole map stands for itself: the map once more, in which
it is the mark again. -/
def unrolled (entries : List (Value × Value)) : List (Value × Value) :=
  entries.map fun (k, v) => (k, if v matches .enclosing true then .map entries else v)

/-! ## Display -/

/-- An integer with its sign. -/
def displayInt (n : Int) : Text := (if n < 0 then "-" else "") ++ Text.ofNat n.natAbs

/-- Bytes between quotes; those that are not printable ASCII are escaped. -/
def displayBytes (b : List UInt8) : Text :=
  let t : Text := b.map fun x => CodePoint.ofNat x.toNat
  let quote := Text.quoteFor t
  "b" ++ [quote] ++ t.flatMap (fun c =>
    if c.toNat < 0x80 then Text.quotedChar quote c else Text.hexEscape c.toNat) ++ [quote]

mutual

/-- The value as a message shows it. -/
def display : Value → Text
  | null => "None"
  | flag true => "True"
  | flag false => "False"
  | int n => displayInt n
  | float x => Decimal.ofFloat x
  | text t => Text.quoted t
  | date d => d.display
  | moment m => m.display
  | bytes b => displayBytes b
  | list items => "[" ++ Text.join ", " (displayItems items) ++ "]"
  | pairs items => "[" ++ Text.join ", " (displayPairs items) ++ "]"
  | map entries => "\x7b" ++ Text.join ", " (displayEntries entries) ++ "\x7d"
  | set [] => "set()"
  | set members => "\x7b" ++ Text.join ", " (displayItems members) ++ "\x7d"
  | enclosing false => "[...]"
  | enclosing true => "\x7b...\x7d"

/-- The values of a list, each as a message shows it. -/
def displayItems : List Value → List Text
  | [] => []
  | v :: rest => v.display :: displayItems rest

/-- Pairs between parentheses. -/
def displayPairs : List (Value × Value) → List Text
  | [] => []
  | (k, v) :: rest => ("(" ++ k.display ++ ", " ++ v.display ++ ")") :: displayPairs rest

/-- The entries of a map with colons. -/
def displayEntries : List (Value × Value) → List Text
  | [] => []
  | (k, v) :: rest => (k.display ++ ": " ++ v.display) :: displayEntries rest

end

end Value

end Groundplan

import Groundplan.Calendar

/-!
# Timestamps of a YAML text

A timestamp is a date, `2020-01-31`, perhaps with a time of day after a `T` or blanks, a fraction
of a second and a time zone. Months and days may have one digit when a time of day follows.

`Timestamp.ofText?` reads the fields; whether there is such a day is for the calendar to say.
-/

namespace Groundplan.Yaml

/-- The time of day of a timestamp. -/
structure TimeOfDay where
  hour : Nat
  minute : Nat
  second : Nat
  fraction : Text
  /-- The offset from universal time in minutes. -/
  offset : Option Int
deriving DecidableEq, Repr

/-- The fields of a timestamp as they are written. -/
structure Timestamp where
  year : Nat
  month : Nat
  day : Nat
  time : Option TimeOfDay
  /-- Month and day have two digits each. -/
  isFullDate : Bool
deriving DecidableEq, Repr

namespace Timestamp

/-- The number written by decimal digits. -/
def digitsValue (t : Text) : Nat := t.foldl (fun n c => 10 * n + (c.toNat - '0'.toNat)) 0

/-- A run of `least` to `most` digits, as long as possible, and what follows it. -/
def digits? (least most : Nat) (t : Text) : Option (Text × Text) :=
  let run := (t.take most).takeWhile CodePoint.isDigit
  if run.length < least then none else some (run, t.drop run.length)

/-- Minutes and seconds after a colon. -/
def colonField? (t : Text) : Option (Nat × Text) := do
  let t ← Text.after? ":" t
  let (run, t) ← digits? 2 2 t
  return (digitsValue run, t)

/-- The zone at the end of a timestamp, as an offset; `none` inside is no zone. -/
def zone? (t : Text) : Option (Option Int) :=
  if t.isEmpty then some none
  else match t.dropWhile isIndent with
    | ['Z'] => some (some 0)
    | sign :: t => do
      guard (sign == '+' || sign == '-')
      let (hours, t) ← digits? 1 2 t
      let minutes ←
        if t.isEmpty then some 0
        else match colonField? t with
          | some (minutes, []) => some minutes
          | _ => none
      let offset : Int := digitsValue hours * 60 + minutes
      return some (if sign == '-' then -offset else offset)
    | [] => none

/-- The time of day after a date. -/
def timeOfDay? (t : Text) : Option TimeOfDay := do
  let t ← match t with
    | 'T' :: t => some t
    | 't' :: t => some t
    | c :: t => if isIndent c then some (t.dropWhile isIndent) else none
    | [] => none
  let (hour, t) ← digits? 1 2 t
  let (minute, t) ← colonField? t
  let (second, t) ← colonField? t
  let (fraction, t) : Text × Text := match t with
    | '.' :: t => (t.takeWhile CodePoint.isDigit, t.dropWhile CodePoint.isDigit)
    | t => ([], t)
  let offset ← zone? t
  return { hour := digitsValue hour, minute, second, fraction, offset }

/-- The fields of a timestamp. -/
def ofText? (t : Text) : Option Timestamp := do
  let (year, t) ← digits? 4 4 t
  let t ← Text.after? "-" t
  let (month, t) ← digits? 1 2 t
  let t ← Text.after? "-" t
  let (day, t) ← digits? 1 2 t
  let time ← if t.isEmpty then some none else (timeOfDay? t).map some
  return {
    year := digitsValue year
    month := digitsValue month
    day := digitsValue day
    time
    isFullDate := month.length = 2 && day.length = 2 }

/-- The fields of a text that is a timestamp without saying so: a date alone needs all its
digits. -/
def implicit? (t : Text) : Option Timestamp :=
  (ofText? t).filter fun s => s.time.isSome || s.isFullDate

/-- The microseconds of a fraction of a second, whose digits after the sixth do not count. -/
def microseconds (fraction : Text) : Nat :=
  let digits := fraction.take 6
  digitsValue (digits ++ Text.ofChars (List.replicate (6 - digits.length) '0'))

end Timestamp

end Groundplan.Yaml

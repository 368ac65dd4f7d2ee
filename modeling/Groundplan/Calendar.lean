import Groundplan.Text.Basic

/-!
# Dates and times

Dates of the Gregorian calendar in the years 1 to 9999, times of day with microseconds, and
offsets from universal time in minutes. `Date.of?` and `Moment.of?` accept exactly the fields that
exist; the error names the first field that does not.
-/

namespace Groundplan

/-- A number with at least `width` digits. -/
def padded (width n : Nat) : Text :=
  let digits := Text.ofNat n
  Text.ofChars (List.replicate (width - digits.length) '0') ++ digits

/-- A field of a date or time that has no such value. -/
inductive CalendarError where
  | year (n : Nat)
  | month
  | day
  | hour
  | minute
  | second
  | offset (minutes : Int)
deriving DecidableEq, Repr

/-- A span of time in whole minutes, as messages show it. -/
def showSpan (minutes : Int) : Text :=
  let seconds := 60 * minutes
  let days := seconds.fdiv 86400
  let rest := seconds.fmod 86400
  let number (n : Int) : Text := (if n < 0 then "-" else "") ++ Text.ofNat n.natAbs
  let parts : List Text :=
    (if days = 0 then [] else ["days=" ++ number days]) ++
      (if rest = 0 then [] else ["seconds=" ++ number rest])
  "datetime.timedelta(" ++ (if parts.isEmpty then "0" else Text.join ", " parts : Text) ++ ")"

/-- The wording of a calendar error. -/
def CalendarError.message : CalendarError → Text
  | year n => "year " ++ Text.ofNat n ++ " is out of range"
  | month => "month must be in 1..12"
  | day => "day is out of range for month"
  | hour => "hour must be in 0..23"
  | minute => "minute must be in 0..59"
  | second => "second must be in 0..59"
  | offset minutes =>
    "offset must be a timedelta strictly between -timedelta(hours=24) and timedelta(hours=24), not "
      ++ showSpan minutes

/-- A day of the calendar. -/
structure Date where
  year : Nat
  month : Nat
  day : Nat
deriving DecidableEq, Repr

namespace Date

/-- Every fourth year, but of the full centuries only every fourth. -/
def isLeapYear (year : Nat) : Bool := year % 4 = 0 && (year % 100 ≠ 0 || year % 400 = 0)

/-- The number of days in the month of a year. -/
def daysInMonth (year month : Nat) : Nat :=
  if month = 2 then if isLeapYear year then 29 else 28
  else if month = 4 || month = 6 || month = 9 || month = 11 then 30
  else 31

/-- The date with the given fields. -/
def of? (year month day : Nat) : Except CalendarError Date :=
  if year = 0 || 9999 < year then .error (.year year)
  else if month = 0 || 12 < month then .error .month
  else if day = 0 || daysInMonth year month < day then .error .day
  else .ok ⟨year, month, day⟩

/-- The date as `2020-01-31`. -/
def iso (d : Date) : Text := padded 4 d.year ++ "-" ++ padded 2 d.month ++ "-" ++ padded 2 d.day

/-- The days before a year since the start of the calendar. -/
def daysBeforeYear (year : Nat) : Nat :=
  let y := year - 1
  y * 365 + y / 4 - y / 100 + y / 400

/-- The number of the day, counted from the first day of the year 1. -/
def ordinal (d : Date) : Nat :=
  let months := (List.range (d.month - 1)).map fun i => daysInMonth d.year (i + 1)
  daysBeforeYear d.year + months.foldl (· + ·) 0 + d.day

/-- The date as messages show it. -/
def display (d : Date) : Text :=
  "datetime.date(" ++ Text.join ", " ([d.year, d.month, d.day].map Text.ofNat) ++ ")"

end Date

/-- A time of a day, perhaps with the offset from universal time in minutes. -/
structure Moment where
  date : Date
  hour : Nat
  minute : Nat
  second : Nat
  microsecond : Nat
  offset : Option Int
deriving DecidableEq, Repr

namespace Moment

/-- The moment with the given fields. -/
def of? (year month day hour minute second microsecond : Nat) (offset : Option Int) :
    Except CalendarError Moment := do
  if let some m := offset then
    if m ≤ -1440 || 1440 ≤ m then throw (.offset m)
  let date ← Date.of? year month day
  if 23 < hour then throw .hour
  if 59 < minute then throw .minute
  if 59 < second then throw .second
  return { date, hour, minute, second, microsecond, offset }

/-- The microseconds from the start of the calendar, by the clock of the moment. -/
def clock (m : Moment) : Int :=
  (((m.date.ordinal * 24 + m.hour) * 60 + m.minute) * 60 + m.second) * 1000000 + m.microsecond

/-- Two moments are the same point in time. A moment with an offset is never the same as one
without. -/
def same (a b : Moment) : Bool :=
  match a.offset, b.offset with
  | none, none => a.clock == b.clock
  | some x, some y => a.clock - x * 60000000 == b.clock - y * 60000000
  | _, _ => false

/-- An offset as `+05:30`. -/
def isoOffset (minutes : Int) : Text :=
  (if minutes < 0 then "-" else "+") ++ padded 2 (minutes.natAbs / 60) ++ ":" ++
    padded 2 (minutes.natAbs % 60)

/-- The moment as `2020-01-31T12:00:00`, with microseconds and offset if there are any. -/
def iso (m : Moment) : Text :=
  m.date.iso ++ "T" ++ padded 2 m.hour ++ ":" ++ padded 2 m.minute ++ ":" ++ padded 2 m.second ++
    (if m.microsecond = 0 then [] else ↑ '.' :: padded 6 m.microsecond) ++
    (match m.offset with
      | some minutes => isoOffset minutes
      | none => [])

/-- The moment as messages show it; seconds and microseconds of zero are left out. -/
def display (m : Moment) : Text :=
  let tail :=
    if m.microsecond = 0 then if m.second = 0 then [] else [m.second]
    else [m.second, m.microsecond]
  let fields := [m.date.year, m.date.month, m.date.day, m.hour, m.minute] ++ tail
  let zone : List Text := match m.offset with
    | none => []
    | some 0 => ["tzinfo=datetime.timezone.utc"]
    | some minutes => ["tzinfo=datetime.timezone(" ++ showSpan minutes ++ ")"]
  "datetime.datetime(" ++ Text.join ", " (fields.map Text.ofNat ++ zone) ++ ")"

end Moment

end Groundplan

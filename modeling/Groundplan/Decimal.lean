import Groundplan.Text.Basic

/-!
# Decimal text of floating-point numbers

A double is `m · 2^q` with a sign. Its decimal text has the fewest digits that read back as the
same double, and of those the digits nearest to it. Numbers from 10^-4 up to 10^16 are written
positionally and with a fraction; others with one digit before the point and a signed exponent of
at least two digits.

The digits are found in exact arithmetic: for one digit, two digits and so on, the two neighbours
of the number on that decimal grid are compared with the interval of reals that round to the
double. The interval contains its ends exactly when `m` is even.
-/

namespace Groundplan.Decimal

/-! ## Doubles as binary fractions -/

/-- The finite double `m · 2^q`. -/
structure Binary where
  m : Nat
  q : Int
  /-- The next smaller double is only half as far away as the next larger one. -/
  narrowBelow : Bool

/-- The bits of the fraction. -/
def fractionBits (bits : Nat) : Nat := bits % Nat.pow 2 52

/-- The biased exponent. -/
def exponentBits (bits : Nat) : Nat := bits / Nat.pow 2 52 % Nat.pow 2 11

/-- The magnitude of a finite double with the given bits. -/
def Binary.ofBits (bits : Nat) : Binary :=
  let f := fractionBits bits
  match exponentBits bits with
  | 0 => ⟨f, -1074, false⟩
  | e + 1 => ⟨Nat.pow 2 52 + f, (e : Int) - 1074, f = 0 && e ≠ 0⟩

/-- `n · 2^e` as a quotient of natural numbers. -/
def scaled (n : Nat) (e : Int) : Nat × Nat :=
  if 0 ≤ e then (n * Nat.pow 2 e.toNat, 1) else (n, Nat.pow 2 (-e).toNat)

/-! ## Shortest digits -/

/-- The decimal digits `digits` with the point after the first `point` of them. -/
structure Digits where
  digits : Text
  point : Int

/-- `10^e` as a quotient of natural numbers. -/
def powerOfTen (e : Int) : Nat × Nat :=
  if 0 ≤ e then (Nat.pow 10 e.toNat, 1) else (1, Nat.pow 10 (-e).toNat)

/-- The number of digits before the decimal point of `num / den`; zero or less for a fraction that
starts with zeros. Exact for fractions of at least 10^-400. -/
def magnitude (num den : Nat) : Int :=
  ((Nat.toDigits 10 (num * Nat.pow 10 400 / den)).length : Int) - 400

/-- Of the two points around `b` on the grid of `10^e`, the one nearest to `b` that reads back as
`b`. -/
def gridPoint? (b : Binary) (e : Int) : Option Nat :=
  let (num, den) := scaled (4 * b.m) (b.q - 2)
  let (low, _) := scaled (4 * b.m - if b.narrowBelow then 1 else 2) (b.q - 2)
  let (high, _) := scaled (4 * b.m + 2) (b.q - 2)
  let (un, ud) := powerOfTen e
  let below := num * ud / (den * un)
  let readsBack (c : Nat) : Bool :=
    let x := c * un * den
    if b.m % 2 = 0 then low * ud ≤ x && x ≤ high * ud else low * ud < x && x < high * ud
  let toBelow := num * ud - below * un * den
  let toAbove := (below + 1) * un * den - num * ud
  match readsBack below, readsBack (below + 1) with
  | true, true =>
    if toBelow < toAbove || (toBelow = toAbove && below % 2 = 0) then some below
    else some (below + 1)
  | true, false => some below
  | false, true => some (below + 1)
  | false, false => none

/-- The shortest digits, from grids of `k` digits and more. -/
def shortestFrom (b : Binary) (p : Int) : (fuel k : Nat) → Digits
  | 0, _ => ⟨[], p⟩
  | fuel + 1, k =>
    match gridPoint? b (p - k) with
    | some c =>
      let digits := Text.ofNat c
      ⟨Text.dropEnd (· == '0') digits, p - k + digits.length⟩
    | none => shortestFrom b p fuel (k + 1)

/-- The shortest digits that read back as `b`, which is not zero. -/
def shortest (b : Binary) : Digits :=
  let (num, den) := scaled b.m b.q
  shortestFrom b (magnitude num den) 18 1

/-! ## Layout -/

/-- Zeros. -/
def zeros (n : Int) : Text := List.replicate n.toNat '0'

/-- Digits written without an exponent. -/
def positional (d : Digits) : Text :=
  let n : Int := d.digits.length
  if d.point ≤ 0 then "0." ++ zeros (-d.point) ++ d.digits
  else if n ≤ d.point then d.digits ++ zeros (d.point - n) ++ ".0"
  else d.digits.take d.point.toNat ++ "." ++ d.digits.drop d.point.toNat

/-- Digits written with an exponent. -/
def scientific (d : Digits) : Text :=
  let e := d.point - 1
  let digits := Text.ofNat e.natAbs
  let exponent := (if e < 0 then "e-" else "e+") ++ zeros (2 - digits.length) ++ digits
  match d.digits with
  | [] => exponent
  | [c] => c :: exponent
  | c :: rest => c :: ↑ '.' :: rest ++ exponent

/-- The decimal text of a double. -/
def ofFloat (x : Float) : Text :=
  if x.isNaN then "nan"
  else
    let bits := x.toBits.toNat
    let sign : Text := if bits / Nat.pow 2 63 = 1 then "-" else []
    if x.isInf then sign ++ "inf"
    else
      let b := Binary.ofBits bits
      if b.m = 0 then sign ++ "0.0"
      else
        let d := shortest b
        if -4 < d.point && d.point ≤ 16 then sign ++ positional d else sign ++ scientific d

/-! ## Reading -/

/-- The number that decimal digits write; other characters count as zero. -/
def natOf (digits : Text) : Nat := digits.foldl (fun n c => 10 * n + (c.toNat - '0'.toNat)) 0

/-- The double nearest to `n · 10^e`. Numbers far outside the range of doubles are not computed. -/
def nearest (n : Nat) (e : Int) : Float :=
  let size := ((Nat.toDigits 10 n).length : Int) + e
  if n = 0 || size < -400 then 0.0
  else if 400 < size then 1.0 / 0.0
  else Float.ofScientific n (e < 0) e.natAbs

/-- The exponent part of a decimal: `e` or `E`, a sign or none, and digits; nothing at the end of
the text is the exponent zero. -/
def exponent? : Text → Option Int
  | [] => some 0
  | c :: r =>
    let (negative, digits) : Bool × Text := match r with
      | '-' :: d => (true, d)
      | '+' :: d => (false, d)
      | d => (false, d)
    if (c == 'e' || c == 'E') && !digits.isEmpty && digits.all CodePoint.isDigit then
      some (if negative then -(natOf digits : Int) else natOf digits)
    else none

/-- The double written by an unsigned decimal: digits with at most one point and perhaps an
exponent. -/
def unsigned? (t : Text) : Option Float :=
  let whole := t.takeWhile CodePoint.isDigit
  let rest := t.dropWhile CodePoint.isDigit
  let (fraction, rest) : Text × Text := match rest with
    | '.' :: r => (r.takeWhile CodePoint.isDigit, r.dropWhile CodePoint.isDigit)
    | r => ([], r)
  if whole.isEmpty && fraction.isEmpty then none
  else (exponent? rest).map fun e => nearest (natOf (whole ++ fraction)) (e - fraction.length)

/-- The integer that a finite double is equal to, if there is one. -/
def integer? (x : Float) : Option Int :=
  if x.isNaN || x.isInf then none
  else
    let bits := x.toBits.toNat
    let b := Binary.ofBits bits
    let (num, den) := scaled b.m b.q
    if num % den = 0 then
      some (if bits / Nat.pow 2 63 = 1 then -((num / den : Nat) : Int) else (num / den : Nat))
    else none

end Groundplan.Decimal

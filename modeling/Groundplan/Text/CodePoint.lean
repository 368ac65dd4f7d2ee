/-!
# Code points

The characters of texts. A code point of the Unicode standard is a scalar value, or one half of a
surrogate pair that stands alone. What is read from a file holds scalar values only; what callers
and settings give may hold lone surrogates, and then it cannot be written in UTF-8.

Main statement: a code point is determined by its number (`ofNat_toNat`).
-/

namespace Groundplan

/-- A code point of the Unicode standard. -/
inductive CodePoint where
  | scalar (c : Char)
  /-- A lone surrogate, by its place among the surrogates. -/
  | surrogate (place : Fin 0x800)
deriving DecidableEq, Repr

namespace CodePoint

attribute [coe] scalar

instance : Coe Char CodePoint := ⟨scalar⟩

instance : Inhabited CodePoint := ⟨'\x00'⟩

/-- The number of a code point. -/
def toNat : CodePoint → Nat
  | scalar c => c.toNat
  | surrogate place => 0xd800 + place

/-- The code point with a number. -/
def ofNat (n : Nat) : CodePoint :=
  if h : 0xd800 ≤ n ∧ n < 0xe000 then surrogate ⟨n - 0xd800, by omega⟩ else Char.ofNat n

instance : LE CodePoint := ⟨fun a b => a.toNat ≤ b.toNat⟩

instance : LT CodePoint := ⟨fun a b => a.toNat < b.toNat⟩

instance (a b : CodePoint) : Decidable (a ≤ b) := inferInstanceAs (Decidable (a.toNat ≤ b.toNat))

instance (a b : CodePoint) : Decidable (a < b) := inferInstanceAs (Decidable (a.toNat < b.toNat))

/-- The code point is a scalar value that satisfies `p`. -/
def isScalarWith (p : Char → Bool) : CodePoint → Bool
  | scalar c => p c
  | surrogate _ => false

/-- The code point is a lone surrogate. -/
def isSurrogate (c : CodePoint) : Bool := !c.isScalarWith fun _ => true

/-- A decimal digit of ASCII. -/
def isDigit (c : CodePoint) : Bool := c.isScalarWith Char.isDigit

/-- A letter of ASCII. -/
def isAlpha (c : CodePoint) : Bool := c.isScalarWith Char.isAlpha

/-- A lower-case letter of ASCII. -/
def isLower (c : CodePoint) : Bool := c.isScalarWith Char.isLower

/-- A capital letter of ASCII. -/
def isUpper (c : CodePoint) : Bool := c.isScalarWith Char.isUpper

/-- A letter or a digit of ASCII. -/
def isAlphanum (c : CodePoint) : Bool := c.isScalarWith Char.isAlphanum

/-- Capital letters of ASCII become lower-case ones. -/
def toLower : CodePoint → CodePoint
  | scalar c => c.toLower
  | surrogate place => surrogate place

/-! ## Numbers -/

@[simp] theorem toNat_scalar (c : Char) : (scalar c).toNat = c.toNat := rfl

theorem toNat_range (c : Char) : c.toNat < 0xd800 ∨ 0xdfff < c.toNat ∧ c.toNat < 0x110000 :=
  c.valid

theorem toNat_lt (c : CodePoint) : c.toNat < 0x110000 := by
  cases c with
  | scalar c =>
    have hrange := toNat_range c
    rw [toNat_scalar]
    omega
  | surrogate place =>
    have hplace := place.isLt
    simp only [toNat]
    omega

@[simp] theorem ofNat_toNat (c : CodePoint) : ofNat c.toNat = c := by
  cases c with
  | scalar c =>
    have hrange := toNat_range c
    rw [ofNat, dif_neg (by rw [toNat_scalar]; omega), toNat_scalar, Char.ofNat_toNat]
  | surrogate place =>
    have hplace := place.isLt
    have hsurrogate : 0xd800 ≤ (surrogate place).toNat ∧ (surrogate place).toNat < 0xe000 := by
      simp only [toNat]
      omega
    rw [ofNat, dif_pos hsurrogate]
    simp [toNat]

theorem toNat_inj {a b : CodePoint} : a.toNat = b.toNat ↔ a = b := by
  constructor
  · intro h
    rw [← ofNat_toNat a, h, ofNat_toNat]
  · rintro rfl
    rfl

end CodePoint

end Groundplan

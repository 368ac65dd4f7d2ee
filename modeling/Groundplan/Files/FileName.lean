import Groundplan.Text.Utf8

/-!
# Names of files

A file system knows names as bytes. A text names the file with its bytes in UTF-8, in which the lone
surrogates from U+DC80 to U+DCFF stand for the single bytes from 0x80 to 0xff. So every name has a
text, also one whose bytes are not UTF-8 (`FileName.text`); but texts with other lone surrogates are
no names (`unencodable?`).
-/

namespace Groundplan

/-- The name of a file or a directory. -/
@[ext]
structure FileName where
  bytes : List UInt8
deriving DecidableEq, Repr, Inhabited

namespace FileName

/-- The byte that a lone surrogate stands for in a name. -/
def escaped : Fin 0x800 → Option UInt8 := fun place =>
  if 0x480 ≤ place.val ∧ place.val < 0x500 then some (UInt8.ofNat (place.val - 0x400)) else none

/-- The lone surrogate that stands for a byte. -/
def escape (b : UInt8) : CodePoint :=
  .surrogate
    ⟨0x400 + b.toNat, Nat.lt_of_lt_of_le (Nat.add_lt_add_left b.toNat_lt 0x400) (by decide)⟩

/-- The name that a text writes. What has no bytes is left out. -/
def ofText (t : Text) : FileName := ⟨Utf8.bytesWith escaped t⟩

instance : Coe String FileName := ⟨fun s => ofText s⟩

/-- Where a text cannot be written as a name, or as a path of names. -/
def unencodable? (t : Text) : Option Utf8.Unencodable := Utf8.unencodableFrom? escaped 0 t

/-- The scalar value that bytes start with, and how many bytes it takes up. -/
def first? (bytes : List UInt8) : Option (CodePoint × Nat) :=
  [1, 2, 3, 4].findSome? fun n => match Utf8.decode (bytes.take n) with
    | .ok [c] => some (c, n)
    | _ => none

/-- The text of bytes whose first `skip` belong to a character that has been read. -/
def textFrom : (skip : Nat) → List UInt8 → Text
  | _, [] => []
  | skip + 1, _ :: r => textFrom skip r
  | 0, b :: r => match first? (b :: r) with
    | some (c, length) => c :: textFrom (length - 1) r
    | none => escape b :: textFrom 0 r

/-- The text of a name. -/
def text (name : FileName) : Text := textFrom 0 name.bytes

end FileName

end Groundplan

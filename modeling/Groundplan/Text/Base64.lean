import Groundplan.Text.Basic

/-!
# Base 64

Bytes written with the 64 letters of the standard alphabet, six bits to a letter, padded with `=`
to groups of four. `decode?` skips every other character, stops at padding that completes a group,
and refuses a group that is not complete.
-/

namespace Groundplan.Base64

/-- The six bits of a letter. -/
def sextet? (c : CodePoint) : Option Nat :=
  if 'A' ≤ c ∧ c ≤ 'Z' then some (c.toNat - 'A'.toNat)
  else if 'a' ≤ c ∧ c ≤ 'z' then some (c.toNat - 'a'.toNat + 26)
  else if c.isDigit then some (c.toNat - '0'.toNat + 52)
  else if c = '+' then some 62
  else if c = '/' then some 63
  else none

/-- Decodes from the letter with the given place in its group. `left` are the bits not yet
written, `pads` the padding seen since the last letter. -/
def decodeFrom? : (place left pads : Nat) → Text → Option (List UInt8)
  | place, _, _, [] => if place = 0 then some [] else none
  | place, left, pads, c :: r =>
    if c = '=' then
      if 2 ≤ place ∧ 4 ≤ place + pads + 1 then some [] else decodeFrom? place left (pads + 1) r
    else match sextet? c with
      | none => decodeFrom? place left pads r
      | some bits =>
        match place with
        | 0 => decodeFrom? 1 bits 0 r
        | 1 => (decodeFrom? 2 (bits % 16) 0 r).map (UInt8.ofNat (left * 4 + bits / 16) :: ·)
        | 2 => (decodeFrom? 3 (bits % 4) 0 r).map (UInt8.ofNat (left * 16 + bits / 4) :: ·)
        | _ => (decodeFrom? 0 0 0 r).map (UInt8.ofNat (left * 64 + bits) :: ·)

/-- The bytes that a text writes. -/
def decode? (t : Text) : Option (List UInt8) := decodeFrom? 0 0 0 t

end Groundplan.Base64

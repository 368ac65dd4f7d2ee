import Groundplan.Text.Quoted

/-!
# UTF-8

Text as bytes. `encode` writes every scalar value in the shortest form and fails on lone surrogates;
`decode` accepts exactly what `encode` writes, so no overlong forms, no surrogates and nothing
beyond the last code point. Either error says where the first thing wrong starts, how long it is,
and what it is.

Names of files are written in the same way, except that some lone surrogates stand for single bytes
there; what a lone surrogate stands for is up to the caller of `bytesWith`.
-/

namespace Groundplan.Utf8

/-! ## Encoding -/

/-- The bytes of a code point, if it has any. -/
def pointBytes? (lone : Fin 0x800 → Option UInt8) : CodePoint → Option (List UInt8)
  | .scalar c => some (String.utf8EncodeChar c)
  | .surrogate place => (lone place).map fun b => [b]

/-- The bytes of a text. Code points without bytes are left out. -/
def bytesWith (lone : Fin 0x800 → Option UInt8) (t : Text) : List UInt8 :=
  t.flatMap fun c => (pointBytes? lone c).getD []

/-- Lone surrogates that have no bytes. -/
structure Unencodable where
  position : Nat
  /-- The surrogates from there. -/
  run : Text
deriving DecidableEq, Repr

/-- The wording of an error. -/
def Unencodable.message (e : Unencodable) : Text :=
  let place : Text := match e.run with
    | [c] => "character '" ++ Text.hexEscape c.toNat ++ "' in position " ++ Text.ofNat e.position
    | run => "characters in position " ++ Text.ofNat e.position ++ "-" ++
        Text.ofNat (e.position + run.length - 1)
  "'utf-8' codec can't encode " ++ place ++ ": surrogates not allowed"

/-- The first code points without bytes in a text that stands at a position. -/
def unencodableFrom? (lone : Fin 0x800 → Option UInt8) (p : Nat) : Text → Option Unencodable
  | [] => none
  | c :: r =>
    if (pointBytes? lone c).isSome then unencodableFrom? lone (p + 1) r
    else some ⟨p, c :: r.takeWhile CodePoint.isSurrogate⟩

/-- In the text of a file, a lone surrogate stands for nothing. -/
def strict : Fin 0x800 → Option UInt8 := fun _ => none

/-- The bytes of a text. -/
def encode (t : Text) : Except Unencodable (List UInt8) :=
  match unencodableFrom? strict 0 t with
  | some e => .error e
  | none => .ok (bytesWith strict t)

/-- The text can be encoded. -/
def Encodable (t : Text) : Prop := unencodableFrom? strict 0 t = none

instance (t : Text) : Decidable (Encodable t) := inferInstanceAs (Decidable (_ = none))

/-- What writing a text leaves in a file: its bytes, or nothing if it cannot be encoded. -/
def written (t : Text) : List UInt8 := (encode t).toOption.getD []

/-! ## Decoding -/

/-- What is wrong with a sequence of bytes. -/
inductive Reason where
  | start
  | continuation
  | ending
deriving DecidableEq, Repr

/-- The first malformed sequence of some bytes. -/
structure Malformed where
  /-- The bytes of the sequence. -/
  bytes : List UInt8
  position : Nat
  reason : Reason
deriving DecidableEq, Repr

/-- The wording of a reason. -/
def Reason.message : Reason → Text
  | start => "invalid start byte"
  | continuation => "invalid continuation byte"
  | ending => "unexpected end of data"

/-- The wording of an error. -/
def Malformed.message (e : Malformed) : Text :=
  let place : Text := match e.bytes with
    | [b] => "byte 0x" ++ Text.ofHex 2 b.toNat ++ " in position " ++ Text.ofNat e.position
    | bytes => "bytes in position " ++ Text.ofNat e.position ++ "-" ++
        Text.ofNat (e.position + bytes.length - 1)
  "'utf-8' codec can't decode " ++ place ++ ": " ++ e.reason.message

/-- A byte that continues a sequence. -/
def isContinuation (b : UInt8) : Bool := 0x80 ≤ b && b < 0xc0

/-- The second byte can follow the first byte of a sequence of three. -/
def continuesThree (a b : UInt8) : Bool :=
  isContinuation b && (if b < 0xa0 then a != 0xe0 else a != 0xed)

/-- The second byte can follow the first byte of a sequence of four. -/
def continuesFour (a b : UInt8) : Bool :=
  isContinuation b && (if b < 0x90 then a != 0xf0 else a != 0xf4)

/-- The six bits that a continuing byte carries. -/
def low (b : UInt8) : Nat := b.toNat % 64

/-- Decodes bytes that stand at a position. -/
def decodeFrom (p : Nat) : List UInt8 → Except Malformed Text
  | [] => .ok []
  | a :: r =>
    if a < 0x80 then (.scalar (Char.ofNat a.toNat) :: ·) <$> decodeFrom (p + 1) r
    else if a < 0xc2 || 0xf4 < a then .error ⟨[a], p, .start⟩
    else if a < 0xe0 then
      match r with
      | [] => .error ⟨[a], p, .ending⟩
      | b :: r =>
        if isContinuation b then
          (.scalar (Char.ofNat (a.toNat % 32 * 64 + low b)) :: ·) <$> decodeFrom (p + 2) r
        else .error ⟨[a], p, .continuation⟩
    else if a < 0xf0 then
      match r with
      | [] => .error ⟨[a], p, .ending⟩
      | b :: r =>
        if !continuesThree a b then .error ⟨[a], p, .continuation⟩
        else match r with
          | [] => .error ⟨[a, b], p, .ending⟩
          | c :: r =>
            if isContinuation c then
              (.scalar (Char.ofNat ((a.toNat % 16 * 64 + low b) * 64 + low c)) :: ·) <$>
                decodeFrom (p + 3) r
            else .error ⟨[a, b], p, .continuation⟩
    else
      match r with
      | [] => .error ⟨[a], p, .ending⟩
      | b :: r =>
        if !continuesFour a b then .error ⟨[a], p, .continuation⟩
        else match r with
          | [] => .error ⟨[a, b], p, .ending⟩
          | c :: r =>
            if !isContinuation c then .error ⟨[a, b], p, .continuation⟩
            else match r with
              | [] => .error ⟨[a, b, c], p, .ending⟩
              | d :: r =>
                if isContinuation d then
                  (.scalar
                    (Char.ofNat (((a.toNat % 8 * 64 + low b) * 64 + low c) * 64 + low d)) :: ·) <$>
                    decodeFrom (p + 4) r
                else .error ⟨[a, b, c], p, .continuation⟩

/-- The text that bytes write. -/
def decode (bytes : List UInt8) : Except Malformed Text := decodeFrom 0 bytes

end Groundplan.Utf8

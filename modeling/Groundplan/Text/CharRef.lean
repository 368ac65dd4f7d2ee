import Groundplan.Text.Basic
import Groundplan.Text.CharRef.Named

/-!
# Character references

A character reference is an ampersand followed by a number (`&#233;`, `&#xe9;`) or a name
(`&eacute;`). `decode` replaces every reference by the characters it stands for and keeps all
other text, as the HTML standard asks of attribute-free text.

The standard repairs what is not a character: a number that names a surrogate or lies beyond the
code space becomes U+FFFD, control characters and noncharacters vanish, and the numbers 0x80 to
0x9f stand for the characters that Windows-1252 has there.

Main statement: text without an ampersand decodes to itself (`decode_eq_self`).
-/

namespace Groundplan.CharRef

/-- The characters that the numbers from 0x80 to 0x9f stand for. -/
def windowsCharacters : List CodePoint :=
  ['€', '\u0081', '‚', 'ƒ', '„', '…', '†', '‡', 'ˆ', '‰', 'Š', '‹', 'Œ', '\u008d', 'Ž', '\u008f',
    '\u0090', '‘', '’', '“', '”', '•', '–', '—', '˜', '™', 'š', '›', 'œ', '\u009d', 'ž', 'Ÿ']

/-- A control character or a noncharacter, which a numeric reference cannot produce. -/
def isDropped (n : Nat) : Bool :=
  (1 ≤ n && n ≤ 8) || n = 0xb || (0xe ≤ n && n ≤ 0x1f) || n = 0x7f ||
    (0xfdd0 ≤ n && n ≤ 0xfdef) || n % 0x10000 = 0xfffe || n % 0x10000 = 0xffff

/-- The text that the number of a numeric reference stands for. -/
def ofNumber (n : Nat) : Text :=
  if n = 0 then ['\ufffd']
  else if 0x80 ≤ n ∧ n ≤ 0x9f then (windowsCharacters[n - 0x80]?).toList
  else if (0xd800 ≤ n ∧ n ≤ 0xdfff) ∨ 0x10ffff < n then ['\ufffd']
  else if isDropped n then []
  else [CodePoint.ofNat n]

/-- The value of a hexadecimal digit of either case. -/
def hexDigit? (c : CodePoint) : Option Nat :=
  if c.isDigit then some (c.toNat - '0'.toNat)
  else if 'a' ≤ c ∧ c ≤ 'f' then some (c.toNat - 'a'.toNat + 10)
  else if 'A' ≤ c ∧ c ≤ 'F' then some (c.toNat - 'A'.toNat + 10)
  else none

/-- The number written by digits of the given base. -/
def number (base : Nat) (digits : Text) : Nat :=
  digits.foldl (fun n c => n * base + (hexDigit? c).getD 0) 0

/-- A character that can stand in the name of a reference. -/
def isNameChar (c : CodePoint) : Bool :=
  !(c == '\t' || c == '\n' || c == '\x0c' || c == ' ' || c == '<' || c == '&' || c == '#' ||
    c == ';')

/-- One more when the text goes on with a semicolon, which then belongs to the reference. -/
def withSemicolon (length : Nat) (t : Text) : Nat :=
  if (t.drop length).head? = some ↑ ';' then length + 1 else length

/-- A numeric reference whose digits come after `lead` characters: its text and its length. -/
def numeric? (base lead : Nat) (isDigit : CodePoint → Bool) (t : Text) : Option (Text × Nat) :=
  let digits := (t.drop lead).takeWhile isDigit
  if digits.isEmpty then none
  else some (ofNumber (number base digits), withSemicolon (lead + digits.length) t)

/-- The longest name without a semicolon that the text starts with. -/
def bareName? (t : Text) : Option String :=
  bareNames.foldl (fun (best : Option String) (name : String) =>
    if Text.startsWith name t && best.all (fun b => b.length < name.length) then some name
    else best) none

/-- The characters that a name stands for. -/
def characters? (name : Text) : Option Text :=
  (named.find? fun entry => (entry.1 : Text) == name).map fun entry => entry.2

/-- A reference by name: its text and its length. A name with its semicolon goes before the names
that do without. -/
def byName? (t : Text) : Option (Text × Nat) :=
  let run := t.takeWhile isNameChar
  match if withSemicolon run.length t = run.length then none else characters? run with
  | some characters => some (characters, run.length + 1)
  | none => (bareName? run).bind fun name =>
      (characters? name).map fun characters => (characters, name.length)

/-- The reference that the text after an ampersand starts with: the characters it stands for and
how many characters it takes up. -/
def reference? : Text → Option (Text × Nat)
  | '#' :: 'x' :: r => numeric? 16 2 (fun c => (hexDigit? c).isSome) (↑ '#' :: ↑ 'x' :: r)
  | '#' :: 'X' :: r => numeric? 16 2 (fun c => (hexDigit? c).isSome) (↑ '#' :: ↑ 'X' :: r)
  | '#' :: r => numeric? 10 1 CodePoint.isDigit (↑ '#' :: r)
  | t => byName? t

/-- Decodes a text whose first `skip` characters belong to a reference already replaced. -/
def decodeFrom : (skip : Nat) → Text → Text
  | _, [] => []
  | skip + 1, _ :: r => decodeFrom skip r
  | 0, c :: r =>
    if c = '&' then
      match reference? r with
      | some (characters, length) => characters ++ decodeFrom length r
      | none => c :: decodeFrom 0 r
    else c :: decodeFrom 0 r

/-- The text with every character reference replaced by the characters it stands for. -/
def decode (t : Text) : Text := decodeFrom 0 t

/-- Text without an ampersand decodes to itself. -/
theorem decode_eq_self {t : Text} (h : ↑ '&' ∉ t) : decode t = t := by
  unfold decode
  induction t with
  | nil => rfl
  | cons c r ih =>
    rw [List.mem_cons, not_or] at h
    rw [decodeFrom, if_neg fun hc => h.1 hc.symm, ih h.2]

end Groundplan.CharRef

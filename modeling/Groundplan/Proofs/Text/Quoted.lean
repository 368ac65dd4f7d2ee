import Mathlib.Data.Nat.Digits.Defs
import Groundplan.Text.Quoted

/-!
# Quoted text is read back

**Characters.** `readQuotedChar?` reads one character as a quoted text writes it: a character for
itself, or an escape with a letter, a quote or a backslash, or with two, four or eight places in
base sixteen. It does not look at what follows (`readQuotedChar?_quotedChar`).

**Texts.** So no written form is the start of another one, and two texts that are shown alike are
equal (`quoted_injective`).
-/

namespace Groundplan.Text

/-! ## Base sixteen -/

/-- The value of a digit in base sixteen. -/
def hexDigit (c : CodePoint) : Nat := if c.isDigit then c.toNat - 48 else c.toNat - 87

/-- The number that digits in base sixteen write. -/
def hexValue (digits : Text) : Nat := digits.foldl (fun n c => 16 * n + hexDigit c) 0

theorem hexDigit_digitChar : ∀ n < 16, hexDigit (Nat.digitChar n) = n := by
  decide

theorem hexValue_append_singleton (digits : Text) (c : CodePoint) :
    hexValue (digits ++ [c]) = 16 * hexValue digits + hexDigit c := by
  rw [hexValue, List.foldl_append]
  rfl

theorem hexValue_toDigits (n : Nat) : hexValue (ofChars (Nat.toDigits 16 n)) = n := by
  induction n using Nat.strongRecOn with
  | ind n ih =>
    by_cases hn : n < 16
    · rw [Nat.toDigits_of_lt_base hn]
      simp [ofChars, hexValue, hexDigit_digitChar n hn]
    · have hsmaller : n / 16 < n := Nat.div_lt_self (by omega) (by omega)
      rw [Nat.toDigits_of_base_le (by omega) (by omega), ofChars_append, ofChars_singleton,
        hexValue_append_singleton, ih (n / 16) hsmaller,
        hexDigit_digitChar (n % 16) (Nat.mod_lt n (by omega))]
      omega

/-- Zeros in front do not count. -/
theorem hexValue_replicate_zero (k : Nat) (digits : List Char) :
    hexValue (ofChars (List.replicate k '0' ++ digits)) = hexValue (ofChars digits) := by
  induction k with
  | zero => rfl
  | succ k ih =>
    rw [List.replicate_succ, List.cons_append]
    exact ih

theorem hexValue_ofHex (width n : Nat) : hexValue (ofHex width n) = n := by
  rw [ofHex, hexValue_replicate_zero, hexValue_toDigits]

theorem length_ofHex {width n : Nat} (hwidth : 0 < width) (h : n < 16 ^ width) :
    (ofHex width n).length = width := by
  have hdigits : (Nat.toDigits 16 n).length ≤ width :=
    (Nat.length_toDigits_le_iff (by omega) hwidth).2 h
  rw [ofHex, length_ofChars, List.length_append, List.length_replicate]
  omega

/-! ## Characters -/

/-- The character that digits in base sixteen write, and what follows them. -/
def readHex (width : Nat) (t : Text) : CodePoint × Text :=
  (CodePoint.ofNat (hexValue (t.take width)), t.drop width)

theorem readHex_ofHex {width : Nat} {c : CodePoint} (hwidth : 0 < width) (h : c.toNat < 16 ^ width)
    (rest : Text) : readHex width (ofHex width c.toNat ++ rest) = (c, rest) := by
  have hlength := length_ofHex hwidth h
  rw [readHex, List.take_left' hlength, List.drop_left' hlength, hexValue_ofHex,
    CodePoint.ofNat_toNat]

/-- The first character that a quoted text writes, and what follows it. -/
def readQuotedChar? : Text → Option (CodePoint × Text)
  | [] => none
  | '\\' :: 't' :: rest => some ('\t', rest)
  | '\\' :: 'n' :: rest => some ('\n', rest)
  | '\\' :: 'r' :: rest => some ('\r', rest)
  | '\\' :: 'x' :: rest => some (readHex 2 rest)
  | '\\' :: 'u' :: rest => some (readHex 4 rest)
  | '\\' :: 'U' :: rest => some (readHex 8 rest)
  | '\\' :: c :: rest => some (c, rest)
  | c :: rest => some (c, rest)

theorem readQuotedChar?_hexEscape (c : CodePoint) (rest : Text) :
    readQuotedChar? (hexEscape c.toNat ++ rest) = some (c, rest) := by
  have hrange := c.toNat_lt
  rw [hexEscape]
  split
  · next h => exact congrArg some (readHex_ofHex (by omega) h rest)
  · split
    · next h => exact congrArg some (readHex_ofHex (by omega) h rest)
    · exact congrArg some (readHex_ofHex (by omega) (by omega) rest)

/-- What a quoted text writes for a character is read back, whatever follows. -/
theorem readQuotedChar?_quotedChar {quote : CodePoint} (hquote : quote = '\'' ∨ quote = '"')
    (c : CodePoint) (rest : Text) :
    readQuotedChar? (quotedChar quote c ++ rest) = some (c, rest) := by
  rw [quotedChar]
  split
  · next h =>
    rcases h with rfl | rfl
    · rcases hquote with rfl | rfl
      · rfl
      · rfl
    · rfl
  · next h =>
    split
    · next hc => rw [hc]; rfl
    · split
      · next hc => rw [hc]; rfl
      · split
        · next hc => rw [hc]; rfl
        · split
          · have hbackslash : c ≠ '\\' := fun hc => h (.inr hc)
            show readQuotedChar? (c :: rest) = _
            unfold readQuotedChar?
            split <;> simp_all
          · exact readQuotedChar?_hexEscape c rest

/-! ## Texts -/

/-- What is written character by character, none of them the start of another, determines the
text. -/
theorem flatMap_quotedChar_injective {quote : CodePoint} (hquote : quote = '\'' ∨ quote = '"')
    {a b : Text} (h : a.flatMap (quotedChar quote) = b.flatMap (quotedChar quote)) : a = b := by
  have hread : ∀ (c : CodePoint) (t : Text),
      readQuotedChar? ((c :: t).flatMap (quotedChar quote)) =
        some (c, t.flatMap (quotedChar quote)) := by
    intro c t
    rw [List.flatMap_cons, readQuotedChar?_quotedChar hquote]
  induction a generalizing b with
  | nil =>
    cases b with
    | nil => rfl
    | cons d b =>
      have hb := hread d b
      rw [← h] at hb
      cases hb
  | cons c a ih =>
    have ha := hread c a
    cases b with
    | nil =>
      rw [h] at ha
      cases ha
    | cons d b =>
      rw [h, hread d b] at ha
      obtain ⟨rfl, hrest⟩ := Prod.mk.inj (Option.some.inj ha)
      rw [ih hrest.symm]

theorem quoteFor_cases (t : Text) : quoteFor t = '\'' ∨ quoteFor t = '"' := by
  unfold quoteFor
  split
  · exact .inr rfl
  · exact .inl rfl

/-- **Texts that are shown alike are equal.** -/
theorem quoted_injective {a b : Text} (h : quoted a = quoted b) : a = b := by
  obtain ⟨hquote, hbody⟩ := List.cons.inj h
  rw [hquote] at hbody
  exact flatMap_quotedChar_injective (quoteFor_cases b) (List.append_cancel_right hbody)

end Groundplan.Text

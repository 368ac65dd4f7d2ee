import Groundplan.Text.Lines
import Groundplan.Text.Utf8

/-!
# What is written is read back

**Bytes.** A text can be encoded if and only if it holds no lone surrogate (`encodable_iff`), and
then decoding its bytes gives the text (`decode_written`). The proof goes character by character
(`decodeFrom_encodeChar`), with one case for each length of a sequence.

**Line ends.** Reading a text file changes carriage returns only, so a run of characters without
them is found in what is read (`infix_universalNewlines`).
-/

namespace Groundplan

namespace Utf8

/-! ## Single bytes -/

theorem toNat_ofNat {n : Nat} (h : n < 256) : (UInt8.ofNat n).toNat = n := by
  simp [Nat.mod_eq_of_lt h]

theorem ofNat_lt_ofNat {m n : Nat} (hm : m < 256) (hn : n < 256) :
    UInt8.ofNat m < UInt8.ofNat n ↔ m < n := by
  rw [UInt8.lt_iff_toNat_lt, toNat_ofNat hm, toNat_ofNat hn]

theorem ofNat_inj {m n : Nat} (hm : m < 256) (hn : n < 256) :
    UInt8.ofNat m = UInt8.ofNat n ↔ m = n := by
  rw [← UInt8.toNat_inj, toNat_ofNat hm, toNat_ofNat hn]

/-- The byte that continues a sequence with the last six bits of a number. -/
theorem isContinuation_ofNat (n : Nat) : isContinuation (UInt8.ofNat (n % 64 + 128)) = true := by
  have hlow : ¬UInt8.ofNat (n % 64 + 128) < UInt8.ofNat 128 := by
    rw [ofNat_lt_ofNat (by omega) (by omega)]
    omega
  have hhigh : UInt8.ofNat (n % 64 + 128) < UInt8.ofNat 192 := by
    rw [ofNat_lt_ofNat (by omega) (by omega)]
    omega
  simp only [isContinuation, Bool.and_eq_true, decide_eq_true_eq]
  exact ⟨UInt8.not_lt.1 hlow, hhigh⟩

theorem low_ofNat (n : Nat) : low (UInt8.ofNat (n % 64 + 128)) = n % 64 := by
  rw [low, toNat_ofNat (by omega)]
  omega

/-! ## Sequences -/

section Sequences

variable {a n : Nat} (p : Nat) (r : List UInt8)

theorem decodeFrom_one (h : n < 128) :
    decodeFrom p (UInt8.ofNat n :: r) = (.scalar (Char.ofNat n) :: ·) <$> decodeFrom (p + 1) r := by
  have hascii : UInt8.ofNat n < 0x80 := (ofNat_lt_ofNat (n := 128) (by omega) (by omega)).2 h
  rw [decodeFrom.eq_def]
  simp only [hascii, if_true, toNat_ofNat (show n < 256 by omega)]

/-- A byte from 0xc2 to 0xf4 starts a sequence of several bytes. -/
theorem starts_ofNat (hlow : 194 ≤ a) (hhigh : a ≤ 244) :
    ¬UInt8.ofNat a < 0x80 ∧ ¬UInt8.ofNat a < 0xc2 ∧ ¬0xf4 < UInt8.ofNat a := by
  refine ⟨fun h => ?_, fun h => ?_, fun h => ?_⟩
  · have := (ofNat_lt_ofNat (n := 128) (by omega) (by omega)).1 h
    omega
  · have := (ofNat_lt_ofNat (n := 194) (by omega) (by omega)).1 h
    omega
  · have := (ofNat_lt_ofNat (m := 244) (by omega) (by omega)).1 h
    omega

theorem decodeFrom_two (hlow : 128 ≤ n) (hhigh : n < 2048) :
    decodeFrom p (UInt8.ofNat (n / 64 % 32 + 192) :: UInt8.ofNat (n % 64 + 128) :: r) =
      (.scalar (Char.ofNat n) :: ·) <$> decodeFrom (p + 2) r := by
  obtain ⟨hascii, hcont, hend⟩ := starts_ofNat (a := n / 64 % 32 + 192) (by omega) (by omega)
  have htwo : UInt8.ofNat (n / 64 % 32 + 192) < 0xe0 :=
    (ofNat_lt_ofNat (n := 224) (by omega) (by omega)).2 (by omega)
  have hvalue : (n / 64 % 32 + 192) % 32 * 64 + n % 64 = n := by omega
  rw [decodeFrom.eq_def]
  simp only [hascii, hcont, hend, htwo, if_true, if_false, decide_false, Bool.or_self,
    Bool.false_eq_true, isContinuation_ofNat, low_ofNat,
    toNat_ofNat (show n / 64 % 32 + 192 < 256 by omega), hvalue]

/-- The limits of a second byte. Behind one first byte it is not below the bound, and behind another
one it is. -/
theorem second_ofNat {b : Nat} (bound first last : Nat) (ha : a < 256) (hb : b < 256)
    (hbytes : bound < 256 ∧ first < 256 ∧ last < 256) (hfirst : a = first → bound ≤ b)
    (hlast : a = last → b < bound) :
    (if UInt8.ofNat b < UInt8.ofNat bound then UInt8.ofNat a != UInt8.ofNat first
      else UInt8.ofNat a != UInt8.ofNat last) = true := by
  obtain ⟨hbound, hfirst', hlast'⟩ := hbytes
  simp only [ofNat_lt_ofNat hb hbound]
  split
  · next hlt =>
    rw [bne_iff_ne, ne_eq, ofNat_inj ha hfirst']
    exact fun heq => absurd (hfirst heq) (Nat.not_le.2 hlt)
  · next hlt =>
    rw [bne_iff_ne, ne_eq, ofNat_inj ha hlast']
    exact fun heq => hlt (hlast heq)

theorem decodeFrom_three (hlow : 2048 ≤ n) (hhigh : n < 65536) (hs : n < 55296 ∨ 57343 < n) :
    decodeFrom p (UInt8.ofNat (n / 4096 % 16 + 224) :: UInt8.ofNat (n / 64 % 64 + 128) ::
        UInt8.ofNat (n % 64 + 128) :: r) =
      (.scalar (Char.ofNat n) :: ·) <$> decodeFrom (p + 3) r := by
  obtain ⟨hascii, hcont, hend⟩ := starts_ofNat (a := n / 4096 % 16 + 224) (by omega) (by omega)
  have htwo : ¬UInt8.ofNat (n / 4096 % 16 + 224) < 0xe0 := fun h => by
    have := (ofNat_lt_ofNat (n := 224) (by omega) (by omega)).1 h
    omega
  have hthree : UInt8.ofNat (n / 4096 % 16 + 224) < 0xf0 :=
    (ofNat_lt_ofNat (n := 240) (by omega) (by omega)).2 (by omega)
  -- The first byte 0xe0 leaves out short forms, and 0xed leaves out surrogates.
  have hsecond : continuesThree (UInt8.ofNat (n / 4096 % 16 + 224))
      (UInt8.ofNat (n / 64 % 64 + 128)) = true := by
    rw [continuesThree, isContinuation_ofNat, Bool.true_and]
    exact second_ofNat 160 224 237 (by omega) (by omega) (by omega) (by omega) (by omega)
  have hvalue : ((n / 4096 % 16 + 224) % 16 * 64 + n / 64 % 64) * 64 + n % 64 = n := by omega
  rw [decodeFrom.eq_def]
  simp only [hascii, hcont, hend, htwo, hthree, hsecond, if_true, if_false, decide_false,
    Bool.or_self, Bool.not_true, Bool.false_eq_true, isContinuation_ofNat, low_ofNat,
    toNat_ofNat (show n / 4096 % 16 + 224 < 256 by omega), hvalue]

theorem decodeFrom_four (hlow : 65536 ≤ n) (hhigh : n < 1114112) :
    decodeFrom p (UInt8.ofNat (n / 262144 % 8 + 240) :: UInt8.ofNat (n / 4096 % 64 + 128) ::
        UInt8.ofNat (n / 64 % 64 + 128) :: UInt8.ofNat (n % 64 + 128) :: r) =
      (.scalar (Char.ofNat n) :: ·) <$> decodeFrom (p + 4) r := by
  obtain ⟨hascii, hcont, hend⟩ := starts_ofNat (a := n / 262144 % 8 + 240) (by omega) (by omega)
  have htwo : ¬UInt8.ofNat (n / 262144 % 8 + 240) < 0xe0 := fun h => by
    have := (ofNat_lt_ofNat (n := 224) (by omega) (by omega)).1 h
    omega
  have hthree : ¬UInt8.ofNat (n / 262144 % 8 + 240) < 0xf0 := fun h => by
    have := (ofNat_lt_ofNat (n := 240) (by omega) (by omega)).1 h
    omega
  -- The first byte 0xf0 leaves out short forms, and 0xf4 what lies beyond the last code point.
  have hsecond : continuesFour (UInt8.ofNat (n / 262144 % 8 + 240))
      (UInt8.ofNat (n / 4096 % 64 + 128)) = true := by
    rw [continuesFour, isContinuation_ofNat, Bool.true_and]
    exact second_ofNat 144 240 244 (by omega) (by omega) (by omega) (by omega) (by omega)
  have hvalue : (((n / 262144 % 8 + 240) % 8 * 64 + n / 4096 % 64) * 64 + n / 64 % 64) * 64 +
      n % 64 = n := by omega
  rw [decodeFrom.eq_def]
  simp only [hascii, hcont, hend, htwo, hthree, hsecond, if_true, if_false, decide_false,
    Bool.or_self, Bool.not_true, Bool.false_eq_true, isContinuation_ofNat, low_ofNat,
    toNat_ofNat (show n / 262144 % 8 + 240 < 256 by omega), hvalue]

end Sequences

/-! ## Texts -/

/-- The bytes of a character are read as that character. -/
theorem decodeFrom_encodeChar (c : Char) (p : Nat) (r : List UInt8) :
    decodeFrom p (String.utf8EncodeChar c ++ r) =
      (.scalar c :: ·) <$> decodeFrom (p + (String.utf8EncodeChar c).length) r := by
  have hrange := CodePoint.toNat_range c
  have hback := Char.ofNat_toNat c
  have hbytes : String.utf8EncodeChar c =
      if c.toNat ≤ 127 then [UInt8.ofNat c.toNat]
      else if c.toNat ≤ 2047 then
        [UInt8.ofNat (c.toNat / 64 % 32 + 192), UInt8.ofNat (c.toNat % 64 + 128)]
      else if c.toNat ≤ 65535 then
        [UInt8.ofNat (c.toNat / 4096 % 16 + 224), UInt8.ofNat (c.toNat / 64 % 64 + 128),
          UInt8.ofNat (c.toNat % 64 + 128)]
      else
        [UInt8.ofNat (c.toNat / 262144 % 8 + 240), UInt8.ofNat (c.toNat / 4096 % 64 + 128),
          UInt8.ofNat (c.toNat / 64 % 64 + 128), UInt8.ofNat (c.toNat % 64 + 128)] := rfl
  rw [hbytes]
  generalize c.toNat = n at hrange hback ⊢
  subst hback
  split
  · exact decodeFrom_one p r (by omega)
  · split
    · exact decodeFrom_two p r (by omega) (by omega)
    · split
      · exact decodeFrom_three p r (by omega) (by omega) (by omega)
      · exact decodeFrom_four p r (by omega) (by omega)

section Texts

variable {lone : Fin 0x800 → Option UInt8} {p : Nat} {t : Text}

theorem bytesWith_cons (c : CodePoint) (t : Text) :
    bytesWith lone (c :: t) = (pointBytes? lone c).getD [] ++ bytesWith lone t := List.flatMap_cons

theorem bytesWith_append (a b : Text) :
    bytesWith lone (a ++ b) = bytesWith lone a ++ bytesWith lone b := List.flatMap_append

/-- Nothing is wrong with a text if and only if every code point in it has bytes. -/
theorem unencodableFrom?_eq_none_iff :
    unencodableFrom? lone p t = none ↔ ∀ c ∈ t, (pointBytes? lone c).isSome = true := by
  induction t generalizing p with
  | nil => simp [unencodableFrom?]
  | cons c t ih =>
    rw [unencodableFrom?, List.forall_mem_cons, ← ih (p := p + 1)]
    split <;> simp [*]

theorem isSome_pointBytes?_strict (c : CodePoint) :
    (pointBytes? strict c).isSome = !c.isSurrogate := by
  cases c <;> rfl

end Texts

variable {t : Text}

/-- A text can be encoded if and only if it holds no lone surrogate. -/
theorem encodable_iff : Encodable t ↔ ∀ c ∈ t, c.isSurrogate = false := by
  simp only [Encodable, unencodableFrom?_eq_none_iff, isSome_pointBytes?_strict, Bool.not_eq_true']

theorem encodable_append {a b : Text} : Encodable (a ++ b) ↔ Encodable a ∧ Encodable b := by
  simp only [encodable_iff, List.forall_mem_append]

theorem encodable_scalar_cons {c : Char} : Encodable (.scalar c :: t) ↔ Encodable t := by
  rw [encodable_iff, encodable_iff, List.forall_mem_cons]
  exact and_iff_right rfl

/-- A text whose characters are all in a text that can be encoded can be encoded too. -/
theorem Encodable.of_subset {a : Text} (h : Encodable t) (ha : a ⊆ t) : Encodable a :=
  encodable_iff.2 fun c hc => encodable_iff.1 h c (ha hc)

theorem encodable_ofChars (l : List Char) : Encodable (Text.ofChars l) := by
  rw [encodable_iff]
  rintro c hc
  obtain ⟨d, -, rfl⟩ := List.mem_map.1 hc
  rfl

/-- What lone surrogates stand for does not matter where there are none. -/
theorem Encodable.bytesWith_eq (h : Encodable t) (lone : Fin 0x800 → Option UInt8) :
    bytesWith lone t = bytesWith strict t := by
  rw [encodable_iff] at h
  induction t with
  | nil => rfl
  | cons c t ih =>
    obtain ⟨hc, ht⟩ := List.forall_mem_cons.1 h
    rw [bytesWith_cons, bytesWith_cons, ih ht]
    cases c with
    | scalar c => rfl
    | surrogate place => cases hc

theorem Encodable.encode (h : Encodable t) : encode t = .ok (bytesWith strict t) := by
  rw [Utf8.encode, h]

theorem encodable_of_encode {bytes : List UInt8} (h : encode t = .ok bytes) : Encodable t := by
  unfold encode at h
  split at h
  · cases h
  · next hnone => exact hnone

theorem Encodable.written (h : Encodable t) : written t = bytesWith strict t := by
  rw [Utf8.written, h.encode]
  rfl

theorem encode_eq_error {e : Unencodable} :
    encode t = .error e ↔ unencodableFrom? strict 0 t = some e := by
  rw [encode]
  split
  · next heq => simp [heq]
  · next heq => simp [heq]

theorem exists_encode_error (h : ¬Encodable t) : ∃ e, encode t = .error e := by
  obtain ⟨e, he⟩ := Option.ne_none_iff_exists'.1 h
  exact ⟨e, encode_eq_error.2 he⟩

/-- What is read can be encoded. -/
theorem encodable_of_decodeFrom {p : Nat} {bytes : List UInt8} (h : decodeFrom p bytes = .ok t) :
    Encodable t := by
  have hscalar : ∀ {c : Char} {r : Except Malformed Text} {t : Text},
      (CodePoint.scalar c :: ·) <$> r = .ok t → (∀ t', r = .ok t' → Encodable t') →
        Encodable t := by
    intro c r t h hr
    cases r with
    | error e => cases h
    | ok t' =>
      cases h
      exact encodable_scalar_cons.2 (hr t' rfl)
  -- Sequences of one, two, three and four bytes; in all other cases there is no text.
  fun_induction decodeFrom p bytes generalizing t with
  | case1 =>
    cases h
    rfl
  | case2 _ _ _ _ ih => exact hscalar h fun _ => ih
  | case5 _ _ _ _ _ _ _ _ ih => exact hscalar h fun _ => ih
  | case10 _ _ _ _ _ _ _ _ _ _ _ ih => exact hscalar h fun _ => ih
  | case17 _ _ _ _ _ _ _ _ _ _ _ _ _ ih => exact hscalar h fun _ => ih
  | _ => cases h

theorem decodeFrom_bytesWith (h : Encodable t) (p : Nat) :
    decodeFrom p (bytesWith strict t) = .ok t := by
  rw [encodable_iff] at h
  induction t generalizing p with
  | nil => rfl
  | cons c t ih =>
    obtain ⟨hc, ht⟩ := List.forall_mem_cons.1 h
    cases c with
    | scalar c =>
      rw [bytesWith_cons]
      refine (decodeFrom_encodeChar c p _).trans ?_
      rw [ih ht]
      rfl
    | surrogate place => cases hc

theorem bytesWith_strict_inj {a b : Text} (ha : Encodable a) (hb : Encodable b) :
    bytesWith strict a = bytesWith strict b ↔ a = b := by
  refine ⟨fun h => ?_, fun h => h ▸ rfl⟩
  have hdecode := decodeFrom_bytesWith ha 0
  rw [h, decodeFrom_bytesWith hb 0] at hdecode
  exact (Except.ok.inj hdecode).symm

/-- **What is written is read back.** -/
theorem decode_written (h : Encodable t) : decode (written t) = .ok t := by
  rw [h.written]
  exact decodeFrom_bytesWith h 0

end Utf8

namespace Text

/-! ## Line ends -/

theorem mem_universalNewlines {c : CodePoint} {t : Text} (h : c ∈ universalNewlines t) :
    c ∈ t ∨ c = ↑ '\n' := by
  induction t using universalNewlines.induct with
  | case1 => cases h
  | case2 r ih =>
    rw [universalNewlines] at h
    rcases List.mem_cons.1 h with rfl | h
    · exact .inr rfl
    · exact (ih h).imp_left fun hc => List.mem_cons_of_mem _ (List.mem_cons_of_mem _ hc)
  | case3 d r hcr ih =>
    rw [universalNewlines] at h
    · rcases List.mem_cons.1 h with hc | h
      · split at hc
        · exact .inr hc
        · exact .inl (hc ▸ List.mem_cons_self)
      · exact (ih h).imp_left fun hc => List.mem_cons_of_mem _ hc
    · exact hcr

/-- A beginning without carriage returns is read as it is. -/
theorem universalNewlines_append {a : Text} (h : ↑ '\r' ∉ a) (b : Text) :
    universalNewlines (a ++ b) = a ++ universalNewlines b := by
  induction a with
  | nil => rfl
  | cons c a ih =>
    rw [List.mem_cons, not_or] at h
    have hc : c ≠ '\r' := Ne.symm h.1
    rw [List.cons_append, universalNewlines.eq_def]
    simp [hc, ih h.2]

theorem prefix_universalNewlines {p t : Text} (hp : ↑ '\r' ∉ p) (h : p <+: t) :
    p <+: universalNewlines t := by
  obtain ⟨b, rfl⟩ := h
  rw [universalNewlines_append hp]
  exact List.prefix_append p _

/-- A run of characters without carriage returns is found in what is read. -/
theorem infix_universalNewlines {p t : Text} (hp : ↑ '\r' ∉ p) (h : p <:+: t) :
    p <:+: universalNewlines t := by
  induction t using universalNewlines.induct with
  | case1 => exact h
  | case2 r ih =>
    have hkeep : universalNewlines (↑ '\n' :: r) = ↑ '\n' :: universalNewlines r :=
      universalNewlines_append (a := (['\n'] : Text)) (by decide) r
    show p <:+: ↑ '\n' :: universalNewlines r
    rcases List.infix_cons_iff.1 h with h | h
    · rcases List.prefix_cons_iff.1 h with rfl | ⟨q, rfl, -⟩
      · exact List.nil_infix
      · exact absurd List.mem_cons_self hp
    · rcases List.infix_cons_iff.1 h with h | h
      · have hread := (prefix_universalNewlines hp h).isInfix
        rwa [hkeep] at hread
      · exact List.infix_cons_iff.2 (.inr (ih h))
  | case3 c r hcr ih =>
    rcases List.infix_cons_iff.1 h with h | h
    · exact (prefix_universalNewlines hp h).isInfix
    · rw [universalNewlines.eq_def]
      split
      · next heq => cases heq
      · next heq =>
        obtain ⟨rfl, rfl⟩ := List.cons.inj heq
        exact absurd rfl (hcr _ rfl)
      · next heq =>
        obtain ⟨rfl, rfl⟩ := List.cons.inj heq
        exact List.infix_cons_iff.2 (.inr (ih h))

end Text

end Groundplan

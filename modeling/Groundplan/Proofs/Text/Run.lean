import Groundplan.Text.Basic
import Groundplan.Text.Word

/-!
# Runs of characters

**Spans.** The longest beginning whose characters satisfy `p` is determined by what it is made of
and by what follows it (`span_iff`).

**Ends.** Dropping the end of a text and trimming it are determined in the same way, by what is left
and by what is taken off (`dropEnd_eq_iff`, `trim_spec`).

**Classes.** A text of word characters (`Text.IsWord`) holds no blank, no quote and no punctuation
(`isWord_eq_false_of_isBlank`, `IsWord.notMem`).
-/

namespace Groundplan

/-! ## Character classes -/

/-- The code points of the blanks. -/
def blankCodes : List Nat :=
  [9, 10, 11, 12, 13, 28, 29, 30, 31, 32, 0x85, 0xa0, 0x1680, 0x2000, 0x2001, 0x2002, 0x2003,
    0x2004, 0x2005, 0x2006, 0x2007, 0x2008, 0x2009, 0x200a, 0x2028, 0x2029, 0x202f, 0x205f, 0x3000]

theorem mem_blankCodes {c : CodePoint} (h : isBlank c = true) : c.toNat ∈ blankCodes := by
  have hlow : ∀ n < 33, (9 ≤ n ∧ n ≤ 13) ∨ (28 ≤ n ∧ n ≤ 32) → n ∈ blankCodes := by decide
  have hspaces : ∀ k < 11, 0x2000 + k ∈ blankCodes := by decide
  have hsingle : ∀ n ∈ [0x85, 0xa0, 0x1680, 0x2028, 0x2029, 0x202f, 0x205f, 0x3000],
      n ∈ blankCodes := by decide
  simp only [isBlank, Bool.or_eq_true, Bool.and_eq_true, decide_eq_true_eq] at h
  generalize c.toNat = n at h
  rcases h with (((((((((h | h) | h) | h) | h) | h) | h) | h) | h) | h) | h
  · exact hlow n (by omega) (.inl h)
  · exact hlow n (by omega) (.inr h)
  · exact hsingle n (by simp [h])
  · exact hsingle n (by simp [h])
  · exact hsingle n (by simp [h])
  · obtain ⟨k, hk, rfl⟩ : ∃ k < 11, n = 0x2000 + k := ⟨n - 0x2000, by omega, by omega⟩
    exact hspaces k hk
  · exact hsingle n (by simp [h])
  · exact hsingle n (by simp [h])
  · exact hsingle n (by simp [h])
  · exact hsingle n (by simp [h])
  · exact hsingle n (by simp [h])

theorem isWord_blankCodes : ∀ n ∈ blankCodes, isWord (CodePoint.ofNat n) = false := by
  decide +kernel

/-- A blank is no word character. -/
theorem isWord_eq_false_of_isBlank {c : CodePoint} (h : isBlank c = true) : isWord c = false := by
  have hc := isWord_blankCodes c.toNat (mem_blankCodes h)
  rwa [CodePoint.ofNat_toNat] at hc

theorem isBlank_eq_false_of_isWord {c : CodePoint} (h : isWord c = true) : isBlank c = false := by
  rw [← Bool.not_eq_true]
  intro hb
  rw [isWord_eq_false_of_isBlank hb] at h
  exact Bool.false_ne_true h

namespace Text

/-- The text consists of word characters. -/
def IsWord (t : Text) : Prop := ∀ c ∈ t, isWord c = true

/-- The text consists of blanks, at least one. -/
def IsBlankRun (t : Text) : Prop := t ≠ [] ∧ ∀ c ∈ t, isBlank c = true

/-- The text consists of spaces and tabs. -/
def IsIndentation (t : Text) : Prop := ∀ c ∈ t, isIndent c = true

/-! The texts are gone through, not the characters that there are. -/

instance (t : Text) : Decidable (IsWord t) := List.decidableBAll _ t

instance (t : Text) : Decidable (IsIndentation t) := List.decidableBAll _ t

instance (t : Text) : Decidable (IsBlankRun t) :=
  have : Decidable (∀ c ∈ t, isBlank c = true) := List.decidableBAll _ t
  inferInstanceAs (Decidable (_ ∧ _))

theorem forall_mem_of_all {P : CodePoint → Prop} [DecidablePred P] {t : Text}
    (h : (t.all fun c => decide (P c)) = true) : ∀ c ∈ t, P c :=
  fun c hc => of_decide_eq_true (List.all_eq_true.1 h c hc)

theorem IsWord.notMem {t : Text} (h : t.IsWord) {c : CodePoint} (hc : isWord c = false) : c ∉ t :=
  fun hm => absurd (h c hm) (by simp [hc])

theorem IsWord.append {a b : Text} (ha : a.IsWord) (hb : b.IsWord) : (a ++ b).IsWord :=
  List.forall_mem_append.2 ⟨ha, hb⟩

/-! ## Spans -/

/-- The text starts with no character of the class `p`. -/
def StartsNo (p : CodePoint → Bool) (t : Text) : Prop := ∀ c ∈ t.head?, p c = false

theorem startsNo_cons {p : CodePoint → Bool} {c : CodePoint} {t : Text} :
    StartsNo p (c :: t) ↔ p c = false := by
  simp [StartsNo]

theorem StartsNo.of_append {p : CodePoint → Bool} {a b : Text} (h : StartsNo p (a ++ b)) :
    StartsNo p a := by
  cases a with
  | nil => simp [StartsNo]
  | cons c a => exact startsNo_cons.2 (startsNo_cons.1 h)

theorem StartsNo.append {p : CodePoint → Bool} {a : Text} (h : StartsNo p a) (ha : a ≠ [])
    (b : Text) : StartsNo p (a ++ b) := by
  cases a with
  | nil => exact absurd rfl ha
  | cons c a => exact startsNo_cons.2 (startsNo_cons.1 h)

theorem startsNo_dropWhile (p : CodePoint → Bool) (t : Text) : StartsNo p (t.dropWhile p) := by
  intro c hc
  have h := List.head?_dropWhile_not p t
  rw [Option.mem_def.1 hc] at h
  exact h

theorem takeWhile_append_startsNo {p : CodePoint → Bool} {a r : Text} (ha : ∀ c ∈ a, p c = true)
    (hr : StartsNo p r) : (a ++ r).takeWhile p = a := by
  rw [List.takeWhile_append_of_pos ha]
  cases r with
  | nil => simp
  | cons c r => simp [startsNo_cons.1 hr]

theorem dropWhile_append_startsNo {p : CodePoint → Bool} {a r : Text} (ha : ∀ c ∈ a, p c = true)
    (hr : StartsNo p r) : (a ++ r).dropWhile p = r := by
  rw [List.dropWhile_append_of_pos ha]
  cases r with
  | nil => rfl
  | cons c r => simp [startsNo_cons.1 hr]

/-- What the longest beginning in the class `p` is, and what is left behind it. -/
theorem span_iff {p : CodePoint → Bool} {t a r : Text} :
    t.takeWhile p = a ∧ t.dropWhile p = r ↔
      t = a ++ r ∧ (∀ c ∈ a, p c = true) ∧ StartsNo p r := by
  constructor
  · intro h
    obtain ⟨rfl, rfl⟩ := h
    exact ⟨List.takeWhile_append_dropWhile.symm,
      fun c hc => List.all_eq_true.1 List.all_takeWhile c hc, startsNo_dropWhile p t⟩
  · intro h
    obtain ⟨rfl, ha, hr⟩ := h
    exact ⟨takeWhile_append_startsNo ha hr, dropWhile_append_startsNo ha hr⟩

/-- A text is cut behind its longest beginning in the class `p` in one way. -/
theorem span_inj {p : CodePoint → Bool} {a r a' r' : Text} (h : a ++ r = a' ++ r')
    (ha : ∀ c ∈ a, p c = true) (hr : StartsNo p r) (ha' : ∀ c ∈ a', p c = true)
    (hr' : StartsNo p r') : a = a' ∧ r = r' := by
  obtain ⟨htake, hdrop⟩ := span_iff.2 ⟨rfl, ha, hr⟩
  obtain ⟨htake', hdrop'⟩ := span_iff.2 ⟨h, ha', hr'⟩
  exact ⟨htake.symm.trans htake', hdrop.symm.trans hdrop'⟩

theorem takeWhile_append_cons {p : CodePoint → Bool} {c : CodePoint} (hc : p c = false)
    (a b : Text) : (a ++ c :: b).takeWhile p = a.takeWhile p := by
  induction a with
  | nil => simp [hc]
  | cons d a ih => cases hd : p d <;> simp [hd, ih]

/-- A span does not look past a character outside its class. -/
theorem dropWhile_append_cons {p : CodePoint → Bool} {c : CodePoint} (hc : p c = false)
    (a b : Text) : (a ++ c :: b).dropWhile p = a.dropWhile p ++ c :: b := by
  induction a with
  | nil => simp [hc]
  | cons d a ih => cases hd : p d <;> simp [hd, ih]

/-! ## Ends -/

/-- The text ends with no character of the class `p`. -/
def EndsNo (p : CodePoint → Bool) (t : Text) : Prop := ∀ c ∈ t.getLast?, p c = false

theorem all_getLast?_iff {p : CodePoint → Bool} {t : Text} :
    (t.getLast?.all fun c => !p c) = true ↔ EndsNo p t := by
  simp [EndsNo, Option.all_eq_true]

instance (p : CodePoint → Bool) (t : Text) : Decidable (EndsNo p t) :=
  decidable_of_iff _ all_getLast?_iff

theorem endsNo_nil {p : CodePoint → Bool} : EndsNo p [] := by
  simp [EndsNo]

theorem endsNo_append_singleton {p : CodePoint → Bool} {c : CodePoint} {t : Text} :
    EndsNo p (t ++ [c]) ↔ p c = false := by
  simp [EndsNo]

/-- What a text ends with is what its last part ends with. -/
theorem endsNo_append {p : CodePoint → Bool} {b : Text} (h : b ≠ []) (a : Text) :
    EndsNo p (a ++ b) ↔ EndsNo p b := by
  rw [EndsNo, EndsNo, List.getLast?_append, List.getLast?_eq_some_getLast h, Option.some_or]

theorem EndsNo.of_append {p : CodePoint → Bool} {a b : Text} (h : EndsNo p (a ++ b)) :
    EndsNo p b := by
  by_cases hb : b = []
  · rw [hb]
    exact endsNo_nil
  · exact (endsNo_append hb a).1 h

theorem not_endsNo_of_forall {p : CodePoint → Bool} {t : Text} (hne : t ≠ [])
    (h : ∀ c ∈ t, p c = true) : ¬EndsNo p t := by
  intro hends
  have hlast := hends _ (List.getLast?_eq_some_getLast hne)
  rw [h _ (List.getLast_mem hne)] at hlast
  cases hlast

/-! ## Trimming -/

theorem dropEnd_eq_self {p : CodePoint → Bool} {t : Text} (h : ∀ c ∈ t, p c = false) :
    dropEnd p t = t := by
  induction t with
  | nil => rfl
  | cons c t ih =>
    have hc := h c (by simp)
    rw [dropEnd, ih fun a ha => h a (by simp [ha])]
    cases t <;> simp [hc]

theorem dropEnd_append_of_forall {p : CodePoint → Bool} {a b : Text} (hb : ∀ c ∈ b, p c = true) :
    dropEnd p (a ++ b) = dropEnd p a := by
  induction a with
  | nil =>
    induction b with
    | nil => rfl
    | cons c b ih =>
      rw [List.forall_mem_cons] at hb
      have hrest : dropEnd p b = [] := ih hb.2
      show dropEnd p (c :: b) = []
      rw [dropEnd, hrest]
      exact if_pos hb.1
  | cons c a ih => rw [List.cons_append, dropEnd, dropEnd, ih]

/-- Dropping the end of a text does not reach what does not end it. -/
theorem dropEnd_append {p : CodePoint → Bool} {b : Text} (h : dropEnd p b ≠ []) (a : Text) :
    dropEnd p (a ++ b) = a ++ dropEnd p b := by
  induction a with
  | nil => rfl
  | cons c a ih =>
    obtain ⟨d, r, hd⟩ := List.exists_cons_of_ne_nil (List.append_ne_nil_of_right_ne_nil a h)
    rw [List.cons_append, dropEnd, ih, List.cons_append, hd]

/-- What is left of a text does not end in the class, and what is dropped is of the class. -/
theorem dropEnd_spec (p : CodePoint → Bool) (t : Text) :
    EndsNo p (dropEnd p t) ∧ ∃ back, t = dropEnd p t ++ back ∧ ∀ c ∈ back, p c = true := by
  induction t with
  | nil => exact ⟨endsNo_nil, [], rfl, by simp⟩
  | cons c t ih =>
    obtain ⟨hends, back, ht, hback⟩ := ih
    rw [dropEnd]
    split
    · next hnil =>
      rw [hnil, List.nil_append] at ht
      split
      · next hc => exact ⟨endsNo_nil, c :: t, rfl, by simpa [hc, ht] using hback⟩
      · next hc => exact ⟨by simpa [EndsNo] using hc, t, rfl, by simpa [ht] using hback⟩
    · next hne => exact ⟨(endsNo_append hne [c]).2 hends, back, congrArg (c :: ·) ht, hback⟩

/-- A text is cut in front of its longest end in the class `p` in one way. -/
theorem dropEnd_eq_iff {p : CodePoint → Bool} {t a : Text} :
    dropEnd p t = a ↔ EndsNo p a ∧ ∃ back, t = a ++ back ∧ ∀ c ∈ back, p c = true := by
  constructor
  · rintro rfl
    exact dropEnd_spec p t
  · rintro ⟨hends, back, rfl, hback⟩
    rw [dropEnd_append_of_forall hback]
    rcases List.eq_nil_or_concat a with rfl | ⟨a, c, rfl⟩
    · rfl
    · rw [List.concat_eq_append] at hends ⊢
      have hc : p c = false := endsNo_append_singleton.1 hends
      have hlast : dropEnd p [c] = [c] := by simp [dropEnd, hc]
      rw [dropEnd_append (by simp [hlast]), hlast]

theorem prefix_dropEnd (p : CodePoint → Bool) (t : Text) : dropEnd p t <+: t := by
  obtain ⟨-, back, ht, -⟩ := dropEnd_spec p t
  exact ⟨back, ht.symm⟩

/-- What trimming the front leaves starts with no blank, and what it takes off are blanks. -/
theorem trimStart_spec (t : Text) : StartsNo isBlank (trimStart t) ∧
    ∃ front, t = front ++ trimStart t ∧ ∀ c ∈ front, isBlank c = true := by
  obtain ⟨hcut, hfront, hstarts⟩ := (span_iff (p := isBlank) (t := t)).1 ⟨rfl, rfl⟩
  exact ⟨hstarts, _, hcut, hfront⟩

/-- What trimming leaves has a blank at neither end, and what it takes off are blanks. -/
theorem trim_spec (t : Text) : StartsNo isBlank (trim t) ∧ EndsNo isBlank (trim t) ∧
    ∃ front back, t = front ++ (trim t ++ back) ∧ (∀ c ∈ front, isBlank c = true) ∧
      ∀ c ∈ back, isBlank c = true := by
  obtain ⟨hcut, hfront, hstarts⟩ := (span_iff (p := isBlank) (t := t)).1 ⟨rfl, rfl⟩
  obtain ⟨hends, back, hrest, hback⟩ := dropEnd_spec isBlank (t.dropWhile isBlank)
  rw [hrest] at hstarts
  exact ⟨hstarts.of_append, hends, _, back, hcut.trans (congrArg _ hrest), hfront, hback⟩

/-- Trimming takes off the blanks around a text that has a blank at neither end. -/
theorem trim_append_append {front t back : Text} (hfront : ∀ c ∈ front, isBlank c = true)
    (hstarts : StartsNo isBlank t) (hends : EndsNo isBlank t)
    (hback : ∀ c ∈ back, isBlank c = true) : trim (front ++ (t ++ back)) = t := by
  cases t with
  | nil =>
    have hnil := dropWhile_append_startsNo (r := []) (List.forall_mem_append.2 ⟨hfront, hback⟩)
      (by simp [StartsNo])
    rw [List.append_nil] at hnil
    rw [List.nil_append, trim, trimStart, hnil]
    rfl
  | cons c t =>
    have hstart : StartsNo isBlank ((c :: t) ++ back) := startsNo_cons.2 (startsNo_cons.1 hstarts)
    rw [trim, trimStart, dropWhile_append_startsNo hfront hstart]
    exact dropEnd_eq_iff.2 ⟨hends, back, rfl, hback⟩

/-- Trimming takes the blanks off a text that has none itself. -/
theorem trim_append {front t back : Text} (hfront : ∀ c ∈ front, isBlank c = true)
    (h : ∀ c ∈ t, isBlank c = false) (hback : ∀ c ∈ back, isBlank c = true) :
    trim (front ++ (t ++ back)) = t :=
  trim_append_append hfront (fun c hc => h c (List.mem_of_mem_head? hc))
    (fun c hc => h c (List.mem_of_getLast? hc)) hback

theorem trim_eq_self {t : Text} (h : ∀ c ∈ t, isBlank c = false) : trim t = t := by
  have hnil : ∀ c ∈ ([] : Text), isBlank c = true := by simp
  simpa using trim_append hnil h hnil

end Text

end Groundplan

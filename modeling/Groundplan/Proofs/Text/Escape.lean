import Groundplan.Proofs.View

/-!
# Where an occurrence in an escaped text comes from

An escaped text holds letters that the text does not: those behind the backslash of an escape. An
occurrence of a pattern can use them. Either the pattern occurs in the text itself, or it stands
inside the letters of one escape, or it starts with the last letters of an escape and goes on with
what follows the escaped character (`infix_escape_cases`).

A pattern with a character that no escape is written with (`escapeLetters`) does not stand inside
an escape, and one that starts with such a character occurs in the text itself
(`infix_of_infix_escape`).
-/

namespace Groundplan

namespace Text

variable {p a b : Text}

/-- What occurs in two texts one after the other occurs in one of them, or over the border. -/
theorem infix_append_cases (h : p <:+: a ++ b) :
    p <:+: a ∨ p <:+: b ∨ ∃ x y, x ≠ [] ∧ p = x ++ y ∧ x <:+ a ∧ y <+: b := by
  induction a with
  | nil => exact .inr (.inl h)
  | cons c a ih =>
    rw [List.cons_append, List.infix_cons_iff] at h
    rcases h with ⟨u, hu⟩ | h
    · rcases List.append_eq_append_iff.1 (hu.trans (List.cons_append ..).symm) with
        ⟨as, ha, -⟩ | ⟨bs, hp, hb⟩
      · exact .inl ⟨[], as, by rw [List.nil_append, ← ha]⟩
      · exact .inr (.inr ⟨c :: a, bs, List.cons_ne_nil c a, hp, List.suffix_rfl, u, hb.symm⟩)
    · rcases ih h with h | h | ⟨x, y, hx, hp, hsuffix, hprefix⟩
      · exact .inl (List.infix_cons_iff.2 (.inr h))
      · exact .inr (.inl h)
      · exact .inr (.inr ⟨x, y, hx, hp, hsuffix.trans (List.suffix_cons c a), hprefix⟩)

end Text

namespace Json

variable {p t : Text} {c d : CodePoint}

/-! ## Escapes -/

/-- The characters that stand behind the backslash of an escape. -/
def escapeLetters : Text := "\"\\nrtfbu0123456789abcdef"

theorem escapeChar_control : ∀ n < 0x20,
    escapeChar (CodePoint.ofNat n) = ↑ '\\' :: (escapeChar (CodePoint.ofNat n)).tail ∧
      (escapeChar (CodePoint.ofNat n)).tail.all (fun d => decide (d ∈ escapeLetters)) = true := by
  decide

/-- A character stands for itself, or it is written with a backslash and letters. -/
theorem escapeChar_cases (c : CodePoint) : escapeChar c = [c] ∨
    escapeChar c = ↑ '\\' :: (escapeChar c).tail ∧
      ∀ d ∈ (escapeChar c).tail, d ∈ escapeLetters := by
  by_cases hcontrol : c.toNat < 0x20
  · have hc := escapeChar_control c.toNat hcontrol
    rw [CodePoint.ofNat_toNat] at hc
    exact .inr ⟨hc.1, Text.forall_mem_of_all hc.2⟩
  · by_cases hquote : c = '"'
    · subst hquote
      exact .inr ⟨by decide, Text.forall_mem_of_all (by decide)⟩
    · by_cases hslash : c = '\\'
      · subst hslash
        exact .inr ⟨by decide, Text.forall_mem_of_all (by decide)⟩
      · have hprintable : ∀ d : Char, d.toNat < 0x20 → c ≠ d := by
          rintro d hd rfl
          exact hcontrol hd
        refine .inl ?_
        rw [escapeChar, if_neg hquote, if_neg hslash, if_neg (hprintable '\n' (by decide)),
          if_neg (hprintable '\r' (by decide)), if_neg (hprintable '\t' (by decide)),
          if_neg (hprintable '\x0c' (by decide)), if_neg (hprintable '\x08' (by decide)),
          if_neg hcontrol]

theorem mem_escapeLetters (h : d ∈ (escapeChar c).tail) : d ∈ escapeLetters := by
  rcases escapeChar_cases c with hc | ⟨-, hc⟩
  · rw [hc] at h
    cases h
  · exact hc d h

theorem escape_cons (c : CodePoint) (t : Text) : escape (c :: t) = escapeChar c ++ escape t :=
  List.flatMap_cons

theorem backslash_notMem (hp : IsPath p) : ↑ '\\' ∉ p := by
  intro h
  rcases hp _ h with hword | hdot
  · exact absurd hword (by decide)
  · exact absurd hdot (by decide)

/-! ## Occurrences -/

/-- An escaped text starts with word characters and dots only if the text does. -/
theorem prefix_of_prefix_escape (hp : IsPath p) (h : p <+: escape t) : p <+: t := by
  induction t generalizing p with
  | nil => exact h
  | cons c t ih =>
    cases p with
    | nil => exact List.nil_prefix
    | cons d p =>
      rw [escape_cons] at h
      rcases escapeChar_cases c with hc | ⟨hc, -⟩
      · rw [hc, List.singleton_append, List.cons_prefix_cons] at h
        obtain ⟨rfl, h⟩ := h
        exact List.cons_prefix_cons.2 ⟨rfl, ih (fun e he => hp e (List.mem_cons_of_mem _ he)) h⟩
      · rw [hc, List.cons_append, List.cons_prefix_cons] at h
        obtain ⟨rfl, -⟩ := h
        exact absurd List.mem_cons_self (backslash_notMem hp)

/-- **Where an occurrence in an escaped text comes from**: the text itself, the letters of an
escape, or the last letters of an escape and what follows the escaped character. -/
theorem infix_escape_cases (hne : p ≠ []) (hp : IsPath p) (h : p <:+: escape t) :
    p <:+: t ∨ (∃ c, p <:+: (escapeChar c).tail) ∨
      ∃ c x y, x ≠ [] ∧ p = x ++ y ∧ x <:+ (escapeChar c).tail ∧ c :: y <:+: t := by
  induction t with
  | nil => exact .inl h
  | cons c t ih =>
    have hlift : (p <:+: t ∨ (∃ c, p <:+: (escapeChar c).tail) ∨
        ∃ c x y, x ≠ [] ∧ p = x ++ y ∧ x <:+ (escapeChar c).tail ∧ c :: y <:+: t) →
        p <:+: c :: t ∨ (∃ c, p <:+: (escapeChar c).tail) ∨
          ∃ d x y, x ≠ [] ∧ p = x ++ y ∧ x <:+ (escapeChar d).tail ∧ d :: y <:+: c :: t := by
      intro h
      rcases h with h | h | ⟨d, x, y, hx, hxy, hsuffix, hin⟩
      · exact .inl (List.infix_cons_iff.2 (.inr h))
      · exact .inr (.inl h)
      · exact .inr (.inr ⟨d, x, y, hx, hxy, hsuffix, List.infix_cons_iff.2 (.inr hin)⟩)
    rw [escape_cons] at h
    rcases escapeChar_cases c with hc | ⟨hc, -⟩
    · rw [hc, List.singleton_append, List.infix_cons_iff] at h
      rcases h with h | h
      · have hplain : p <+: escape (c :: t) := by
          rw [escape_cons, hc]
          exact h
        exact .inl (prefix_of_prefix_escape hp hplain).isInfix
      · exact hlift (ih h)
    · -- No match starts before the backslash of an escape or at it.
      rw [hc, List.cons_append, Text.infix_cons_iff_of_notMem hne (backslash_notMem hp)] at h
      rcases Text.infix_append_cases h with h | h | ⟨x, y, hx, hxy, hsuffix, hprefix⟩
      · exact .inr (.inl ⟨c, h⟩)
      · exact hlift (ih h)
      · have hy : IsPath y := fun e he => hp e (hxy ▸ List.mem_append_right x he)
        refine .inr (.inr ⟨c, x, y, hx, hxy, hsuffix, ?_⟩)
        exact List.infix_cons_iff.2
          (.inl (List.cons_prefix_cons.2 ⟨rfl, prefix_of_prefix_escape hy hprefix⟩))

/-- A pattern whose first character is in no escape occurs in the text itself. -/
theorem infix_of_infix_escape (hp : IsPath (d :: p)) (hd : d ∉ escapeLetters)
    (h : d :: p <:+: escape t) : d :: p <:+: t := by
  rcases infix_escape_cases (List.cons_ne_nil d p) hp h with
    h | ⟨c, h⟩ | ⟨c, x, y, hx, hxy, hsuffix, -⟩
  · exact h
  · exact absurd (mem_escapeLetters (h.subset List.mem_cons_self)) hd
  · cases x with
    | nil => exact absurd rfl hx
    | cons e x =>
      obtain ⟨rfl, -⟩ := List.cons.inj hxy
      exact absurd (mem_escapeLetters (hsuffix.subset List.mem_cons_self)) hd

end Json

end Groundplan

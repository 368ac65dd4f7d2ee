import Groundplan.Text.Basic

/-!
# Searching a text

**Searches as relations.** `after?`, `startsWith` and `occursIn` decide the prefix and the infix
relation of lists (`after?_eq_some_iff`, `occursIn_iff`), and `breakOn` finds the first occurrence
if there is one (`breakOn_eq_some_iff`, `breakOn_eq_none_iff`).

**Separators.** A pattern without the character `c` is found in `a ++ c :: b` exactly when it is
found on one side of `c` (`infix_append_cons_iff`), so a pattern that avoids all separators of a
text is found in it exactly when it is found in one of its pieces (`infix_join_iff`).

**Pieces.** Both sides of a cut are cut on their own (`split_append_cons`). So a text is taken piece
by piece (`split_induction`): no piece holds a cut, and each stands in the text
(`eq_false_of_mem_split`, `infix_of_mem_split`).

**Cuts.** `cut` takes a text apart at a separator of several characters. Texts without the first
character of the separator are read back when they are joined (`cut_join`).

**Lines.** Texts without newlines are the lines of the text that they make up
(`lines_join`).
-/

namespace Groundplan.Text

/-! ## Searches as relations -/

theorem after?_eq_some_iff {p t r : Text} : after? p t = some r ↔ t = p ++ r :=
  ⟨eq_append_of_after?, fun h => by rw [h, after?_append]⟩

theorem suffix_of_after? {p t r : Text} (h : after? p t = some r) : r <:+ t :=
  ⟨p, (eq_append_of_after? h).symm⟩

theorem startsWith_iff {p t : Text} : startsWith p t = true ↔ p <+: t := by
  rw [startsWith, Option.isSome_iff_exists]
  exact exists_congr fun r => after?_eq_some_iff.trans eq_comm

/-- Occurrences are infixes. -/
theorem endsWith_iff {p t : Text} : endsWith p t = true ↔ p <:+ t := by
  rw [endsWith, startsWith_iff, List.reverse_prefix]

theorem occursIn_iff {p t : Text} : occursIn p t = true ↔ p <:+: t := by
  induction t with
  | nil => rw [occursIn, startsWith_iff, List.prefix_nil, List.infix_nil]
  | cons c r ih => rw [occursIn, Bool.or_eq_true, startsWith_iff, ih, List.infix_cons_iff]

theorem occursIn_eq_false_iff {p t : Text} : occursIn p t = false ↔ ¬p <:+: t := by
  rw [← occursIn_iff, Bool.not_eq_true]

/-! ## Separators -/

variable {p : Text} {c : CodePoint}

theorem prefix_append_cons_iff (hc : c ∉ p) {a b : Text} : p <+: a ++ c :: b ↔ p <+: a := by
  refine ⟨fun ⟨u, hu⟩ => ?_, fun h => h.trans (List.prefix_append ..)⟩
  rcases List.append_eq_append_iff.1 hu with ⟨as, ha, -⟩ | ⟨bs, hp, hb⟩
  · exact ⟨as, ha.symm⟩
  · cases bs with
    | nil => exact ⟨[], by simpa using hp⟩
    | cons d bs =>
      obtain ⟨rfl, -⟩ := List.cons.inj hb
      exact absurd (hp ▸ by simp) hc

/-- Stripping a beginning without `c` from a text does not look past its first `c`. -/
theorem after?_append_cons (hc : c ∉ p) (a b : Text) :
    after? p (a ++ c :: b) = (after? p a).map (· ++ c :: b) := by
  induction p generalizing a with
  | nil => simp [after?]
  | cons d p ih =>
    rw [List.mem_cons, not_or] at hc
    cases a with
    | nil => simp [after?, Ne.symm hc.1]
    | cons e a =>
      simp only [List.cons_append, after?]
      split
      · exact ih hc.2 a
      · rfl

theorem not_prefix_cons (hp : p ≠ []) (hc : c ∉ p) (b : Text) : ¬p <+: c :: b := fun h =>
  hp (List.prefix_nil.1 ((prefix_append_cons_iff hc (a := [])).1 h))

/-- A pattern without `c` is found on one side of `c` or on the other. -/
theorem infix_append_cons_iff (hp : p ≠ []) (hc : c ∉ p) {a b : Text} :
    p <:+: a ++ c :: b ↔ p <:+: a ∨ p <:+: b := by
  induction a with
  | nil =>
    rw [List.nil_append, List.infix_cons_iff, List.infix_nil]
    simp [not_prefix_cons hp hc, hp]
  | cons d a ih =>
    rw [List.cons_append, List.infix_cons_iff, List.infix_cons_iff, ih, ← List.cons_append,
      prefix_append_cons_iff hc, or_assoc]

theorem infix_cons_iff_of_notMem (hp : p ≠ []) (hc : c ∉ p) {b : Text} :
    p <:+: c :: b ↔ p <:+: b := by
  simpa [hp] using infix_append_cons_iff hp hc (a := []) (b := b)

/-- A pattern without the characters of `sep` is found in front of `sep` or behind it. -/
theorem infix_append_append_iff {sep : Text} (hp : p ≠ []) (hne : sep ≠ [])
    (hsep : ∀ c ∈ sep, c ∉ p) {a b : Text} : p <:+: a ++ (sep ++ b) ↔ p <:+: a ∨ p <:+: b := by
  induction sep generalizing a with
  | nil => exact absurd rfl hne
  | cons c sep ih =>
    rw [List.cons_append, infix_append_cons_iff hp (hsep c (by simp))]
    cases sep with
    | nil => rfl
    | cons d sep =>
      have h := ih (by simp) (fun c hc => hsep c (by simp [hc])) (a := [])
      rw [List.nil_append, List.infix_nil] at h
      rw [h, or_iff_right hp]

theorem mem_join_iff {d : CodePoint} {sep : Text} (hsep : d ∉ sep) {ts : List Text} :
    d ∈ join sep ts ↔ ∃ t ∈ ts, d ∈ t := by
  induction ts with
  | nil => simp [join]
  | cons a ts ih =>
    cases ts with
    | nil => simp
    | cons b ts => simp [join_cons_cons, hsep, ih]

/-- A pattern that avoids the separator is found in one of the joined texts. -/
theorem infix_join_iff {sep : Text} (hp : p ≠ []) (hne : sep ≠ []) (hsep : ∀ c ∈ sep, c ∉ p)
    {ts : List Text} : p <:+: join sep ts ↔ ∃ t ∈ ts, p <:+: t := by
  induction ts with
  | nil => simp [join, hp]
  | cons a ts ih =>
    cases ts with
    | nil => simp
    | cons b ts =>
      rw [join_cons_cons, List.append_assoc, infix_append_append_iff hp hne hsep, ih]
      simp

/-! ## The first occurrence -/

theorem breakOn_eq_none_iff {t : Text} : breakOn p t = none ↔ ¬p <:+: t := by
  induction t with
  | nil => rw [breakOn, Option.map_eq_none_iff, ← Option.not_isSome_iff_eq_none, ← startsWith,
      startsWith_iff, List.prefix_nil, List.infix_nil]
  | cons c t ih =>
    have hstart : after? p (c :: t) = none ↔ ¬p <+: c :: t := by
      rw [← startsWith_iff, startsWith, Option.not_isSome_iff_eq_none]
    rw [breakOn, List.infix_cons_iff, not_or, ← ih, ← hstart]
    cases after? p (c :: t) with
    | none => simp
    | some rest => simp

theorem suffix_of_breakOn {t before rest : Text} (h : breakOn p t = some (before, rest)) :
    rest <:+ t :=
  ⟨before ++ p, (eq_append_of_breakOn h).symm⟩

/-- Behind `before` stands `rest`, which satisfies `P`, and nothing further in front does. -/
structure Earliest (P : Text → Prop) (before rest t : Text) : Prop where
  split : t = before ++ rest
  holds : P rest
  le : ∀ before' rest', t = before' ++ rest' → P rest' → before.length ≤ before'.length

section Earliest

variable {P : Text → Prop} {before rest t : Text}

theorem earliest_nil_iff : Earliest P before rest [] ↔ before = [] ∧ rest = [] ∧ P [] := by
  constructor
  · intro h
    obtain ⟨rfl, rfl⟩ := List.append_eq_nil_iff.1 h.split.symm
    exact ⟨rfl, rfl, h.holds⟩
  · rintro ⟨rfl, rfl, hP⟩
    exact ⟨rfl, hP, fun _ _ _ _ => Nat.zero_le _⟩

theorem earliest_cons_iff : Earliest P before rest (c :: t) ↔
    (before = [] ∧ rest = c :: t ∧ P (c :: t)) ∨
      (¬P (c :: t) ∧ ∃ b, before = c :: b ∧ Earliest P b rest t) := by
  constructor
  · intro h
    have hsplit := h.split
    cases before with
    | nil =>
      obtain rfl : c :: t = rest := hsplit
      exact .inl ⟨rfl, rfl, h.holds⟩
    | cons a b =>
      obtain ⟨rfl, rfl⟩ := List.cons.inj hsplit
      have hnot : ¬P (c :: (b ++ rest)) := fun hP => absurd (h.le [] _ rfl hP) (by simp)
      refine .inr ⟨hnot, b, rfl, rfl, h.holds, fun before' rest' heq hP => ?_⟩
      exact Nat.le_of_succ_le_succ (h.le (c :: before') rest' (congrArg (c :: ·) heq) hP)
  · rintro (⟨rfl, rfl, hP⟩ | ⟨hnot, b, rfl, h⟩)
    · exact ⟨rfl, hP, fun _ _ _ _ => Nat.zero_le _⟩
    · refine ⟨congrArg (c :: ·) h.split, h.holds, fun before' rest' heq hP => ?_⟩
      cases before' with
      | nil =>
        obtain rfl : c :: t = rest' := heq
        exact absurd hP hnot
      | cons a before' =>
        exact Nat.succ_le_succ (h.le before' rest' (List.cons.inj heq).2 hP)

/-- `breakOn` finds the earliest occurrence. -/
theorem breakOn_eq_some_iff : breakOn p t = some (before, rest) ↔
    Earliest (fun u => p <+: u) before (p ++ rest) t := by
  have hstart : ∀ {u : Text}, p <+: u ↔ ∃ r, after? p u = some r := fun {u} =>
    exists_congr fun r => eq_comm.trans after?_eq_some_iff.symm
  induction t generalizing before with
  | nil =>
    rw [earliest_nil_iff, breakOn, Option.map_eq_some_iff]
    constructor
    · rintro ⟨r, hr, heq⟩
      obtain ⟨rfl, rfl⟩ := Prod.mk.inj heq
      exact ⟨rfl, (after?_eq_some_iff.1 hr).symm, hstart.2 ⟨r, hr⟩⟩
    · rintro ⟨rfl, heq, -⟩
      exact ⟨rest, after?_eq_some_iff.2 heq.symm, rfl⟩
  | cons c t ih =>
    rw [earliest_cons_iff, breakOn, hstart]
    cases hfound : after? p (c :: t) with
    | some r =>
      have hr := after?_eq_some_iff.1 hfound
      simp only [Option.some.injEq, Prod.mk.injEq, exists_eq', not_true_eq_false, false_and,
        or_false, and_true, hr, List.append_cancel_left_eq]
      exact and_congr eq_comm eq_comm
    | none =>
      simp only [Option.map_eq_some_iff, Prod.exists, Prod.mk.injEq, reduceCtorEq, exists_false,
        and_false, false_or, not_false_eq_true, true_and, ← ih]
      constructor
      · rintro ⟨b, r, hb, rfl, rfl⟩
        exact ⟨b, rfl, hb⟩
      · rintro ⟨b, rfl, hb⟩
        exact ⟨b, rest, hb, rfl, rfl⟩

end Earliest

/-- The first occurrence of a pattern without `c` in front of `c` stays the first one. -/
theorem breakOn_append_cons (hc : c ∉ p) {a before rest : Text}
    (h : breakOn p a = some (before, rest)) (b : Text) :
    breakOn p (a ++ c :: b) = some (before, rest ++ c :: b) := by
  induction a generalizing before with
  | nil =>
    obtain ⟨r, hr, heq⟩ := Option.map_eq_some_iff.1 h
    cases heq
    have hstart := after?_append_cons hc [] b
    rw [hr] at hstart
    rw [List.nil_append, breakOn, ← List.nil_append (c :: b), hstart]
    rfl
  | cons d a ih =>
    have hstart := after?_append_cons hc (d :: a) b
    rw [breakOn] at h
    rw [List.cons_append] at hstart ⊢
    rw [breakOn, hstart]
    cases hfound : after? p (d :: a) with
    | some r =>
      rw [hfound] at h
      cases h
      rfl
    | none =>
      rw [hfound] at h
      obtain ⟨⟨before', r⟩, hr, heq⟩ := Option.map_eq_some_iff.1 h
      cases heq
      simp [ih hr]

/-! ## Pieces -/

theorem split_of_forall_not {p : CodePoint → Bool} {t : Text} (h : ∀ c ∈ t, p c = false) :
    split p t = [t] := by
  induction t with
  | nil => rfl
  | cons c t ih =>
    rw [List.forall_mem_cons] at h
    rw [split, h.1, ih h.2]
    rfl

/-- The pieces on both sides of a cut are cut on their own. -/
theorem split_append_cons {p : CodePoint → Bool} {c : CodePoint} (hc : p c = true) (t u : Text) :
    split p (t ++ c :: u) = split p t ++ split p u := by
  induction t with
  | nil =>
    show split p (c :: u) = [] :: split p u
    rw [split, if_pos hc]
  | cons d t ih =>
    rw [List.cons_append, split, split, ih]
    obtain ⟨piece, pieces, hpieces⟩ := List.exists_cons_of_ne_nil (split_ne_nil p t)
    rw [hpieces]
    split <;> rfl

section Cuts

variable {p : CodePoint → Bool} {t piece : Text}

/-- A text without cuts, or the text in front of its first cut, that cut, and what follows it. -/
theorem exists_first_cut (p : CodePoint → Bool) (t : Text) :
    (∀ c ∈ t, p c = false) ∨
      ∃ front c rest, t = front ++ c :: rest ∧ (∀ d ∈ front, p d = false) ∧ p c = true := by
  induction t with
  | nil => exact .inl fun c hc => absurd hc List.not_mem_nil
  | cons c t ih =>
    cases hc : p c with
    | true => exact .inr ⟨[], c, t, rfl, fun d hd => absurd hd List.not_mem_nil, hc⟩
    | false =>
      rcases ih with hfree | ⟨front, d, rest, rfl, hfront, hd⟩
      · exact .inl (List.forall_mem_cons.2 ⟨hc, hfree⟩)
      · exact .inr ⟨c :: front, d, rest, rfl, List.forall_mem_cons.2 ⟨hc, hfront⟩, hd⟩

/-- Induction along the cuts: a text without one, or its first piece and what follows the cut. -/
theorem split_induction {motive : Text → Prop} (piece : ∀ t, (∀ c ∈ t, p c = false) → motive t)
    (cut : ∀ front c rest, (∀ d ∈ front, p d = false) → p c = true → motive rest →
      motive (front ++ c :: rest)) (t : Text) : motive t := by
  induction hn : t.length using Nat.strongRecOn generalizing t with
  | ind n ih =>
    subst hn
    rcases exists_first_cut p t with hfree | ⟨front, c, rest, rfl, hfront, hc⟩
    · exact piece t hfree
    · exact cut front c rest hfront hc (ih rest.length (by simp; omega) rest rfl)

theorem split_append_cons_of_forall_not {c : CodePoint} (h : ∀ d ∈ t, p d = false) (hc : p c = true)
    (rest : Text) : split p (t ++ c :: rest) = t :: split p rest := by
  rw [split_append_cons hc, split_of_forall_not h]
  rfl

/-- Pieces that are joined with a character at which the text is cut are read back. -/
theorem split_join {c : CodePoint} (hc : p c = true) {ts : List Text} (hne : ts ≠ [])
    (h : ∀ t ∈ ts, ∀ d ∈ t, p d = false) : split p (join [c] ts) = ts := by
  induction ts with
  | nil => exact absurd rfl hne
  | cons a ts ih =>
    rw [List.forall_mem_cons] at h
    cases ts with
    | nil =>
      rw [join_singleton]
      exact split_of_forall_not h.1
    | cons b ts =>
      rw [join_cons_cons, List.append_assoc, List.singleton_append,
        split_append_cons_of_forall_not h.1 hc, ih (List.cons_ne_nil b ts) h.2]

/-- No piece holds a character at which the text is cut. -/
theorem eq_false_of_mem_split (h : piece ∈ split p t) : ∀ c ∈ piece, p c = false := by
  induction t using split_induction (p := p) with
  | piece t hfree =>
    rw [split_of_forall_not hfree, List.mem_singleton] at h
    exact h ▸ hfree
  | cut front c rest hfront hc ih =>
    rw [split_append_cons_of_forall_not hfront hc] at h
    rcases List.mem_cons.1 h with rfl | h
    · exact hfront
    · exact ih h

theorem infix_of_mem_split (h : piece ∈ split p t) : piece <:+: t := by
  induction t using split_induction (p := p) with
  | piece t hfree =>
    rw [split_of_forall_not hfree, List.mem_singleton] at h
    exact h ▸ List.infix_rfl
  | cut front c rest hfront hc ih =>
    rw [split_append_cons_of_forall_not hfront hc] at h
    rcases List.mem_cons.1 h with rfl | h
    · exact (List.prefix_append _ _).isInfix
    · exact (ih h).trans ((List.suffix_cons c rest).trans (List.suffix_append _ _)).isInfix

/-- The pieces stand in the text in their order. -/
theorem sublist_flatten_split (p : CodePoint → Bool) (t : Text) :
    (split p t).flatten.Sublist t := by
  induction t using split_induction (p := p) with
  | piece t hfree => simp [split_of_forall_not hfree]
  | cut front c rest hfront hc ih =>
    rw [split_append_cons_of_forall_not hfront hc, List.flatten_cons]
    exact (List.Sublist.refl front).append (ih.cons c)

end Cuts

/-! ## Cuts at a separator -/

/-- The pieces of a text whose first `skip` characters belong to a separator already found. -/
def cutFrom (sep : Text) : (skip : Nat) → Text → List Text
  | _, [] => [[]]
  | skip + 1, _ :: r => cutFrom sep skip r
  | 0, c :: r =>
    if startsWith sep (c :: r) then [] :: cutFrom sep (sep.length - 1) r
    else match cutFrom sep 0 r with
      | [] => [[c]]
      | piece :: pieces => (c :: piece) :: pieces

/-- The pieces between the occurrences of `sep`, which are taken from the front. -/
def cut (sep t : Text) : List Text := cutFrom sep 0 t

theorem cutFrom_skip (sep a t : Text) : cutFrom sep a.length (a ++ t) = cutFrom sep 0 t := by
  induction a with
  | nil => rfl
  | cons c a ih => exact ih

/-- A text without the first character of the separator is one piece. -/
theorem cut_of_notMem {sep t : Text} (h : c ∉ t) : cut (c :: sep) t = [t] := by
  induction t with
  | nil => rfl
  | cons d t ih =>
    rw [List.mem_cons, not_or] at h
    have hstart : startsWith (c :: sep) (d :: t) = false := by simp [startsWith, after?, h.1]
    have hrest : cutFrom (c :: sep) 0 t = [t] := ih h.2
    rw [cut, cutFrom, hstart, hrest]
    rfl

/-- The first piece ends where the first separator starts. -/
theorem cut_append {sep a : Text} (h : c ∉ a) (t : Text) :
    cut (c :: sep) (a ++ (c :: sep ++ t)) = a :: cut (c :: sep) t := by
  induction a with
  | nil =>
    have hstart : startsWith (c :: sep) (c :: (sep ++ t)) = true :=
      startsWith_iff.2 (List.prefix_append (c :: sep) t)
    show cutFrom (c :: sep) 0 (c :: (sep ++ t)) = [] :: cut (c :: sep) t
    rw [cutFrom, if_pos hstart, List.length_cons, Nat.add_sub_cancel, cutFrom_skip]
    rfl
  | cons d a ih =>
    rw [List.mem_cons, not_or] at h
    have hstart : startsWith (c :: sep) (d :: (a ++ (c :: sep ++ t))) = false := by
      simp [startsWith, after?, h.1]
    have hrest : cutFrom (c :: sep) 0 (a ++ (c :: sep ++ t)) = a :: cut (c :: sep) t := ih h.2
    rw [List.cons_append, cut, cutFrom, hstart, hrest]
    rfl

/-- Texts without the first character of the separator are read back when they are joined. -/
theorem cut_join {sep : Text} {ts : List Text} (hne : ts ≠ []) (h : ∀ t ∈ ts, c ∉ t) :
    cut (c :: sep) (join (c :: sep) ts) = ts := by
  induction ts with
  | nil => exact absurd rfl hne
  | cons a ts ih =>
    rw [List.forall_mem_cons] at h
    cases ts with
    | nil =>
      rw [join_singleton]
      exact cut_of_notMem h.1
    | cons b ts =>
      rw [join_cons_cons, List.append_assoc, cut_append h.1, ih (List.cons_ne_nil b ts) h.2]

/-! ## Lines -/

/-- The first line ends at the first newline. -/
theorem lines_append_newline {l : Text} (hl : ↑ '\n' ∉ l) (t : Text) :
    lines (l ++ ↑ '\n' :: t) = l :: lines t := by
  have hfree : ∀ c ∈ l, (c == '\n') = false := fun c hc => beq_false_of_ne fun h => hl (h ▸ hc)
  exact split_append_cons_of_forall_not hfree rfl t

/-- No line holds the character that ends it. -/
theorem newline_notMem_of_mem_lines {l t : Text} (h : l ∈ lines t) : ↑ '\n' ∉ l := by
  intro hnewline
  have hfree := eq_false_of_mem_split h '\n' hnewline
  exact absurd hfree (by decide)

theorem infix_of_mem_lines {l t : Text} (h : l ∈ lines t) : l <:+: t := infix_of_mem_split h

theorem join_cons_append (a : Text) (ts : List Text) :
    join ['\n'] (a :: ts) ++ (['\n'] : Text) =
      a ++ ↑ '\n' :: (if ts = [] then [] else join ['\n'] ts ++ (['\n'] : Text)) := by
  cases ts with
  | nil => simp
  | cons b ts => simp [join_cons_cons]

/-- The last of several texts stands behind a separator. -/
theorem join_append_singleton {sep : Text} {ts : List Text} (h : ts ≠ []) (t : Text) :
    join sep (ts ++ [t]) = join sep ts ++ (sep ++ t) := by
  induction ts with
  | nil => exact absurd rfl h
  | cons a ts ih =>
    cases ts with
    | nil => simp [join_cons_cons]
    | cons b ts =>
      have hrest := ih (List.cons_ne_nil b ts)
      rw [List.cons_append] at hrest
      rw [List.cons_append, List.cons_append, join_cons_cons, hrest, join_cons_cons]
      simp

theorem lines_append_cons (t u : Text) : lines (t ++ ↑ '\n' :: u) = lines t ++ lines u :=
  split_append_cons rfl t u

/-- A text has one line more than it has newlines. -/
theorem length_lines (t : Text) : (lines t).length = List.count (α := CodePoint) '\n' t + 1 := by
  induction t using split_induction (p := (· == '\n')) with
  | piece t hfree =>
    have hnone : ↑ '\n' ∉ t := fun h => absurd (hfree '\n' h) (by decide)
    rw [lines, split_of_forall_not hfree, List.count_eq_zero.2 hnone]
    rfl
  | cut front c rest hfront hc ih =>
    obtain rfl : c = '\n' := beq_iff_eq.1 hc
    have hnone : ↑ '\n' ∉ front := fun h => absurd (hfront '\n' h) (by decide)
    rw [lines_append_newline hnone, List.length_cons, ih, List.count_append,
      List.count_eq_zero.2 hnone, List.count_cons_self]
    omega

/-- Lines that are joined are read back. -/
theorem lines_join {ls : List Text} (hne : ls ≠ []) (h : ∀ l ∈ ls, ↑ '\n' ∉ l) :
    lines (join ['\n'] ls) = ls :=
  split_join rfl hne fun l hl _ hc => beq_false_of_ne fun heq => h l hl (heq ▸ hc)

/-- Lines that are joined and closed by newlines are read back; an empty piece stands behind the
last newline. -/
theorem lines_join_append_newline {ls : List Text} (hne : ls ≠ []) (h : ∀ l ∈ ls, ↑ '\n' ∉ l) :
    lines (join ['\n'] ls ++ (['\n'] : Text)) = ls ++ [[]] := by
  rw [lines_append_cons, lines_join hne h]
  rfl

end Groundplan.Text

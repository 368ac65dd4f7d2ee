import Groundplan.Text.Basic

/-!
# The order of texts

Texts are compared by the code points of their characters (`Before`). Sorting compares the other way
round: a text is at most as late as another one if the other one does not come before it
(`atMost_iff`). This is a total order, so that a sorted list of texts starts with one that no other
comes before (`of_head?_sort`).
-/

namespace Groundplan

namespace Text

variable {a b t : Text} {ts : List Text}

/-- The text `a` comes before `b` by the code points of their characters. -/
def Before (a b : Text) : Prop := List.Lex (fun c d => c.toNat < d.toNat) a b

theorem atMost_cons_cons {c d : CodePoint} : atMost (c :: a) (d :: b) = true ↔
    c.toNat < d.toNat ∨ c.toNat = d.toNat ∧ atMost a b = true := by
  rw [atMost, Bool.or_eq_true, Bool.and_eq_true, decide_eq_true_eq, beq_iff_eq, CodePoint.toNat_inj]

theorem atMost_iff : atMost a b = true ↔ ¬Before b a := by
  induction a generalizing b with
  | nil => simp [atMost, Before]
  | cons c a ih =>
    cases b with
    | nil => simp [atMost, Before]
    | cons d b =>
      rw [atMost_cons_cons, ih, Before, Before, List.cons_lex_cons_iff, ← CodePoint.toNat_inj]
      grind

theorem atMost_trans (a b t : Text) (hab : atMost a b = true) (hbt : atMost b t = true) :
    atMost a t = true := by
  induction a generalizing b t with
  | nil => rfl
  | cons c a ih =>
    cases b with
    | nil => cases hab
    | cons d b =>
      cases t with
      | nil => cases hbt
      | cons e t =>
        rw [atMost_cons_cons] at hab hbt ⊢
        rcases hab with hlt | ⟨heq, hab⟩
        · exact .inl (by omega)
        · rcases hbt with hlt | ⟨heq', hbt⟩
          · exact .inl (by omega)
          · exact .inr ⟨heq.trans heq', ih b t hab hbt⟩

theorem atMost_total (a b : Text) : (atMost a b || atMost b a) = true := by
  induction a generalizing b with
  | nil => rfl
  | cons c a ih =>
    cases b with
    | nil => rfl
    | cons d b =>
      have hrest := ih b
      rw [Bool.or_eq_true] at hrest
      rw [Bool.or_eq_true, atMost_cons_cons, atMost_cons_cons]
      rcases Nat.lt_trichotomy c.toNat d.toNat with hlt | heq | hlt
      · exact .inl (.inl hlt)
      · exact hrest.imp (fun h => .inr ⟨heq, h⟩) fun h => .inr ⟨heq.symm, h⟩
      · exact .inr (.inl hlt)

theorem atMost_antisymm (hab : atMost a b = true) (hba : atMost b a = true) : a = b := by
  induction a generalizing b with
  | nil =>
    cases b with
    | nil => rfl
    | cons d b => cases hba
  | cons c a ih =>
    cases b with
    | nil => cases hab
    | cons d b =>
      rw [atMost_cons_cons] at hab hba
      rcases hab with hlt | ⟨heq, hab⟩
      · rcases hba with hlt' | ⟨heq, -⟩ <;> omega
      · rcases hba with hlt | ⟨-, hba⟩
        · omega
        · rw [CodePoint.toNat_inj.1 heq, ih hab hba]

/-- The first text of a sorted list is one that no other comes before. -/
theorem of_head?_sort (h : (sort ts).head? = some t) : t ∈ ts ∧ ∀ u ∈ ts, ¬Before u t := by
  obtain ⟨rest, hsort⟩ := List.head?_eq_some_iff.1 h
  have hsorted := List.pairwise_mergeSort atMost_trans atMost_total ts
  have hmem : ∀ u, u ∈ t :: rest ↔ u ∈ ts := by
    intro u
    rw [← hsort, sort, List.mem_mergeSort]
  rw [sort] at hsort
  rw [hsort, List.pairwise_cons] at hsorted
  refine ⟨(hmem t).1 List.mem_cons_self, fun u hu => atMost_iff.1 ?_⟩
  rcases List.mem_cons.1 ((hmem u).2 hu) with rfl | hu
  · have hself := atMost_total u u
    rwa [Bool.or_self] at hself
  · exact hsorted.1 u hu

theorem head?_sort_eq_none_iff : (sort ts).head? = none ↔ ts = [] := by
  rw [List.head?_eq_none_iff, sort, ← List.length_eq_zero_iff, List.length_mergeSort,
    List.length_eq_zero_iff]

end Text

end Groundplan

import Mathlib.Data.List.Induction
import Groundplan.OrderedMap

/-!
# Maps made from lists

A map that is made from a list of entries has the keys of the list, each at the place where it first
occurs (`keys_ofList`), and at each key the value that comes last (`get?_ofList`).
-/

namespace Groundplan.OrderedMap

variable {α β : Type} [DecidableEq α] {l : List (α × β)} {k : α} {v : β}

theorem ofList_append_singleton (l : List (α × β)) (p : α × β) :
    ofList (l ++ [p]) = (ofList l).insert p.1 p.2 := by
  rw [ofList, List.foldl_append]
  rfl

/-- **The keys stand where they first occur.** -/
theorem keys_ofList [BEq α] [LawfulBEq α] (l : List (α × β)) :
    (ofList l).keys = (l.map Prod.fst).eraseDups := by
  induction l using List.reverseRecOn with
  | nil => rfl
  | append_singleton l p ih =>
    rw [ofList_append_singleton, keys_insert, List.map_append, List.eraseDups_append, ih]
    by_cases hp : p.1 ∈ l.map Prod.fst
    · rw [if_pos (List.mem_eraseDups.2 hp)]
      simp [List.removeAll, hp]
    · rw [if_neg (mt List.mem_eraseDups.1 hp)]
      simp [List.removeAll, hp, List.eraseDups_cons]

/-- **The last value of a key stays.** -/
theorem get?_ofList (l : List (α × β)) (k : α) : (ofList l).get? k = l.reverse.lookup k := by
  induction l using List.reverseRecOn with
  | nil => rfl
  | append_singleton l p ih =>
    rw [ofList_append_singleton, get?_insert, List.reverse_append, List.reverse_singleton,
      List.singleton_append, List.lookup_cons, ih]
    by_cases hk : k = p.1
    · simp [hk]
    · simp [hk, beq_false_of_ne hk]

theorem mem_keys_ofList : k ∈ (ofList l).keys ↔ ∃ v, (k, v) ∈ l := by
  rw [keys_ofList, List.mem_eraseDups, List.mem_map]
  constructor
  · rintro ⟨p, hp, rfl⟩
    exact ⟨p.2, hp⟩
  · rintro ⟨v, hv⟩
    exact ⟨(k, v), hv, rfl⟩

/-- An entry of the map is an entry of the list, and none for its key comes later. -/
theorem mem_entries_ofList_iff : (k, v) ∈ (ofList l).entries ↔
    ∃ front back, l = front ++ (k, v) :: back ∧ ∀ p ∈ back, p.1 ≠ k := by
  rw [mem_entries_iff, get?_ofList, List.lookup_eq_some_iff]
  constructor
  · rintro ⟨front, back, hl, hfront⟩
    refine ⟨back.reverse, front.reverse, ?_, fun p hp => ?_⟩
    · rw [← List.reverse_reverse l, hl]
      simp
    · exact (bne_iff_ne.1 (hfront p (List.mem_reverse.1 hp))).symm
  · rintro ⟨front, back, rfl, hback⟩
    refine ⟨back.reverse, front.reverse, by simp, fun p hp => ?_⟩
    exact bne_iff_ne.2 (hback p (List.mem_reverse.1 hp)).symm

theorem mem_of_mem_entries_ofList {p : α × β} (h : p ∈ (ofList l).entries) : p ∈ l := by
  obtain ⟨front, back, rfl, -⟩ := mem_entries_ofList_iff.1 h
  exact List.mem_append_right front List.mem_cons_self

end Groundplan.OrderedMap

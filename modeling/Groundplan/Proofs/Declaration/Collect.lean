import Groundplan.Declaration

/-!
# Collecting declared resources

`ResourceSet.declare` adds the resource of a declaration. Over a list of declarations, each
identifier gets the resource of its first declaration whose type is not blank
(`get?_foldl_declare`), and the identifiers come in the order of these declarations
(`keys_foldl_declare`, `entries_foldl_declare`).
-/

namespace Groundplan

namespace Declaration

/-- The type of the declaration is more than blanks. -/
def isTyped (d : Declaration) : Bool := !(Text.trim d.type).isEmpty

/-- The resource that a declaration introduces; nothing is known of its body. -/
def resource (d : Declaration) : Resource := { id := d.id, type := d.type }

/-- The declaration gives the resource of `id`. -/
def gives (id : Text) (d : Declaration) : Bool := d.isTyped && d.id == id

end Declaration

namespace ResourceSet

open Declaration (isTyped gives)

variable {rs : ResourceSet} {d : Declaration}

theorem declare_of_mem (h : d.id ∈ rs.keys) : rs.declare d = rs := by
  rw [declare, OrderedMap.contains_iff_mem.2 h, Bool.true_or, if_pos rfl]

theorem declare_of_not_typed (h : d.isTyped = false) : rs.declare d = rs := by
  have hblank : (Text.trim d.type).isEmpty = true := by simpa [isTyped] using h
  rw [declare, hblank, Bool.or_true, if_pos rfl]

theorem declare_of_notMem (h : d.id ∉ rs.keys) (hd : d.isTyped = true) :
    rs.declare d = rs.insert d.id d.resource := by
  have hnew : rs.contains d.id = false := by
    rw [← Bool.not_eq_true, OrderedMap.contains_iff_mem]
    exact h
  have htyped : (Text.trim d.type).isEmpty = false := by simpa [isTyped] using hd
  rw [declare, hnew, htyped, Bool.or_false, if_neg Bool.false_ne_true]
  rfl

/-- A declaration gives a resource to its own identifier, if it has none yet. -/
theorem get?_declare (rs : ResourceSet) (d : Declaration) (id : Text) :
    (rs.declare d).get? id = (rs.get? id).or (if gives id d then some d.resource else none) := by
  by_cases hmem : d.id ∈ rs.keys
  · rw [declare_of_mem hmem]
    by_cases hid : d.id = id
    · obtain ⟨r, hr⟩ := OrderedMap.mem_keys_iff.1 (hid ▸ hmem)
      rw [hr, Option.some_or]
    · simp [gives, hid]
  · cases hd : d.isTyped with
    | false => simp [declare_of_not_typed hd, gives, hd]
    | true =>
      rw [declare_of_notMem hmem hd, OrderedMap.get?_insert]
      by_cases hid : id = d.id
      · have hnone := OrderedMap.get?_eq_none_iff.2 hmem
        simp [gives, hd, hid, hnone]
      · simp [gives, hid, Ne.symm hid]

/-- Each identifier gets the resource of its first declaration whose type is not blank. -/
theorem get?_foldl_declare (l : List Declaration) (rs : ResourceSet) (id : Text) :
    (l.foldl declare rs).get? id =
      (rs.get? id).or ((l.find? (gives id)).map Declaration.resource) := by
  induction l generalizing rs with
  | nil => simp
  | cons d l ih =>
    rw [List.foldl_cons, ih, get?_declare, Option.or_assoc, List.find?_cons]
    cases gives id d <;> simp

/-- A new identifier stands behind the known ones. -/
theorem keys_declare (rs : ResourceSet) (d : Declaration) :
    (rs.declare d).keys =
      if d.isTyped = true ∧ d.id ∉ rs.keys then rs.keys ++ [d.id] else rs.keys := by
  by_cases hmem : d.id ∈ rs.keys
  · rw [declare_of_mem hmem, if_neg fun h => h.2 hmem]
  · cases hd : d.isTyped with
    | false => simp [declare_of_not_typed hd]
    | true =>
      rw [declare_of_notMem hmem hd, OrderedMap.keys_insert, if_neg hmem, if_pos ⟨rfl, hmem⟩]

theorem contains_declare (rs : ResourceSet) (d : Declaration) (id : Text) :
    (rs.declare d).contains id = (rs.contains id || gives id d) := by
  rw [Bool.eq_iff_iff, Bool.or_eq_true, OrderedMap.contains_iff_mem, OrderedMap.contains_iff_mem,
    keys_declare, gives, Bool.and_eq_true, beq_iff_eq]
  split
  · next h => simp [h.1, eq_comm]
  · next h =>
    refine ⟨.inl, ?_⟩
    intro h
    rcases h with hmem | ⟨hd, rfl⟩
    · exact hmem
    · exact Decidable.of_not_not fun hmem => h ⟨hd, hmem⟩

/-- The identifiers that a list of declarations adds to a set are those that it gives to the empty
set, in their order, without those of the set. -/
theorem keys_foldl_declare (l : List Declaration) (rs : ResourceSet) :
    (l.foldl declare rs).keys =
      rs.keys ++ (l.foldl declare ∅).keys.filter (fun id => !rs.contains id) := by
  induction l generalizing rs with
  | nil => simp
  | cons d l ih =>
    have hempty : ∀ id, (∅ : ResourceSet).contains id = false := fun id => rfl
    have hfirst : (rs.declare d).keys =
        rs.keys ++ (declare ∅ d).keys.filter (fun id => !rs.contains id) := by
      rw [keys_declare, keys_declare]
      cases hd : d.isTyped with
      | false => simp
      | true =>
        cases hmem : rs.contains d.id with
        | true => simp [OrderedMap.contains_iff_mem.1 hmem, hmem]
        | false =>
          have hnew : d.id ∉ rs.keys := fun h => by
            rw [OrderedMap.contains_iff_mem.2 h] at hmem
            exact Bool.noConfusion hmem
          simp [hnew, hmem]
    rw [List.foldl_cons, List.foldl_cons, ih (rs.declare d), ih (declare ∅ d), hfirst,
      List.filter_append, List.filter_filter, List.append_assoc]
    simp only [contains_declare, hempty, Bool.false_or, Bool.not_or]

/-- Declarations with types and different identifiers give one resource each, in order. -/
theorem entries_foldl_declare {l : List Declaration} (htyped : ∀ d ∈ l, d.isTyped = true)
    (hnodup : (l.map Declaration.id).Nodup) (hnew : ∀ d ∈ l, d.id ∉ rs.keys) :
    (l.foldl declare rs).entries = rs.entries ++ l.map fun d => (d.id, d.resource) := by
  induction l generalizing rs with
  | nil => simp
  | cons d l ih =>
    rw [List.map_cons, List.nodup_cons] at hnodup
    have hd := declare_of_notMem (hnew d (by simp)) (htyped d (by simp))
    have hkeys : ∀ e ∈ l, e.id ∉ (rs.declare d).keys := by
      intro e he
      rw [hd, OrderedMap.keys_insert, if_neg (hnew d (by simp)), List.mem_append,
        List.mem_singleton, not_or]
      exact ⟨hnew e (by simp [he]), fun h => hnodup.1 (h ▸ List.mem_map_of_mem he)⟩
    rw [List.foldl_cons, ih (fun e he => htyped e (by simp [he])) hnodup.2 hkeys, hd,
      OrderedMap.entries_insert_of_notMem (hnew d (by simp)), List.map_cons, List.append_assoc]
    rfl

end ResourceSet

end Groundplan

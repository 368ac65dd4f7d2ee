/-!
# Maps that remember the order of their keys

A map from keys to values whose keys keep the order in which they first came. Inserting a key that
is there replaces its value in place; a new key goes to the end. Resource sets, resource
properties and the files of a store are such maps.

Main statements: `get?_insert` and `get?_erase` say what the operations do to a look-up,
`keys_insert` what they do to the order, `mem_entries_iff` that the entries are the look-ups.
-/

namespace Groundplan

universe u v w

/-- A map with distinct keys in order of first insertion. -/
structure OrderedMap (α : Type u) (β : Type v) where
  entries : List (α × β)
  distinct : (entries.map Prod.fst).Nodup

namespace OrderedMap

variable {α : Type u} {β : Type v} {γ : Type w}

/-! ## Views -/

/-- The map without entries. -/
def empty : OrderedMap α β := ⟨[], List.nodup_nil⟩

instance : Inhabited (OrderedMap α β) := ⟨empty⟩

instance : EmptyCollection (OrderedMap α β) := ⟨empty⟩

/-- The keys, in order. -/
def keys (m : OrderedMap α β) : List α := m.entries.map Prod.fst

/-- The values, in the order of their keys. -/
def values (m : OrderedMap α β) : List β := m.entries.map Prod.snd

/-- The map has no entries. -/
def isEmpty (m : OrderedMap α β) : Bool := m.entries.isEmpty

/-- The number of entries. -/
def size (m : OrderedMap α β) : Nat := m.entries.length

@[ext] theorem ext {m m' : OrderedMap α β} (h : m.entries = m'.entries) : m = m' := by
  cases m; cases m'; simp_all

theorem nodup_keys (m : OrderedMap α β) : m.keys.Nodup := m.distinct

@[simp] theorem entries_empty : (∅ : OrderedMap α β).entries = [] := rfl

@[simp] theorem keys_empty : (∅ : OrderedMap α β).keys = [] := rfl

/-! ## Values changed in place -/

/-- Changes every value, given its key. -/
def mapValues (f : α → β → γ) (m : OrderedMap α β) : OrderedMap α γ where
  entries := m.entries.map fun (k, v) => (k, f k v)
  distinct := by
    rw [List.map_map]
    exact m.distinct

theorem entries_mapValues (f : α → β → γ) (m : OrderedMap α β) :
    (m.mapValues f).entries = m.entries.map fun (k, v) => (k, f k v) := rfl

@[simp] theorem keys_mapValues (f : α → β → γ) (m : OrderedMap α β) :
    (m.mapValues f).keys = m.keys := by
  simp [keys, entries_mapValues, List.map_map, Function.comp_def]

/-- The entries that satisfy `p`. -/
def filter (p : α → β → Bool) (m : OrderedMap α β) : OrderedMap α β where
  entries := m.entries.filter fun (k, v) => p k v
  distinct := m.distinct.sublist (List.filter_sublist.map Prod.fst)

theorem entries_filter (p : α → β → Bool) (m : OrderedMap α β) :
    (m.filter p).entries = m.entries.filter fun (k, v) => p k v := rfl

theorem keys_filter_keys (p : α → Bool) (m : OrderedMap α β) :
    (m.filter fun k _ => p k).keys = m.keys.filter p := by
  rw [keys, keys, entries_filter, List.filter_map]
  rfl

variable [DecidableEq α]

/-! ## Look-up -/

/-- The value at a key. -/
def get? (m : OrderedMap α β) (k : α) : Option β := m.entries.lookup k

/-- The key has a value. -/
def contains (m : OrderedMap α β) (k : α) : Bool := m.keys.contains k

theorem lookup_eq_some_iff_of_nodup :
    ∀ {l : List (α × β)}, (l.map Prod.fst).Nodup →
      ∀ {k : α} {v : β}, l.lookup k = some v ↔ (k, v) ∈ l
  | [], _, _, _ => by simp
  | (a, b) :: l, h, k, v => by
    rw [List.map_cons, List.nodup_cons] at h
    rw [List.lookup_cons]
    by_cases hk : k = a
    · subst hk
      have : (k, v) ∉ l := fun hm => h.1 (List.mem_map.2 ⟨_, hm, rfl⟩)
      simp [this, eq_comm]
    · rw [beq_false_of_ne hk]
      simp [lookup_eq_some_iff_of_nodup h.2, hk]

/-- The entries are the look-ups. -/
theorem mem_entries_iff {m : OrderedMap α β} {k : α} {v : β} :
    (k, v) ∈ m.entries ↔ m.get? k = some v :=
  (lookup_eq_some_iff_of_nodup m.distinct).symm

@[simp] theorem contains_iff_mem {m : OrderedMap α β} {k : α} :
    m.contains k = true ↔ k ∈ m.keys := by
  simp [contains]

theorem mem_keys_iff {m : OrderedMap α β} {k : α} : k ∈ m.keys ↔ ∃ v, m.get? k = some v := by
  simp only [keys, List.mem_map, ← mem_entries_iff]
  constructor
  · rintro ⟨⟨a, v⟩, h, rfl⟩
    exact ⟨v, h⟩
  · rintro ⟨v, h⟩
    exact ⟨(k, v), h, rfl⟩

theorem get?_eq_none_iff {m : OrderedMap α β} {k : α} : m.get? k = none ↔ k ∉ m.keys := by
  rw [mem_keys_iff, Option.eq_none_iff_forall_ne_some, not_exists]

/-- Changing the values keeps the keys that have one. -/
@[simp] theorem get?_mapValues (f : α → β → γ) (m : OrderedMap α β) (k : α) :
    (m.mapValues f).get? k = (m.get? k).map (f k) := by
  refine Option.ext fun v => ?_
  simp only [← mem_entries_iff, entries_mapValues, List.mem_map, Option.map_eq_some_iff,
    Prod.mk.injEq, Prod.exists]
  constructor
  · rintro ⟨a, b, h, rfl, rfl⟩
    exact ⟨b, h, rfl⟩
  · rintro ⟨b, h, rfl⟩
    exact ⟨k, b, h, rfl, rfl⟩

@[simp] theorem get?_empty (k : α) : (∅ : OrderedMap α β).get? k = none := rfl

/-! ## Insertion -/

/-- Replaces the value at `k` in place, or puts the entry at the end. -/
def insertEntry (k : α) (v : β) : List (α × β) → List (α × β)
  | [] => [(k, v)]
  | (a, b) :: rest => if a = k then (a, v) :: rest else (a, b) :: insertEntry k v rest

theorem map_fst_insertEntry (k : α) (v : β) (l : List (α × β)) :
    (insertEntry k v l).map Prod.fst =
      if k ∈ l.map Prod.fst then l.map Prod.fst else l.map Prod.fst ++ [k] := by
  induction l with
  | nil => simp [insertEntry]
  | cons e l ih =>
    obtain ⟨a, b⟩ := e
    rw [insertEntry]
    split
    · next h => simp [h]
    · next h =>
      have hk : k ≠ a := fun hk => h hk.symm
      simp only [List.map_cons, ih, List.mem_cons, hk, false_or]
      split <;> simp

/-- The map with the value `v` at `k`. -/
def insert (m : OrderedMap α β) (k : α) (v : β) : OrderedMap α β where
  entries := insertEntry k v m.entries
  distinct := by
    rw [map_fst_insertEntry]
    split
    · exact m.distinct
    · next h =>
      rw [List.nodup_append]
      exact ⟨m.distinct, by simp, fun a ha b hb => by
        rw [List.mem_singleton.1 hb]
        exact fun hab => h (hab ▸ ha)⟩

/-- A new key goes to the end and no key changes its place. -/
theorem keys_insert (m : OrderedMap α β) (k : α) (v : β) :
    (m.insert k v).keys = if k ∈ m.keys then m.keys else m.keys ++ [k] :=
  map_fst_insertEntry k v m.entries

theorem insertEntry_of_notMem {k : α} {l : List (α × β)} (h : k ∉ l.map Prod.fst) (v : β) :
    insertEntry k v l = l ++ [(k, v)] := by
  induction l with
  | nil => rfl
  | cons e l ih =>
    rw [List.map_cons, List.mem_cons, not_or] at h
    rw [insertEntry, if_neg (Ne.symm h.1), ih h.2, List.cons_append]

/-- The entry of a new key stands behind all others. -/
theorem entries_insert_of_notMem {m : OrderedMap α β} {k : α} (h : k ∉ m.keys) (v : β) :
    (m.insert k v).entries = m.entries ++ [(k, v)] :=
  insertEntry_of_notMem h v

theorem lookup_insertEntry (k : α) (v : β) (l : List (α × β)) (a : α) :
    (insertEntry k v l).lookup a = if a = k then some v else l.lookup a := by
  induction l with
  | nil =>
    rw [insertEntry, List.lookup_cons]
    by_cases h : a = k
    · simp [h]
    · simp [h, beq_false_of_ne h]
  | cons e l ih =>
    obtain ⟨b, w⟩ := e
    rw [insertEntry]
    by_cases hb : b = k
    · subst hb
      rw [if_pos rfl, List.lookup_cons, List.lookup_cons]
      by_cases ha : a = b
      · simp [ha]
      · simp [ha, beq_false_of_ne ha]
    · rw [if_neg hb, List.lookup_cons, List.lookup_cons, ih]
      by_cases ha : a = b
      · simp [ha, hb]
      · simp [beq_false_of_ne ha]

@[simp] theorem get?_insert (m : OrderedMap α β) (k : α) (v : β) (a : α) :
    (m.insert k v).get? a = if a = k then some v else m.get? a :=
  lookup_insertEntry k v m.entries a

/-- The map of a list of entries; a later value for a key replaces an earlier one in place. -/
def ofList (l : List (α × β)) : OrderedMap α β := l.foldl (fun m (k, v) => m.insert k v) ∅

/-- Changes the value at `k`, if there is one. -/
def modify (m : OrderedMap α β) (k : α) (f : β → β) : OrderedMap α β :=
  m.mapValues fun a v => if a = k then f v else v

/-! ## Removal -/

theorem get?_filter_keys (p : α → Bool) (m : OrderedMap α β) (a : α) :
    (m.filter fun k _ => p k).get? a = if p a then m.get? a else none := by
  have h : ∀ v, (m.filter fun k _ => p k).get? a = some v ↔ p a ∧ m.get? a = some v := fun v => by
    rw [← mem_entries_iff, ← mem_entries_iff, entries_filter, List.mem_filter]
    simp [and_comm]
  by_cases ha : p a
  · rw [if_pos ha]
    exact Option.ext fun v => by simpa [ha] using h v
  · rw [if_neg ha]
    exact Option.eq_none_iff_forall_ne_some.2 fun v hv => ha ((h v).1 hv).1

/-- The map without `k`. -/
def erase (m : OrderedMap α β) (k : α) : OrderedMap α β := m.filter fun a _ => !decide (a = k)

@[simp] theorem get?_erase (m : OrderedMap α β) (k a : α) :
    (m.erase k).get? a = if a = k then none else m.get? a := by
  rw [erase, get?_filter_keys]
  by_cases h : a = k <;> simp [h]

end OrderedMap

end Groundplan

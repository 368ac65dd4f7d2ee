import Mathlib.Data.List.Basic
import Groundplan.Proofs.Files.Fault

/-!
# What a directory lists

**Paths that fit.** A path that can be passed on and whose names are short enough (`Fits`) can be
asked about, whatever there is (`Fits.exists_isEntry`).

**Listings.** A directory lists the names of its entries, and nothing else (`list_eq_ok_iff`,
`mem_namesIn_iff`). What is there under a name is listed in the directory above it
(`exists_list_of_exists?_child`).

**Order.** The order of a listing is the order in which the store holds its entries. Stores that
`Agree` on what is at every location answer every question about a path alike; they can list a
directory in any order (`exists_agree_list`).
-/

namespace Groundplan

namespace Store

variable {s s' : Store} {here l k : Location} {p : Path} {name : Text} {names : List Text}

/-! ## Paths that fit -/

instance (p : Path) : Decidable (Passable p) := inferInstanceAs (Decidable (_ ∧ _))

/-- What can be passed on with a last name can be passed on without it. -/
theorem Passable.of_child (h : Passable (p.child name)) : Passable p := by
  obtain ⟨hpassed, hlength⟩ := h
  refine ⟨(refusal?_toText_child.1 hpassed).1, ?_⟩
  by_cases hnames : p.names = []
  · -- The path is a dot or the start of both texts.
    have hchild : (p.child name).toText = p.start ++ name := by
      simp [Path.toText, Path.child, hnames, Text.join]
    rw [hchild, FileName.bytes_ofText_append, List.length_append] at hlength
    have htext : p.toText = (['.'] : Text) ∨ p.toText = p.start := by
      rw [Path.toText, hnames]
      cases p.start <;> simp [Text.join]
    rcases htext with htext | htext
    · rw [htext]
      decide
    · rw [htext]
      omega
  · rw [Path.toText_child_of_names hnames, FileName.bytes_ofText_append,
      List.length_append] at hlength
    omega

/-- The path can be passed on, and no name of it is too long. -/
structure Fits (p : Path) : Prop where
  passable : Passable p
  length_le : ∀ name ∈ p.names, (FileName.ofText name).bytes.length ≤ longestName

instance (p : Path) : Decidable (Fits p) :=
  decidable_of_iff
    (Passable p ∧ ∀ name ∈ p.names, (FileName.ofText name).bytes.length ≤ longestName)
    ⟨fun h => ⟨h.1, h.2⟩, fun h => ⟨h.1, h.2⟩⟩

theorem follow_ne_tooLong (h : ∀ name ∈ names, (FileName.ofText name).bytes.length ≤ longestName) :
    s.follow l names ≠ .error .nameTooLong := by
  induction names generalizing l with
  | nil => simp [follow]
  | cons name names ih =>
    have hrest := fun l => ih (l := l) fun name hname => h name (List.mem_cons_of_mem _ hname)
    rw [follow]
    split
    · simp
    · simp
    · split
      · exact hrest _
      · rw [if_neg (Nat.not_lt.2 (h name List.mem_cons_self))]
        exact hrest _

theorem Fits.resolve_ne_tooLong (h : Fits p) (s : Store) (here : Location) :
    s.resolve here p ≠ .error .nameTooLong := by
  simp only [resolve, h.passable.1, if_neg (Nat.not_le.2 h.passable.2)]
  exact follow_ne_tooLong h.length_le

theorem Fits.find_ne_tooLong (h : Fits p) (s : Store) (here : Location) :
    s.find here p ≠ .error .nameTooLong := by
  have hlong := h.resolve_ne_tooLong s here
  unfold find
  cases hl : s.resolve here p with
  | error f =>
    rw [hl] at hlong
    simpa [bind, Except.bind] using hlong
  | ok l => cases he : s.lookup? l <;>
      simp [bind, Except.bind, he, throw, throwThe, MonadExceptOf.throw, pure, Except.pure]

/-- A question about a path that fits has an answer. -/
theorem Fits.exists_isEntry (h : Fits p) (s : Store) (here : Location) (q : Entry → Bool) :
    ∃ b, s.isEntry here p q = .ok b := by
  have hfind := h.find_ne_tooLong s here
  unfold isEntry
  cases hp : s.find here p with
  | ok found => exact ⟨_, rfl⟩
  | error f =>
    cases f with
    | nameTooLong => exact absurd hp hfind
    | _ => exact ⟨false, rfl⟩

/-! ## Listings -/

theorem mem_namesIn_iff {name : FileName} :
    name ∈ s.namesIn l ↔ ∃ e, s.lookup? (l ++ [name]) = some e := by
  have hlookup : s.lookup? (l ++ [name]) = s.entries.get? (l ++ [name]) := by simp [lookup?]
  rw [hlookup, ← OrderedMap.mem_keys_iff, namesIn, List.mem_filterMap]
  constructor
  · rintro ⟨k, hk, hlast⟩
    split at hlast
    · next hl =>
      rwa [← hl, List.dropLast_append_getLast? name hlast]
    · cases hlast
  · intro h
    exact ⟨l ++ [name], h, by simp⟩

/-- A directory lists the names of its entries. -/
theorem list_eq_ok_iff {entries : List FileName} : s.list here p = .ok entries ↔
    ∃ l, s.find here p = .ok (l, .directory) ∧ entries = s.namesIn l := by
  unfold list
  cases hp : s.find here p with
  | error f => simp [bind, Except.bind]
  | ok found =>
    obtain ⟨l, e⟩ := found
    cases e <;> simp [bind, Except.bind, throw, throwThe, MonadExceptOf.throw, pure, Except.pure,
      eq_comm]

/-- What cannot be passed on cannot be listed, and nothing else is refused. -/
theorem list_eq_refusal_iff {fault : FileFault} (hrefusal : fault.isRefusal = true) :
    s.list here p = .error fault ↔ refusal? p.toText = some fault := by
  rw [← resolve_eq_refusal_iff hrefusal s here, list, find]
  cases hl : s.resolve here p with
  | error other => simp [bind, Except.bind]
  | ok l =>
    refine iff_of_false (fun h => ?_) (by simp)
    cases he : s.lookup? l with
    | none =>
      simp only [bind, Except.bind, he, throw, throwThe, MonadExceptOf.throw,
        Except.error.injEq] at h
      subst h
      cases hrefusal
    | some e =>
      cases e with
      | directory => simp [bind, Except.bind, he, pure, Except.pure] at h
      | file bytes =>
        simp only [bind, Except.bind, he, pure, Except.pure, throw, throwThe, MonadExceptOf.throw,
          Except.error.injEq] at h
        subst h
        cases hrefusal

/-- A path with a last name leads through the directory that the path without it leads to. -/
theorem exists_find_of_resolve_child (h : s.resolve here (p.child name) = .ok l) :
    ∃ k, s.find here p = .ok (k, .directory) ∧ s.follow k [name] = .ok l := by
  obtain ⟨hpassable, hfollow⟩ := resolve_eq_ok_iff.1 h
  have hnames : (p.child name).names = p.names ++ [name] := rfl
  have hstart : (p.child name).isAbsolute = p.isAbsolute := rfl
  rw [hnames, hstart, follow_append] at hfollow
  cases hk : s.follow (if p.isAbsolute then [] else here) p.names with
  | error f =>
    rw [hk] at hfollow
    cases hfollow
  | ok k =>
    rw [hk] at hfollow
    change s.follow k [name] = .ok l at hfollow
    have hdirectory : s.lookup? k = some .directory := by
      rw [follow] at hfollow
      cases he : s.lookup? k with
      | none => simp [he] at hfollow
      | some e =>
        cases e with
        | file bytes => simp [he] at hfollow
        | directory => rfl
    have hresolve := resolve_eq_ok_iff.2 ⟨hpassable.of_child, hk⟩
    exact ⟨k, find_eq_ok_iff.2 ⟨hresolve, hdirectory⟩, hfollow⟩

/-- What is there is listed in the directory above it. -/
theorem exists_list_of_exists?_child (hname : name ≠ (['.', '.'] : Text))
    (h : s.exists? here (p.child name) = .ok true) :
    ∃ entries, s.list here p = .ok entries ∧ .ofText name ∈ entries := by
  obtain ⟨l, e, hl, he⟩ := exists?_eq_true_iff.1 h
  obtain ⟨k, hk, hfollow⟩ := exists_find_of_resolve_child hl
  obtain ⟨-, -, rfl⟩ := (follow_singleton_iff hname).1 hfollow
  exact ⟨_, list_eq_ok_iff.2 ⟨k, hk, rfl⟩, mem_namesIn_iff.2 ⟨e, he⟩⟩

/-! ## Order -/

/-- The same is at every location. -/
def Agree (s s' : Store) : Prop := ∀ l, s'.lookup? l = s.lookup? l

theorem Agree.follow (h : Agree s s') : s'.follow l names = s.follow l names := by
  induction names generalizing l with
  | nil => rfl
  | cons name names ih =>
    rw [Store.follow, Store.follow, h l]
    split
    · rfl
    · rfl
    · rw [ih, ih]

theorem Agree.find (h : Agree s s') : s'.find here p = s.find here p := by
  have hresolve : s'.resolve here p = s.resolve here p := by
    rw [resolve, resolve, h.follow]
  have hlookup : s'.lookup? = s.lookup? := funext h
  rw [Store.find, Store.find, hresolve, hlookup]

theorem Agree.read (h : Agree s s') : s'.read here p = s.read here p := by
  rw [Store.read, Store.read, h.find]

theorem Agree.mem_namesIn_iff (h : Agree s s') {name : FileName} :
    name ∈ s'.namesIn l ↔ name ∈ s.namesIn l := by
  rw [Store.mem_namesIn_iff, Store.mem_namesIn_iff, h]

/-- Only the order of a listing can be another one. -/
theorem Agree.mem_list_iff (h : Agree s s') {name : FileName} :
    (∃ entries, s'.list here p = .ok entries ∧ name ∈ entries) ↔
      ∃ entries, s.list here p = .ok entries ∧ name ∈ entries := by
  simp only [list_eq_ok_iff, h.find]
  constructor
  · rintro ⟨-, ⟨l, hl, rfl⟩, hname⟩
    exact ⟨_, ⟨l, hl, rfl⟩, h.mem_namesIn_iff.1 hname⟩
  · rintro ⟨-, ⟨l, hl, rfl⟩, hname⟩
    exact ⟨_, ⟨l, hl, rfl⟩, h.mem_namesIn_iff.2 hname⟩

/-- What a list is mapped to can be put in any order with the list. -/
theorem exists_perm_filterMap {α β : Type} {f : α → Option β} {as : List α} {bs : List β}
    (h : bs.Perm (as.filterMap f)) : ∃ as' : List α, as'.Perm as ∧ as'.filterMap f = bs := by
  induction as generalizing bs with
  | nil => exact ⟨[], .refl _, by simpa using h.symm⟩
  | cons a as ih =>
    cases hf : f a with
    | none =>
      rw [List.filterMap_cons_none hf] at h
      obtain ⟨as', hperm, rfl⟩ := ih h
      exact ⟨a :: as', hperm.cons a, List.filterMap_cons_none hf⟩
    | some b =>
      rw [List.filterMap_cons_some hf] at h
      -- The rest is put in order first; then `a` goes where `b` stands.
      obtain ⟨front, back, rfl⟩ := List.append_of_mem (h.symm.subset List.mem_cons_self)
      have hrest : (front ++ back).Perm (as.filterMap f) :=
        (List.perm_middle.symm.trans h).cons_inv
      obtain ⟨as', hperm, hmap⟩ := ih hrest
      obtain ⟨first, second, rfl, rfl, rfl⟩ := List.filterMap_eq_append_iff.1 hmap
      refine ⟨first ++ a :: second, List.perm_middle.trans (hperm.cons a), ?_⟩
      rw [List.filterMap_append, List.filterMap_cons_some hf]

/-- **Every order of a listing is one of a store with the same entries.** -/
theorem exists_agree_list {entries order : List FileName} (h : s.list here p = .ok entries)
    (horder : order.Perm entries) : ∃ s', Agree s s' ∧ s'.list here p = .ok order := by
  obtain ⟨l, hl, rfl⟩ := list_eq_ok_iff.1 h
  have hentries : s.namesIn l = s.entries.entries.filterMap fun e =>
      if e.1.dropLast = l then e.1.getLast? else none := by
    rw [namesIn, OrderedMap.keys, List.filterMap_map]
    rfl
  rw [hentries] at horder
  obtain ⟨entries, hperm, hmap⟩ := exists_perm_filterMap horder
  let m : OrderedMap Location Entry :=
    ⟨entries, (hperm.map Prod.fst).nodup_iff.2 s.entries.distinct⟩
  have hget : ∀ k, m.get? k = s.entries.get? k := by
    intro k
    refine Option.ext fun e => ?_
    rw [← OrderedMap.mem_entries_iff, ← OrderedMap.mem_entries_iff]
    exact hperm.mem_iff
  have hagree : Agree s ⟨m⟩ := by
    intro k
    rw [lookup?, lookup?, hget]
  refine ⟨⟨m⟩, hagree, list_eq_ok_iff.2 ⟨l, ?_, ?_⟩⟩
  · rw [hagree.find, hl]
  · rw [namesIn, OrderedMap.keys, List.filterMap_map]
    exact hmap.symm

end Store

end Groundplan

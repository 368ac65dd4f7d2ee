import Mathlib.Order.Defs.Unbundled
import Groundplan.Files.Store

/-!
# What changes of a store keep

**Kinds.** No operation on paths takes an entry away or turns a file into a directory or a directory
into a file (`KeepsKinds`): each one puts an entry where there was none, or a file in the place of
a file (`keepsKinds_of_write`, `Extends.keepsKinds`).

**Extensions.** Making directories, and writing where nothing was, even leave every entry as it was
(`Extends`, `extends_ensureDirectories`, `extends_of_write`). All that making directories adds are
directories on the way of the path (`AddsDirectories`).

**Paths.** What a path leads to is then still there: it resolves to the same location
(`resolve_of_keepsKinds`), so a file that could be read can be written (`exists_write_of_read`), and
what was written is read (`read_of_write`). In an extension the same is read
(`read_of_extends`), and what is not there was not there before (`not_exists_of_extends`).
-/

namespace Groundplan

theorem Entry.eq_directory {e : Entry} (h : e.isDirectory = true) : e = .directory := by
  cases e with
  | directory => rfl
  | file bytes => cases h

theorem Entry.exists_eq_file {e : Entry} (h : e.isDirectory = false) :
    ∃ bytes, e = .file bytes := by
  cases e with
  | directory => cases h
  | file bytes => exact ⟨bytes, rfl⟩

namespace Store

variable {s s' : Store} {here l k : Location} {path : Path} {bytes : List UInt8} {e : Entry}

/-! ## Kinds -/

/-- Every directory is still a directory, and every file is still a file. -/
def KeepsKinds (s s' : Store) : Prop :=
  ∀ l e, s.lookup? l = some e → ∃ e', s'.lookup? l = some e' ∧ e'.isDirectory = e.isDirectory

instance : IsPreorder Store KeepsKinds where
  refl _ _ e h := ⟨e, h, rfl⟩
  trans _ _ _ h h' l e hl := by
    obtain ⟨e₁, hl₁, he₁⟩ := h l e hl
    obtain ⟨e₂, hl₂, he₂⟩ := h' l e₁ hl₁
    exact ⟨e₂, hl₂, he₂.trans he₁⟩

theorem KeepsKinds.lookup?_directory (h : KeepsKinds s s') (hl : s.lookup? l = some .directory) :
    s'.lookup? l = some .directory := by
  obtain ⟨e, he, hkind⟩ := h l _ hl
  rw [he, Entry.eq_directory hkind]

theorem KeepsKinds.lookup?_file (h : KeepsKinds s s') (hl : s.lookup? l = some (.file bytes)) :
    ∃ bytes', s'.lookup? l = some (.file bytes') := by
  obtain ⟨e, he, hkind⟩ := h l _ hl
  obtain ⟨bytes', rfl⟩ := Entry.exists_eq_file hkind
  exact ⟨bytes', he⟩

@[simp] theorem lookup?_root (s : Store) : s.lookup? [] = some .directory := by
  simp [lookup?]

theorem ne_root_of_lookup?_ne (h : s.lookup? l ≠ some .directory) : l ≠ [] := by
  rintro rfl
  simp at h

/-- An entry may be put where there is none, or in the place of one of its kind. -/
theorem keepsKinds_put (hl : l ≠ [])
    (h : ∀ old, s.lookup? l = some old → e.isDirectory = old.isDirectory) :
    KeepsKinds s (s.put l e) := by
  intro k old hold
  rw [lookup?_put hl]
  by_cases hk : k = l
  · subst hk
    exact ⟨e, if_pos rfl, h old hold⟩
  · exact ⟨old, by rw [if_neg hk, hold], rfl⟩

/-! ## Extensions -/

/-- Every entry is still there as it was. -/
def Extends (s s' : Store) : Prop := ∀ l e, s.lookup? l = some e → s'.lookup? l = some e

instance : IsPreorder Store Extends where
  refl _ _ _ h := h
  trans _ _ _ h h' l e hl := h' l e (h l e hl)

theorem Extends.keepsKinds (h : Extends s s') : KeepsKinds s s' := fun l e hl => ⟨e, h l e hl, rfl⟩

/-- An entry may be put where there is none. -/
theorem extends_put (h : s.lookup? l = none) : Extends s (s.put l e) := by
  have hroot : l ≠ [] := ne_root_of_lookup?_ne (s := s) (by simp [h])
  intro k old hold
  have hk : k ≠ l := by
    rintro rfl
    rw [h] at hold
    cases hold
  rw [lookup?_put hroot, if_neg hk, hold]

/-! ## Operations -/

/-- Writing puts a file where the path leads, unless that is a directory. -/
theorem write_eq_ok_iff : s.write here path bytes = .ok s' ↔
    ∃ l, s.resolve here path = .ok l ∧ s.lookup? l ≠ some .directory ∧
      s' = s.put l (.file bytes) := by
  unfold write
  cases hl : s.resolve here path with
  | error f => simp [bind, Except.bind]
  | ok l =>
    cases he : s.lookup? l with
    | none => simp [bind, Except.bind, he, pure, Except.pure, eq_comm]
    | some e => cases e <;> simp [bind, Except.bind, he, throw, throwThe, MonadExceptOf.throw, pure,
        Except.pure, eq_comm]

theorem keepsKinds_of_write (h : s.write here path bytes = .ok s') : KeepsKinds s s' := by
  obtain ⟨l, -, hl, rfl⟩ := write_eq_ok_iff.1 h
  refine keepsKinds_put (ne_root_of_lookup?_ne hl) fun old hold => ?_
  cases old with
  | directory => exact absurd hold hl
  | file bytes => rfl

theorem makeDirectory_eq_ok_iff : s.makeDirectory here path = .ok s' ↔
    ∃ l, s.resolve here path = .ok l ∧ s.lookup? l = none ∧ s' = s.put l .directory := by
  unfold makeDirectory
  cases hl : s.resolve here path with
  | error f => simp [bind, Except.bind]
  | ok l =>
    cases he : s.lookup? l <;> simp [bind, Except.bind, he, throw, throwThe, MonadExceptOf.throw,
      pure, Except.pure, eq_comm]

/-! ## Paths -/

theorem follow_of_keepsKinds (h : KeepsKinds s s') {names : List Text}
    (hk : s.follow l names = .ok k) : s'.follow l names = .ok k := by
  induction names generalizing l with
  | nil => exact hk
  | cons name names ih =>
    rw [follow] at hk ⊢
    split at hk
    · cases hk
    · cases hk
    · next hl =>
      rw [h.lookup?_directory hl]
      split at hk
      · next hup => simpa [hup] using ih hk
      · next hup =>
        split at hk
        · cases hk
        · next hlong => simpa [hup, hlong] using ih hk

/-- A path leads to the same location as before. -/
theorem resolve_of_keepsKinds (h : KeepsKinds s s') (hl : s.resolve here path = .ok l) :
    s'.resolve here path = .ok l := by
  unfold resolve at hl ⊢
  split at hl
  · cases hl
  · split at hl
    · cases hl
    · next hlong =>
      rw [if_neg hlong]
      exact follow_of_keepsKinds h hl

/-! ## Directories -/

/-- Every entry is still there as it was, and all that is new are directories to which the path, or
one above it, leads. -/
structure AddsDirectories (here : Location) (path : Path) (s s' : Store) : Prop where
  keeps : Extends s s'
  new : ∀ l e, s'.lookup? l = some e → s.lookup? l = some e ∨
    e = .directory ∧ ∃ names, names <+: path.names ∧ s'.resolve here ⟨path.start, names⟩ = .ok l

instance : IsPreorder Store (AddsDirectories here path) where
  refl s := ⟨refl s, fun _ _ h => .inl h⟩
  trans _ _ _ h h' := {
    keeps := IsTrans.trans _ _ _ h.keeps h'.keeps
    new := fun l e he => by
      rcases h'.new l e he with hold | hnew
      · rcases h.new l e hold with hold | ⟨hdirectory, names, hway, hresolve⟩
        · exact .inl hold
        · exact .inr
            ⟨hdirectory, names, hway, resolve_of_keepsKinds h'.keeps.keepsKinds hresolve⟩
      · exact .inr hnew }

theorem addsDirectories_of_ensureDirectory {names : List Text} (hway : names <+: path.names)
    (h : s.ensureDirectory here ⟨path.start, names⟩ = .ok s') :
    AddsDirectories here path s s' := by
  unfold ensureDirectory at h
  split at h
  · next hmade =>
    cases h
    obtain ⟨l, hresolve, hl, rfl⟩ := makeDirectory_eq_ok_iff.1 hmade
    have hroot : l ≠ [] := ne_root_of_lookup?_ne (s := s) (by simp [hl])
    have hkeeps : Extends s (s.put l .directory) := extends_put hl
    refine ⟨hkeeps, fun k e he => ?_⟩
    rw [lookup?_put hroot] at he
    split at he
    · next hk =>
      rw [hk]
      exact .inr ⟨(Option.some.inj he).symm, names, hway,
        resolve_of_keepsKinds hkeeps.keepsKinds hresolve⟩
    · exact .inl he
  · cases h
  · split at h
    · cases h
    · cases hd : s.isDirectory here ⟨path.start, names⟩ with
      | error f => simp [hd, bind, Except.bind] at h
      | ok b =>
        cases b with
        | false => simp [hd, bind, Except.bind, throw, throwThe, MonadExceptOf.throw] at h
        | true =>
          simp only [hd, bind, Except.bind, if_true, pure, Except.pure, Except.ok.injEq] at h
          subst h
          exact refl s

theorem addsDirectories_settle {r : Except FileFault Store}
    (h : ∀ s', r = .ok s' → AddsDirectories here path s s') :
    AddsDirectories here path s (ensureNames.settle s r).2 := by
  cases r with
  | error f => exact refl s
  | ok s' => exact h s' rfl

theorem addsDirectories_ensureNames (s : Store) (here : Location) {reversed : List Text}
    (hway : reversed.reverse <+: path.names) :
    AddsDirectories here path s (s.ensureNames here path.start reversed).2 := by
  induction reversed with
  | nil => exact addsDirectories_settle fun _ => addsDirectories_of_ensureDirectory hway
  | cons name above ih =>
    have habove : above.reverse <+: path.names := by
      rw [List.reverse_cons] at hway
      exact (List.prefix_append above.reverse [name]).trans hway
    specialize ih habove
    rw [ensureNames]
    split
    · -- The directory above is missing, so it is made first.
      split
      · next heq =>
        rw [heq] at ih
        exact ih
      · next heq =>
        rw [heq] at ih
        exact IsTrans.trans _ _ _ ih
          (addsDirectories_settle fun _ => addsDirectories_of_ensureDirectory hway)
    · exact addsDirectories_settle fun _ => addsDirectories_of_ensureDirectory hway

/-- Making directories leaves everything that was there as it was, and adds no more than the
directories that the path asks for. -/
theorem addsDirectories_ensureDirectories (s : Store) (here : Location) (path : Path) :
    AddsDirectories here path s (s.ensureDirectories here path).2 :=
  addsDirectories_ensureNames s here (by simp)

theorem extends_ensureDirectories (s : Store) (here : Location) (path : Path) :
    Extends s (s.ensureDirectories here path).2 :=
  (addsDirectories_ensureDirectories s here path).keeps

/-! ## Files -/

/-- A file is read where its path leads. -/
theorem read_eq_ok_iff : s.read here path = .ok bytes ↔
    ∃ l, s.resolve here path = .ok l ∧ s.lookup? l = some (.file bytes) := by
  unfold read find
  cases hl : s.resolve here path with
  | error f => simp [bind, Except.bind]
  | ok l =>
    cases he : s.lookup? l with
    | none => simp [bind, Except.bind, he, throw, throwThe, MonadExceptOf.throw]
    | some e => cases e <;> simp [bind, Except.bind, he, throw, throwThe, MonadExceptOf.throw, pure,
        Except.pure]

theorem isFile_of_read (h : s.read here path = .ok bytes) : s.isFile here path = .ok true := by
  obtain ⟨l, hl, hfile⟩ := read_eq_ok_iff.1 h
  have hfind : s.find here path = .ok (l, .file bytes) := by
    rw [find, hl]
    simp only [bind, Except.bind, hfile]
    rfl
  rw [isFile, isEntry, hfind]
  rfl

/-- What was written is read. -/
theorem read_of_write (h : s.write here path bytes = .ok s') : s'.read here path = .ok bytes := by
  have hkeep := keepsKinds_of_write h
  obtain ⟨l, hl, hne, rfl⟩ := write_eq_ok_iff.1 h
  refine read_eq_ok_iff.2 ⟨l, resolve_of_keepsKinds hkeep hl, ?_⟩
  rw [lookup?_put (ne_root_of_lookup?_ne hne), if_pos rfl]

/-- A file that could be read can be written, also after other changes. -/
theorem exists_write_of_read (h : s.read here path = .ok bytes) (hkeep : KeepsKinds s s')
    (bytes' : List UInt8) : ∃ s'', s'.write here path bytes' = .ok s'' := by
  obtain ⟨l, hl, hfile⟩ := read_eq_ok_iff.1 h
  obtain ⟨old, hold⟩ := hkeep.lookup?_file hfile
  exact ⟨_, write_eq_ok_iff.2 ⟨l, resolve_of_keepsKinds hkeep hl, by simp [hold], rfl⟩⟩

/-! ## Questions -/

theorem find_eq_ok_iff : s.find here path = .ok (l, e) ↔
    s.resolve here path = .ok l ∧ s.lookup? l = some e := by
  unfold find
  cases hl : s.resolve here path with
  | error f => simp [bind, Except.bind]
  | ok k =>
    cases he : s.lookup? k with
    | none =>
      simp only [bind, Except.bind, he, throw, throwThe, MonadExceptOf.throw, reduceCtorEq,
        Except.ok.injEq, false_iff, not_and]
      rintro rfl
      simp [he]
    | some e' =>
      simp only [bind, Except.bind, he, pure, Except.pure, Except.ok.injEq, Prod.mk.injEq]
      refine and_congr_right ?_
      rintro rfl
      simp [he]

theorem exists?_eq_true_iff : s.exists? here path = .ok true ↔
    ∃ l e, s.resolve here path = .ok l ∧ s.lookup? l = some e := by
  simp only [← find_eq_ok_iff, exists?, isEntry]
  cases s.find here path with
  | ok p => exact ⟨fun _ => ⟨p.1, p.2, rfl⟩, fun _ => rfl⟩
  | error f => cases f <;> simp

theorem isFile_eq_true_iff : s.isFile here path = .ok true ↔
    ∃ bytes, s.read here path = .ok bytes := by
  constructor
  · intro h
    unfold isFile isEntry at h
    cases hfind : s.find here path with
    | error f => cases f <;> simp [hfind] at h
    | ok p =>
      obtain ⟨l, e⟩ := p
      simp only [hfind, Except.ok.injEq] at h
      obtain ⟨hl, he⟩ := find_eq_ok_iff.1 hfind
      cases e with
      | directory => cases h
      | file bytes => exact ⟨bytes, read_eq_ok_iff.2 ⟨l, hl, he⟩⟩
  · intro h
    obtain ⟨bytes, h⟩ := h
    exact isFile_of_read h

/-- A file that could be read is still a file after other changes. -/
theorem isFile_of_keepsKinds (h : KeepsKinds s s') (hread : s.read here path = .ok bytes) :
    s'.isFile here path = .ok true := by
  obtain ⟨l, hl, hfile⟩ := read_eq_ok_iff.1 hread
  obtain ⟨bytes', hfile'⟩ := h.lookup?_file hfile
  exact isFile_of_read (read_eq_ok_iff.2 ⟨l, resolve_of_keepsKinds h hl, hfile'⟩)

/-! ## Extensions on paths -/

/-- What was read is read in an extension. -/
theorem read_of_extends (h : Extends s s') (hread : s.read here path = .ok bytes) :
    s'.read here path = .ok bytes := by
  obtain ⟨l, hl, hfile⟩ := read_eq_ok_iff.1 hread
  exact read_eq_ok_iff.2 ⟨l, resolve_of_keepsKinds h.keepsKinds hl, h l _ hfile⟩

theorem exists_of_extends (h : Extends s s') (hexists : s.exists? here path = .ok true) :
    s'.exists? here path = .ok true := by
  obtain ⟨l, e, hl, he⟩ := exists?_eq_true_iff.1 hexists
  exact exists?_eq_true_iff.2 ⟨l, e, resolve_of_keepsKinds h.keepsKinds hl, h l e he⟩

/-- A name that is too long is still reached. -/
theorem follow_tooLong_of_keepsKinds (h : KeepsKinds s s') {names : List Text}
    (hk : s.follow l names = .error .nameTooLong) : s'.follow l names = .error .nameTooLong := by
  induction names generalizing l with
  | nil => cases hk
  | cons name names ih =>
    rw [follow] at hk ⊢
    split at hk
    · cases hk
    · cases hk
    · next hl =>
      rw [h.lookup?_directory hl]
      split at hk
      · next hup => simpa [hup] using ih hk
      · next hup =>
        split at hk
        · next hlong => simp [hup, hlong]
        · next hlong => simpa [hup, hlong] using ih hk

theorem exists?_eq_tooLong_iff : s.exists? here path = .error .nameTooLong ↔
    s.resolve here path = .error .nameTooLong := by
  unfold exists? isEntry find
  cases hl : s.resolve here path with
  | error f => cases f <;> simp [bind, Except.bind]
  | ok l => cases he : s.lookup? l <;>
      simp [bind, Except.bind, he, throw, throwThe, MonadExceptOf.throw, pure, Except.pure]

/-- A question whether something exists fails only for a name or a path that is too long. -/
theorem exists?_cases (s : Store) (here : Location) (path : Path) :
    s.exists? here path = .ok true ∨ s.exists? here path = .ok false ∨
      s.exists? here path = .error .nameTooLong := by
  unfold exists? isEntry
  cases s.find here path with
  | ok p => exact .inl rfl
  | error f => cases f <;> simp

/-- What is not there in an extension was not there before. -/
theorem not_exists_of_extends (h : Extends s s') (hexists : s'.exists? here path = .ok false) :
    s.exists? here path = .ok false := by
  rcases exists?_cases s here path with hbefore | hbefore | hbefore
  · rw [exists_of_extends h hbefore] at hexists
    cases hexists
  · exact hbefore
  · have hlong : s'.resolve here path = .error .nameTooLong := by
      rw [exists?_eq_tooLong_iff] at hbefore
      unfold resolve at hbefore ⊢
      split at hbefore
      · exact hbefore
      · split at hbefore
        · next hpath => rw [if_pos hpath]
        · next hpath =>
          rw [if_neg hpath]
          exact follow_tooLong_of_keepsKinds h.keepsKinds hbefore
    rw [exists?_eq_tooLong_iff.2 hlong] at hexists
    cases hexists

theorem exists_of_read (h : s.read here path = .ok bytes) : s.exists? here path = .ok true := by
  obtain ⟨l, hl, hfile⟩ := read_eq_ok_iff.1 h
  exact exists?_eq_true_iff.2 ⟨l, _, hl, hfile⟩

theorem lookup?_eq_none_of_not_exists (h : s.exists? here path = .ok false)
    (hl : s.resolve here path = .ok l) : s.lookup? l = none := by
  rw [Option.eq_none_iff_forall_ne_some]
  intro e he
  rw [exists?_eq_true_iff.2 ⟨l, e, hl, he⟩] at h
  cases h

/-- Writing where nothing was leaves everything that was there as it was. -/
theorem extends_of_write (hnew : s.exists? here path = .ok false)
    (h : s.write here path bytes = .ok s') : Extends s s' := by
  obtain ⟨l, hl, -, rfl⟩ := write_eq_ok_iff.1 h
  exact extends_put (lookup?_eq_none_of_not_exists hnew hl)

/-- Whether writing is possible does not depend on what is written. -/
theorem write_ne_ok_congr (h : ∀ s', s.write here path bytes ≠ .ok s') (bytes' : List UInt8) :
    ∀ s', s.write here path bytes' ≠ .ok s' := by
  intro s' hs'
  obtain ⟨l, hl, hne, -⟩ := write_eq_ok_iff.1 hs'
  exact h _ (write_eq_ok_iff.2 ⟨l, hl, hne, rfl⟩)

end Store

end Groundplan

import Groundplan.Proofs.Files.Path

/-!
# When operations on files fail

**Directories.** What is there is a directory or can be read
(`exists?_eq_true_iff_isDirectory_or_read`), and a directory that has been made is there
(`isDirectory_of_ensureDirectories`).

**Refusals.** A path with a null character, or one that cannot be encoded, is not passed on, and
nothing else fails so (`resolve_eq_refusal_iff`). Making the directories of a path fails so exactly
if the path itself is refused: the paths above it have no other characters
(`ensureDirectories_eq_refusal_iff`).

**Long names.** In a directory, a name that is too long cannot be asked about
(`exists?_child_tooLong`). Where one name is too long, so is every longer one
(`exists?_sibling_tooLong`).
-/

namespace Groundplan

namespace Store

variable {s : Store} {here l : Location} {p : Path}

/-! ## Directories -/

theorem isDirectory_eq_true_iff : s.isDirectory here p = .ok true ↔
    ∃ l, s.find here p = .ok (l, .directory) := by
  unfold isDirectory isEntry
  cases s.find here p with
  | error fault => cases fault <;> simp
  | ok p =>
    obtain ⟨l, e⟩ := p
    cases e <;> simp [Entry.isDirectory]

theorem read_of_isDirectory (h : s.isDirectory here p = .ok true) :
    s.read here p = .error .isDirectory := by
  obtain ⟨l, hl⟩ := isDirectory_eq_true_iff.1 h
  rw [read, hl]
  rfl

/-- What is there is a directory or can be read. -/
theorem exists?_eq_true_iff_isDirectory_or_read : s.exists? here p = .ok true ↔
    s.isDirectory here p = .ok true ∨ ∃ bytes, s.read here p = .ok bytes := by
  simp only [exists?_eq_true_iff, isDirectory_eq_true_iff, read_eq_ok_iff, find_eq_ok_iff]
  constructor
  · intro h
    obtain ⟨l, e, hl, he⟩ := h
    cases e with
    | directory => exact .inl ⟨l, hl, he⟩
    | file bytes => exact .inr ⟨bytes, l, hl, he⟩
  · intro h
    rcases h with ⟨l, hl, he⟩ | ⟨bytes, l, hl, he⟩
    · exact ⟨l, _, hl, he⟩
    · exact ⟨l, _, hl, he⟩

theorem isDirectory_of_ensureDirectory {s' : Store} (h : s.ensureDirectory here p = .ok s') :
    s'.isDirectory here p = .ok true := by
  unfold ensureDirectory at h
  split at h
  · next hmade =>
    obtain rfl := Except.ok.inj h
    obtain ⟨l, hl, hnew, rfl⟩ := makeDirectory_eq_ok_iff.1 hmade
    have hroot : l ≠ [] := ne_root_of_lookup?_ne (by rw [hnew]; simp)
    refine isDirectory_eq_true_iff.2 ⟨l, find_eq_ok_iff.2 ⟨?_, ?_⟩⟩
    · exact resolve_of_keepsKinds (extends_put hnew).keepsKinds hl
    · rw [lookup?_put hroot, if_pos rfl]
  · cases h
  · split at h
    · cases h
    · cases hdirectory : s.isDirectory here p with
      | error fault => simp [hdirectory, bind, Except.bind] at h
      | ok b =>
        cases b with
        | false => simp [hdirectory, bind, Except.bind, throw, throwThe, MonadExceptOf.throw] at h
        | true =>
          simp only [hdirectory, bind, Except.bind, if_true, pure, Except.pure,
            Except.ok.injEq] at h
          rw [← h]
          exact hdirectory

theorem isDirectory_of_ensureNames {start : Text} {reversed : List Text}
    (h : (s.ensureNames here start reversed).1 = .ok ()) :
    (s.ensureNames here start reversed).2.isDirectory here ⟨start, reversed.reverse⟩ =
      .ok true := by
  have hsettle : ∀ (s : Store) (p : Path),
      (ensureNames.settle s (s.ensureDirectory here p)).1 = .ok () →
        (ensureNames.settle s (s.ensureDirectory here p)).2.isDirectory here p = .ok true := by
    intro s p
    cases hmade : s.ensureDirectory here p with
    | error fault => simp [ensureNames.settle]
    | ok s' => exact fun _ => isDirectory_of_ensureDirectory hmade
  cases reversed with
  | nil => exact hsettle s ⟨start, []⟩ h
  | cons name above =>
    rw [ensureNames] at h ⊢
    split at h
    · split at h
      · cases h
      · exact hsettle _ _ h
    · next hmissing => exact hsettle _ _ h

/-- A directory that has been made is there. -/
theorem isDirectory_of_ensureDirectories (h : (s.ensureDirectories here p).1 = .ok ()) :
    (s.ensureDirectories here p).2.isDirectory here p = .ok true := by
  have hnames := isDirectory_of_ensureNames h
  rw [List.reverse_reverse] at hnames
  exact hnames

/-! ## Refusals -/

variable {fault : FileFault}

theorem isRefusal_of_refusal? {t : Text} (h : refusal? t = some fault) :
    fault.isRefusal = true := by
  unfold refusal? at h
  split at h
  · cases h
    rfl
  · split at h
    · cases h
      rfl
    · cases h

theorem not_isRefusal_of_follow {names : List Text} (h : s.follow l names = .error fault) :
    fault.isRefusal = false := by
  induction names generalizing l with
  | nil => cases h
  | cons name names ih =>
    rw [follow] at h
    split at h
    · cases h
      rfl
    · cases h
      rfl
    · split at h
      · exact ih h
      · split at h
        · cases h
          rfl
        · exact ih h

theorem resolve_eq_refusal_iff (hrefusal : fault.isRefusal = true) (s : Store) (here : Location) :
    s.resolve here p = .error fault ↔ refusal? p.toText = some fault := by
  unfold resolve
  split
  · next hfault => simp [hfault]
  · next hnone =>
    rw [hnone]
    refine iff_of_false (fun h => ?_) (by simp)
    split at h
    · cases h
      cases hrefusal
    · rw [not_isRefusal_of_follow h] at hrefusal
      cases hrefusal

theorem makeDirectory_eq_refusal_iff (hrefusal : fault.isRefusal = true) (s : Store)
    (here : Location) :
    s.makeDirectory here p = .error fault ↔ refusal? p.toText = some fault := by
  rw [← resolve_eq_refusal_iff hrefusal s here, makeDirectory]
  cases s.resolve here p with
  | error other => simp [bind, Except.bind]
  | ok l =>
    refine iff_of_false (fun h => ?_) (by simp)
    cases he : s.lookup? l with
    | none => simp [bind, Except.bind, he, pure, Except.pure] at h
    | some e =>
      simp only [bind, Except.bind, he, throw, throwThe, MonadExceptOf.throw,
        Except.error.injEq] at h
      subst h
      cases hrefusal

/-- The question whether something is a directory fails only for long paths. -/
theorem eq_nameTooLong_of_isDirectory (h : s.isDirectory here p = .error fault) :
    fault = .nameTooLong := by
  unfold isDirectory isEntry at h
  split at h
  · cases h
  · cases h
    rfl
  · cases h

theorem ensureDirectory_eq_refusal_iff (hrefusal : fault.isRefusal = true) (s : Store)
    (here : Location) :
    s.ensureDirectory here p = .error fault ↔ refusal? p.toText = some fault := by
  rw [← makeDirectory_eq_refusal_iff hrefusal s here, ensureDirectory]
  cases hmake : s.makeDirectory here p with
  | ok s' => simp
  | error other =>
    cases hother : other.isRefusal with
    | true =>
      cases other with
      | nullCharacter => exact Iff.rfl
      | unencodable e => exact Iff.rfl
      | _ => cases hother
    | false =>
      have hne : other ≠ fault := by
        rintro rfl
        rw [hrefusal] at hother
        cases hother
      refine iff_of_false (fun h => ?_) (by simpa using hne)
      split at h
      · next heq => cases heq
      · next heq => exact hne ((Except.error.inj heq).trans (Except.error.inj h))
      · next heq =>
        cases heq
        rw [hother, if_neg Bool.false_ne_true] at h
        cases hdirectory : s.isDirectory here p with
        | error long =>
          rw [hdirectory, eq_nameTooLong_of_isDirectory hdirectory] at h
          cases Except.error.inj h
          cases hrefusal
        | ok b =>
          rw [hdirectory] at h
          cases b with
          | true => cases h
          | false => exact hne (Except.error.inj h)

theorem ensureNames_eq_refusal_iff (hrefusal : fault.isRefusal = true) (s : Store)
    (here : Location) (start : Text) (reversed : List Text) :
    (s.ensureNames here start reversed).1 = .error fault ↔
      refusal? (⟨start, reversed.reverse⟩ : Path).toText = some fault := by
  have hsettle : ∀ (s : Store) (p : Path),
      (ensureNames.settle s (s.ensureDirectory here p)).1 = .error fault ↔
        refusal? p.toText = some fault := by
    intro s p
    rw [← ensureDirectory_eq_refusal_iff hrefusal s here]
    cases s.ensureDirectory here p <;> simp [ensureNames.settle]
  induction reversed with
  | nil => exact hsettle s ⟨start, []⟩
  | cons name above ih =>
    rw [ensureNames]
    split
    · next hmissing =>
      -- The path can be passed on then, and so can the one above it.
      have hpassed : refusal? (⟨start, (name :: above).reverse⟩ : Path).toText = none := by
        rw [Option.eq_none_iff_forall_ne_some]
        intro other hother
        have hfault := (ensureDirectory_eq_refusal_iff (isRefusal_of_refusal? hother) s here).2
          hother
        rw [hmissing] at hfault
        cases hfault
        cases isRefusal_of_refusal? hother
      have habove : refusal? (⟨start, above.reverse⟩ : Path).toText = none := by
        rw [List.reverse_cons] at hpassed
        exact (refusal?_toText_child (p := ⟨start, above.reverse⟩).1 hpassed).1
      split
      · next other s' heq =>
        rw [heq, habove] at ih
        rw [hpassed]
        exact ih
      · exact hsettle _ _
    · exact hsettle _ _

/-- **Only the path itself can be one that is not passed on** when its directories are made. -/
theorem ensureDirectories_eq_refusal_iff (hrefusal : fault.isRefusal = true) (s : Store)
    (here : Location) (p : Path) :
    (s.ensureDirectories here p).1 = .error fault ↔ refusal? p.toText = some fault := by
  rw [ensureDirectories, ensureNames_eq_refusal_iff hrefusal, List.reverse_reverse]

/-! ## Long names -/

variable {name other : Text}

theorem follow_singleton_tooLong_iff (hname : name ≠ (['.', '.'] : Text)) :
    s.follow l [name] = .error .nameTooLong ↔
      s.lookup? l = some .directory ∧ longestName < (FileName.ofText name).bytes.length := by
  rw [follow]
  cases s.lookup? l with
  | none => simp
  | some e =>
    cases e with
    | file bytes => simp
    | directory =>
      have hup : (name == (['.', '.'] : Text)) = false := beq_false_of_ne hname
      simp only [hup, if_neg Bool.false_ne_true, true_and]
      split
      · next hlong => simp [hlong]
      · next hlong => simp [follow, hlong]

/-- What is too long with one name is too long with a longer one. -/
theorem resolve_sibling_tooLong (h : s.resolve here (p.child other) = .error .nameTooLong)
    (hname : name ≠ (['.', '.'] : Text)) (hother : other ≠ (['.', '.'] : Text))
    (hpassed : refusal? other = none → refusal? name = none)
    (hlength : (FileName.ofText other).bytes.length ≤ (FileName.ofText name).bytes.length) :
    s.resolve here (p.child name) = .error .nameTooLong := by
  obtain ⟨start, htext⟩ := p.exists_toText_child
  have hnames : ∀ name, (p.child name).names = p.names ++ [name] := fun _ => rfl
  have hstart : ∀ name, (p.child name).isAbsolute = p.isAbsolute := fun _ => rfl
  unfold resolve at h ⊢
  split at h
  · next hfault =>
    cases h
    cases isRefusal_of_refusal? hfault
  · next hnone =>
    rw [refusal?_toText_child] at hnone
    simp only [refusal?_toText_child.2 ⟨hnone.1, hpassed hnone.2⟩]
    simp only [htext, hnames, hstart, FileName.bytes_ofText_append, List.length_append,
      follow_append] at h ⊢
    split at h
    · next hlong => rw [if_pos (by omega)]
    · split
      · rfl
      · cases hk : s.follow (if p.isAbsolute then [] else here) p.names with
        | error fault =>
          rw [hk] at h
          exact h
        | ok k =>
          rw [hk] at h
          change s.follow k [other] = _ at h
          obtain ⟨hdirectory, hlong⟩ := (follow_singleton_tooLong_iff hother).1 h
          exact (follow_singleton_tooLong_iff hname).2 ⟨hdirectory, by omega⟩

/-- In a directory, a long name cannot be asked about. -/
theorem exists?_child_tooLong (h : s.isDirectory here p = .ok true)
    (hname : name ≠ (['.', '.'] : Text)) (hpassed : refusal? name = none)
    (hlong : longestName < (FileName.ofText name).bytes.length) :
    s.exists? here (p.child name) = .error .nameTooLong := by
  obtain ⟨l, hl⟩ := isDirectory_eq_true_iff.1 h
  obtain ⟨hresolve, hdirectory⟩ := find_eq_ok_iff.1 hl
  obtain ⟨⟨hfree, -⟩, hfollow⟩ := resolve_eq_ok_iff.1 hresolve
  have hnames : (p.child name).names = p.names ++ [name] := rfl
  have hstart : (p.child name).isAbsolute = p.isAbsolute := rfl
  rw [exists?_eq_tooLong_iff, resolve]
  simp only [refusal?_toText_child.2 ⟨hfree, hpassed⟩]
  split
  · rfl
  · rw [hnames, hstart, follow_append, hfollow]
    exact (follow_singleton_tooLong_iff hname).2 ⟨hdirectory, hlong⟩

theorem exists?_sibling_tooLong (h : s.exists? here (p.child other) = .error .nameTooLong)
    (hname : name ≠ (['.', '.'] : Text)) (hother : other ≠ (['.', '.'] : Text))
    (hpassed : refusal? other = none → refusal? name = none)
    (hlength : (FileName.ofText other).bytes.length ≤ (FileName.ofText name).bytes.length) :
    s.exists? here (p.child name) = .error .nameTooLong := by
  rw [exists?_eq_tooLong_iff] at h ⊢
  exact resolve_sibling_tooLong h hname hother hpassed hlength

end Store

end Groundplan

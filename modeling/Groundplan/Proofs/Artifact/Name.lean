import Mathlib.Data.List.Nodup
import Mathlib.Data.List.Perm.Subperm
import Mathlib.Tactic.Choose
import Groundplan.Artifact.Name
import Groundplan.Proofs.Files.Path
import Groundplan.Proofs.Workspace.Session

/-!
# A free name is found

**Names.** The image and the diagram with a stamp lie in one directory, whatever the prefix says
(`exists_child_paths`), and their last names tell the stamp and the suffix (`imageName_inj`,
`imageName_ne_diagramName`).

**Stamps.** A stamp is taken when one of its two files is there. Each taken stamp uses up an entry
of its own, so there are no more taken stamps than entries (`length_le_of_taken`), and the search
ends at the first stamp that is free (`answer_uniqueName`).
-/

namespace Groundplan

theorem Text.ofNat_injective {m n : Nat} (h : Text.ofNat m = Text.ofNat n) : m = n := by
  have hvalue : ∀ n, Nat.ofDigitChars 10 (Nat.toDigits 10 n) 0 = n :=
    fun n => Nat.ofDigitChars_toDigits (by omega) (by omega)
  rw [← hvalue m, Text.ofChars_injective h, hvalue]

namespace Artifact

open Session

variable {start base : Text} {m n stamp : Nat}

/-! ## Names -/

theorem stamped_inj : stamped start m = stamped start n ↔ m = n :=
  ⟨fun h => Text.ofNat_injective (List.append_cancel_left h), fun h => h ▸ rfl⟩

theorem imageName_inj : imageName start m = imageName start n ↔ m = n :=
  (List.append_left_inj _).trans stamped_inj

theorem diagramName_inj : diagramName start m = diagramName start n ↔ m = n :=
  (List.append_left_inj _).trans stamped_inj

theorem imageName_ne_diagramName (start start' : Text) (m n : Nat) :
    imageName start m ≠ diagramName start' n := by
  intro h
  have hlast := congrArg List.getLast? h
  rw [imageName, diagramName, List.getLast?_append, List.getLast?_append] at hlast
  have hsuffix : some ('g' : CodePoint) = some ('d' : CodePoint) := hlast
  exact absurd hsuffix (by decide)

theorem imageName_eq_append (start : Text) (stamp : Nat) :
    imageName start stamp = start ++ imageName [] stamp := by
  simp only [imageName, stamped, List.append_assoc, List.nil_append]

theorem diagramName_eq_append (start : Text) (stamp : Nat) :
    diagramName start stamp = start ++ diagramName [] stamp := by
  simp only [diagramName, stamped, List.append_assoc, List.nil_append]

theorem slash_notMem_stamped (stamp : Nat) : ↑ '/' ∉ stamped [] stamp := by
  intro h
  rw [stamped, List.nil_append, List.mem_append] at h
  rcases h with h | h
  · exact absurd h (by decide)
  · have hdigit := Nat.isDigit_of_mem_toDigits (by omega) (by omega) (Text.mem_ofChars.1 h)
    exact absurd hdigit (by decide)

theorem slash_notMem_imageName (stamp : Nat) : ↑ '/' ∉ imageName [] stamp :=
  fun h => (List.mem_append.1 h).elim (slash_notMem_stamped stamp) (by decide)

theorem slash_notMem_diagramName (stamp : Nat) : ↑ '/' ∉ diagramName [] stamp :=
  fun h => (List.mem_append.1 h).elim (slash_notMem_stamped stamp) (by decide)

theorem encodable_stamped (stamp : Nat) : Utf8.Encodable (stamped [] stamp) := by
  rw [stamped, Utf8.encodable_append]
  exact ⟨by decide, Utf8.encodable_ofChars _⟩

theorem encodable_imageName (stamp : Nat) : Utf8.Encodable (imageName [] stamp) :=
  Utf8.encodable_append.2 ⟨encodable_stamped stamp, by decide⟩

theorem encodable_diagramName (stamp : Nat) : Utf8.Encodable (diagramName [] stamp) :=
  Utf8.encodable_append.2 ⟨encodable_stamped stamp, by decide⟩

/-! Names in a directory tell the stamp and the suffix as well. -/

theorem ofText_imageName_inj :
    FileName.ofText (imageName start m) = .ofText (imageName start n) ↔ m = n := by
  rw [imageName_eq_append, imageName_eq_append start n,
    FileName.ofText_append_inj (encodable_imageName m) (encodable_imageName n), imageName_inj]

theorem ofText_diagramName_inj :
    FileName.ofText (diagramName start m) = .ofText (diagramName start n) ↔ m = n := by
  rw [diagramName_eq_append, diagramName_eq_append start n,
    FileName.ofText_append_inj (encodable_diagramName m) (encodable_diagramName n),
    diagramName_inj]

theorem ofText_imageName_ne_diagramName (start : Text) (m n : Nat) :
    FileName.ofText (imageName start m) ≠ .ofText (diagramName start n) := by
  rw [imageName_eq_append, diagramName_eq_append, ne_eq,
    FileName.ofText_append_inj (encodable_imageName m) (encodable_diagramName n)]
  exact imageName_ne_diagramName [] [] m n

/-- Only names of one and two characters lead nowhere or upwards. -/
theorem isName_of_length {t : Text} (h : 2 < t.length) :
    Path.isName t = true ∧ t ≠ (['.', '.'] : Text) := by
  have hempty : t.isEmpty = false := List.isEmpty_eq_false_iff.2 (by rintro rfl; simp at h)
  have hdot : (t != (['.'] : Text)) = true := bne_iff_ne.2 (by rintro rfl; simp at h)
  refine ⟨by rw [Path.isName, hempty, hdot]; rfl, ?_⟩
  rintro rfl
  simp at h

theorem two_lt_length_imageName (start : Text) (stamp : Nat) :
    2 < (imageName start stamp).length := by
  have hsuffix : imageSuffix.length = 4 := rfl
  rw [imageName, List.length_append]
  omega

theorem two_lt_length_diagramName (start : Text) (stamp : Nat) :
    2 < (diagramName start stamp).length := by
  have hsuffix : diagramSuffix.length = 4 := rfl
  rw [diagramName, List.length_append]
  omega

/-! ## Paths -/

/-- The path of the image with a stamp. -/
def imagePath (directory : Path) (start : Text) (stamp : Nat) : Path :=
  directory ++ Path.ofText (imageName start stamp)

/-- The path of the diagram with a stamp. -/
def diagramPath (directory : Path) (start : Text) (stamp : Nat) : Path :=
  directory ++ Path.ofText (diagramName start stamp)

/-- The files of an artifact lie in one directory, and their last names end with the stamp. -/
theorem exists_child_paths (directory : Path) (start : Text) :
    ∃ (above : Path) (base : Text), ∀ stamp,
      imagePath directory start stamp = above.child (imageName base stamp) ∧
        diagramPath directory start stamp = above.child (diagramName base stamp) := by
  obtain ⟨above, base, h⟩ := Path.exists_ofText_append start
  refine ⟨directory ++ above, base, fun stamp => ⟨?_, ?_⟩⟩
  · have hname := (isName_of_length (two_lt_length_imageName base stamp)).1
    rw [imageName_eq_append] at hname ⊢
    rw [imagePath, imageName_eq_append, h _ (slash_notMem_imageName stamp) hname,
      Path.append_child]
  · have hname := (isName_of_length (two_lt_length_diagramName base stamp)).1
    rw [diagramName_eq_append] at hname ⊢
    rw [diagramPath, diagramName_eq_append, h _ (slash_notMem_diagramName stamp) hname,
      Path.append_child]

theorem stem_imageName (base : Text) (stamp : Nat) :
    Path.stem (imageName base stamp) = stamped base stamp := by
  have hne : stamped base stamp ≠ [] := by simp [stamped, Text.ofString, Text.ofChars]
  have hreverse : (imageName base stamp).reverse =
      (['g', 'n', 'p', '.'] : Text) ++ (stamped base stamp).reverse := by
    rw [imageName, List.reverse_append]
    rfl
  simp [Path.stem, hreverse, hne]

/-- The diagram of an image lies beside it. -/
theorem withSuffix?_imagePath (directory : Path) (start : Text) (stamp : Nat) :
    (imagePath directory start stamp).withSuffix? diagramSuffix =
      some (diagramPath directory start stamp) := by
  obtain ⟨above, base, h⟩ := exists_child_paths directory start
  have hne : (above.child (imageName base stamp)).names.isEmpty = false := by simp [Path.child]
  rw [(h stamp).1, (h stamp).2, Path.withSuffix?, hne, if_neg Bool.false_ne_true, Path.name_child,
    stem_imageName]
  simp [Path.child, diagramName]

/-! ## Free and taken stamps -/

variable {s : Store} {here : Location} {directory : Path} {w : Workspace}

/-- Neither file with the stamp is there. -/
def Free (s : Store) (here : Location) (directory : Path) (start : Text) (stamp : Nat) : Prop :=
  s.exists? here (imagePath directory start stamp) = .ok false ∧
    s.exists? here (diagramPath directory start stamp) = .ok false

/-- A file with the stamp is there. -/
def Taken (s : Store) (here : Location) (directory : Path) (start : Text) (stamp : Nat) : Prop :=
  s.exists? here (imagePath directory start stamp) = .ok true ∨
    s.exists? here (diagramPath directory start stamp) = .ok true

/-- A taken stamp uses up an entry with its name. -/
theorem Taken.exists_key {above : Path}
    (hpaths : ∀ stamp, imagePath directory start stamp = above.child (imageName base stamp) ∧
      diagramPath directory start stamp = above.child (diagramName base stamp))
    (h : Taken s here directory start stamp) :
    ∃ key ∈ s.entries.keys, key.getLast? = some (.ofText (imageName base stamp)) ∨
      key.getLast? = some (.ofText (diagramName base stamp)) := by
  have hentry : ∀ name : Text, 2 < name.length → s.exists? here (above.child name) = .ok true →
      ∃ key ∈ s.entries.keys, key.getLast? = some (.ofText name) := by
    intro name hlength hexists
    obtain ⟨l, e, hl, he⟩ := Store.exists?_eq_true_iff.1 hexists
    obtain ⟨-, -, k, -, -, rfl⟩ := (Store.resolve_child_iff (isName_of_length hlength).2).1 hl
    refine ⟨k ++ [.ofText name], OrderedMap.mem_keys_iff.2 ⟨e, ?_⟩, by simp⟩
    simpa [Store.lookup?] using he
  rw [Taken, (hpaths stamp).1, (hpaths stamp).2] at h
  rcases h with h | h
  · obtain ⟨key, hkey, hlast⟩ := hentry _ (two_lt_length_imageName base stamp) h
    exact ⟨key, hkey, .inl hlast⟩
  · obtain ⟨key, hkey, hlast⟩ := hentry _ (two_lt_length_diagramName base stamp) h
    exact ⟨key, hkey, .inr hlast⟩

/-- Stamps whose images or diagrams are among some names use up a name each. -/
theorem length_le_of_mem {names : List FileName} {tries : Nat}
    (h : ∀ m, stamp ≤ m → m < stamp + tries →
      .ofText (imageName base m) ∈ names ∨ .ofText (diagramName base m) ∈ names) :
    tries ≤ names.length := by
  have hnames : ∀ m ∈ List.range' stamp tries, ∃ name ∈ names,
      name = .ofText (imageName base m) ∨ name = .ofText (diagramName base m) := by
    intro m hm
    obtain ⟨hlow, hhigh⟩ := List.mem_range'_1.1 hm
    rcases h m hlow hhigh with hmem | hmem
    · exact ⟨_, hmem, .inl rfl⟩
    · exact ⟨_, hmem, .inr rfl⟩
  choose! name hmem hname using hnames
  have hdistinct : ∀ m ∈ List.range' stamp tries, ∀ n ∈ List.range' stamp tries,
      name m = name n → m = n := by
    intro m hm n hn heq
    rcases hname m hm with hm | hm
    · rcases hname n hn with hn | hn
      · exact ofText_imageName_inj.1 (hm.symm.trans (heq.trans hn))
      · exact absurd (hm.symm.trans (heq.trans hn)) (ofText_imageName_ne_diagramName base m n)
    · rcases hname n hn with hn | hn
      · exact absurd (hn.symm.trans (heq.symm.trans hm))
          (ofText_imageName_ne_diagramName base n m)
      · exact ofText_diagramName_inj.1 (hm.symm.trans (heq.trans hn))
  have hrange : (List.range' stamp tries).Nodup := List.nodup_range' ..
  have hnodup : ((List.range' stamp tries).map name).Nodup := hrange.map_on hdistinct
  have hsubset : (List.range' stamp tries).map name ⊆ names := by
    intro k hk
    obtain ⟨m, hm, rfl⟩ := List.mem_map.1 hk
    exact hmem m hm
  calc
    tries = ((List.range' stamp tries).map name).length := by simp
    _ ≤ names.length := (hnodup.subperm hsubset).length_le

/-- **There are no more taken stamps than entries.** -/
theorem length_le_of_taken {tries : Nat}
    (h : ∀ m, stamp ≤ m → m < stamp + tries → Taken s here directory start m) :
    tries ≤ s.entries.keys.length := by
  obtain ⟨above, base, hpaths⟩ := exists_child_paths directory start
  have hnames : ∀ m, stamp ≤ m → m < stamp + tries →
      .ofText (imageName base m) ∈ s.entries.keys.filterMap List.getLast? ∨
        .ofText (diagramName base m) ∈ s.entries.keys.filterMap List.getLast? := by
    intro m hlow hhigh
    obtain ⟨key, hkey, hlast⟩ := (h m hlow hhigh).exists_key hpaths
    simp only [List.mem_filterMap]
    exact hlast.imp (fun hlast => ⟨key, hkey, hlast⟩) fun hlast => ⟨key, hkey, hlast⟩
  exact Nat.le_trans (length_le_of_mem hnames) (List.length_filterMap_le ..)

/-! ## The search -/

theorem isFree_eq (directory : Path) (start : Text) (stamp : Nat) :
    isFree directory start stamp =
      ask (imagePath directory start stamp) Store.exists? >>= fun image =>
        if image then pure false
        else ask (diagramPath directory start stamp) Store.exists? >>= fun diagram =>
          pure !diagram := rfl

theorem after_isFree (directory : Path) (start : Text) (stamp : Nat) (w : Workspace) :
    (isFree directory start stamp).after w = w := by
  rw [isFree_eq, after_bind, after_ask]
  cases (ask (imagePath directory start stamp) Store.exists?).answer w with
  | error e => rfl
  | ok image =>
    cases image with
    | true => rfl
    | false =>
      show (ask (diagramPath directory start stamp) Store.exists? >>= _).after w = w
      rw [after_bind, after_ask]
      cases (ask (diagramPath directory start stamp) Store.exists?).answer w with
      | error e => rfl
      | ok diagram => rfl

/-- The question whether a stamp is free is answered by its two files. -/
theorem answer_isFree {b : Bool} (h : (isFree directory start stamp).answer w = .ok b) :
    if b then Free w.store w.here directory start stamp
    else Taken w.store w.here directory start stamp := by
  rw [isFree_eq, answer_bind, answer_ask, after_ask] at h
  cases himage : w.store.exists? w.here (imagePath directory start stamp) with
  | error f => simp [himage, Except.mapError] at h
  | ok image =>
    rw [himage] at h
    cases image with
    | true =>
      obtain rfl : false = b := Except.ok.inj h
      exact .inl himage
    | false =>
      change (ask (diagramPath directory start stamp) Store.exists? >>= _).answer w = .ok b at h
      rw [answer_bind, answer_ask, after_ask] at h
      cases hdiagram : w.store.exists? w.here (diagramPath directory start stamp) with
      | error f => simp [hdiagram, Except.mapError] at h
      | ok diagram =>
        rw [hdiagram] at h
        obtain rfl : (!diagram) = b := Except.ok.inj h
        cases diagram with
        | true => exact .inr hdiagram
        | false => exact ⟨himage, hdiagram⟩

theorem after_freeStamp (directory : Path) (start : Text) (tries stamp : Nat) (w : Workspace) :
    (freeStamp directory start tries stamp).after w = w := by
  induction tries generalizing stamp with
  | zero => rfl
  | succ tries ih =>
    rw [freeStamp, after_bind, after_isFree]
    cases (isFree directory start stamp).answer w with
    | error e => rfl
    | ok b =>
      cases b with
      | true => rfl
      | false => exact ih (stamp + 1)

/-- The search passes taken stamps over, and ends at a free one unless it runs out of tries. -/
theorem answer_freeStamp {tries : Nat}
    (h : (freeStamp directory start tries stamp).answer w = .ok n) :
    stamp ≤ n ∧ n ≤ stamp + tries ∧
      (∀ m, stamp ≤ m → m < n → Taken w.store w.here directory start m) ∧
      (n < stamp + tries → Free w.store w.here directory start n) := by
  induction tries generalizing stamp with
  | zero =>
    obtain rfl : stamp = n := Except.ok.inj h
    exact ⟨Nat.le_refl _, Nat.le_refl _, fun m hlow hhigh => by omega, fun hlt => by omega⟩
  | succ tries ih =>
    rw [freeStamp, answer_bind, after_isFree] at h
    cases hfree : (isFree directory start stamp).answer w with
    | error e => simp [hfree] at h
    | ok b =>
      have hstamp := answer_isFree hfree
      rw [hfree] at h
      cases b with
      | true =>
        obtain rfl : stamp = n := Except.ok.inj h
        exact ⟨Nat.le_refl _, by omega, fun m hlow hhigh => by omega, fun _ => hstamp⟩
      | false =>
        obtain ⟨hlow, hhigh, htaken, hend⟩ := ih h
        refine ⟨by omega, by omega, fun m hm hmn => ?_, fun hlt => hend (by omega)⟩
        by_cases heq : m = stamp
        · rw [heq]
          exact hstamp
        · exact htaken m (by omega) hmn

theorem after_uniqueName (directory : Path) (start : Text) (w : Workspace) :
    (uniqueName directory start).after w = w := by
  rw [uniqueName, after_bind, answer_get]
  dsimp only
  rw [after_map, after_freeStamp, after_get]

/-- **The name of a new image has the first stamp from the clock on that is free.** -/
theorem answer_uniqueName {name : Text} (h : (uniqueName directory start).answer w = .ok name) :
    ∃ stamp, name = imageName start stamp ∧ w.clock ≤ stamp ∧
      Free w.store w.here directory start stamp ∧
      ∀ m, w.clock ≤ m → m < stamp → Taken w.store w.here directory start m := by
  rw [uniqueName, answer_bind, answer_get] at h
  dsimp only at h
  rw [answer_map, after_get] at h
  cases hstamp :
      (freeStamp directory start (w.store.entries.entries.length + 1) w.clock).answer w with
  | error e => simp [hstamp, Except.map] at h
  | ok stamp =>
    rw [hstamp] at h
    obtain rfl : imageName start stamp = name := Except.ok.inj h
    obtain ⟨hlow, -, htaken, hend⟩ := answer_freeStamp hstamp
    refine ⟨stamp, rfl, hlow, hend ?_, htaken⟩
    by_contra hover
    have hall : ∀ m, w.clock ≤ m → m < w.clock + (w.store.entries.entries.length + 1) →
        Taken w.store w.here directory start m := fun m hm hlt => htaken m hm (by omega)
    have htries := length_le_of_taken hall
    rw [OrderedMap.keys, List.length_map] at htries
    omega

end Artifact

end Groundplan

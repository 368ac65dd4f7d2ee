import Groundplan.Proofs.Artifact
import Groundplan.Proofs.Files.Fault

/-!
# When rendering fails

Rendering reports what goes wrong with the strategies and with the diagram, and answers all the same
(`renderAs_cases`). Three steps are less careful.

**The directory.** That it cannot be made is reported too, but not that its path cannot be passed on
to the file system, as one with a null character (`answer_prepare_eq_error_iff`).

**The name.** The search for a free name asks whether files are there, and nothing handles that a
name is too long to be asked about. This is met at the first stamp that is not taken, if at all
(`answer_uniqueName_eq_error_iff`).

**The renderer.** More seconds than a run can be given are a failure that nothing handles
(`answer_renderAs_eq_error_iff`).

**Long prefixes.** So a prefix can be too long: where a directory can be made, no diagram is
rendered with it (`unrendered_of_long_name`).

Main result: `render_fails_iff`.
-/

namespace Groundplan.Artifact

open Session Store Strategy

variable {start base diagram : Text} {directory : Path} {stamp tries : Nat} {f : Failure}
variable {s : Store} {here : Location} {w : Workspace}

/-! ## The directory -/

theorem answer_ensureDirectory (directory : Path) (w : Workspace) :
    (Session.ensureDirectory directory).answer w =
      (w.store.ensureDirectories w.here directory).1.mapError fun fault =>
        .file fault directory := by
  rw [Session.ensureDirectory, answer_bind, answer_get]
  dsimp only
  rw [after_get]
  cases w.store.ensureDirectories w.here directory with
  | mk outcome store => cases outcome <;> rfl

theorem answer_prepare (directory : Path) (w : Workspace) :
    (prepare directory).answer w = match (w.store.ensureDirectories w.here directory).1 with
      | .ok () => .ok true
      | .error fault => if fault.isRefusal then .error (.file fault directory) else .ok false := by
  rw [prepare, answer_recover, answer_bind, answer_ensureDirectory]
  cases (w.store.ensureDirectories w.here directory).1 with
  | ok u => rfl
  | error fault => cases fault <;> rfl

/-- **Only a path that is not passed on keeps the directory from being asked for.** -/
theorem answer_prepare_eq_error_iff : (prepare directory).answer w = .error f ↔
    ∃ fault, refusal? directory.toText = some fault ∧ f = .file fault directory := by
  rw [answer_prepare]
  constructor
  · intro h
    cases hmade : (w.store.ensureDirectories w.here directory).1 with
    | ok u => simp [hmade] at h
    | error fault =>
      cases hrefusal : fault.isRefusal with
      | false => simp [hmade, hrefusal] at h
      | true =>
        rw [hmade] at h
        dsimp only at h
        rw [if_pos hrefusal] at h
        exact ⟨fault, (ensureDirectories_eq_refusal_iff hrefusal w.store w.here directory).1 hmade,
          (Except.error.inj h).symm⟩
  · rintro ⟨fault, hfault, rfl⟩
    have hrefusal := isRefusal_of_refusal? hfault
    rw [(ensureDirectories_eq_refusal_iff hrefusal w.store w.here directory).2 hfault]
    exact if_pos hrefusal

theorem answer_prepare_eq_true_iff : (prepare directory).answer w = .ok true ↔
    (w.store.ensureDirectories w.here directory).1 = .ok () := by
  rw [answer_prepare]
  cases (w.store.ensureDirectories w.here directory).1 with
  | ok u => simp
  | error fault =>
    dsimp only
    split <;> simp

/-! ## The name -/

/-- The image with a stamp has a name or a path that is too long to be asked about. -/
def TooLong (s : Store) (here : Location) (directory : Path) (start : Text) (stamp : Nat) : Prop :=
  s.exists? here (imagePath directory start stamp) = .error .nameTooLong

/-- The two files of an artifact are too long together. -/
theorem exists?_diagramPath_eq_tooLong_iff :
    s.exists? here (diagramPath directory start stamp) = .error .nameTooLong ↔
      TooLong s here directory start stamp := by
  obtain ⟨above, base, hpaths⟩ := exists_child_paths directory start
  have himage := (isName_of_length (two_lt_length_imageName base stamp)).2
  have hdiagram := (isName_of_length (two_lt_length_diagramName base stamp)).2
  have hlength := length_bytes_diagramName base stamp
  have hpassed := refusal?_diagramName base stamp
  rw [TooLong, (hpaths stamp).1, (hpaths stamp).2]
  constructor
  · intro h
    exact exists?_sibling_tooLong h himage hdiagram hpassed.1 (Nat.le_of_eq hlength)
  · intro h
    exact exists?_sibling_tooLong h hdiagram himage hpassed.2 (Nat.le_of_eq hlength.symm)

theorem answer_isFree_of_taken (h : Taken w.store w.here directory start stamp) :
    (isFree directory start stamp).answer w = .ok false := by
  rw [isFree_eq, answer_bind, answer_ask, after_ask]
  rcases exists?_cases w.store w.here (imagePath directory start stamp) with
    himage | himage | himage
  · rw [himage]
    rfl
  · have hdiagram := h.resolve_left (by rw [himage]; simp)
    rw [himage]
    show (ask (diagramPath directory start stamp) Store.exists? >>= _).answer w = _
    rw [answer_bind, answer_ask, hdiagram]
    rfl
  · have hdiagram := h.resolve_left (by rw [himage]; simp)
    rw [exists?_diagramPath_eq_tooLong_iff.2 himage] at hdiagram
    cases hdiagram

theorem answer_isFree_eq_error_iff : (isFree directory start stamp).answer w = .error f ↔
    TooLong w.store w.here directory start stamp ∧
      f = .file .nameTooLong (imagePath directory start stamp) := by
  rw [isFree_eq, answer_bind, answer_ask, after_ask, TooLong]
  rcases exists?_cases w.store w.here (imagePath directory start stamp) with h | h | h
  · rw [h]
    simp [Except.mapError]
  · have hdiagram := exists?_diagramPath_eq_tooLong_iff.not.2 (by rw [TooLong, h]; simp)
    rw [h]
    show (ask (diagramPath directory start stamp) Store.exists? >>= _).answer w = _ ↔ _
    rw [answer_bind, answer_ask, after_ask]
    rcases exists?_cases w.store w.here (diagramPath directory start stamp) with h' | h' | h'
    · rw [h']
      simp [Except.mapError]
    · rw [h']
      simp [Except.mapError]
    · exact absurd h' hdiagram
  · rw [h]
    simp [Except.mapError, eq_comm]

/-- The search from one stamp on passes taken ones over and comes to one that is too long. -/
structure Meets (s : Store) (here : Location) (directory : Path) (start : Text)
    (first stamp : Nat) : Prop where
  le : first ≤ stamp
  taken : ∀ m, first ≤ m → m < stamp → Taken s here directory start m
  tooLong : TooLong s here directory start stamp

variable {first : Nat}

theorem Meets.of_succ (hmeets : Meets s here directory start (first + 1) stamp)
    (hfirst : Taken s here directory start first) : Meets s here directory start first stamp where
  le := by
    have := hmeets.le
    omega
  taken m hlow hhigh := by
    by_cases heq : m = first
    · rw [heq]
      exact hfirst
    · exact hmeets.taken m (by omega) hhigh
  tooLong := hmeets.tooLong

theorem Meets.succ (hmeets : Meets s here directory start first stamp) (hlt : first < stamp) :
    Meets s here directory start (first + 1) stamp where
  le := hlt
  taken m hlow hhigh := hmeets.taken m (by omega) hhigh
  tooLong := hmeets.tooLong

/-- A search with a number of tries fails if it comes to a name that is too long in time. -/
theorem answer_freeStamp_eq_error_iff :
    (freeStamp directory start tries first).answer w = .error f ↔
      ∃ stamp, stamp < first + tries ∧ Meets w.store w.here directory start first stamp ∧
        f = .file .nameTooLong (imagePath directory start stamp) := by
  induction tries generalizing first with
  | zero =>
    refine iff_of_false (by simp [freeStamp]) ?_
    rintro ⟨stamp, hlt, hmeets, -⟩
    have := hmeets.le
    omega
  | succ tries ih =>
    rw [freeStamp, answer_bind, after_isFree]
    constructor
    · intro h
      cases hfree : (isFree directory start first).answer w with
      | error e =>
        rw [hfree] at h
        obtain rfl := Except.error.inj h
        obtain ⟨hlong, rfl⟩ := answer_isFree_eq_error_iff.1 hfree
        exact ⟨first, by omega, ⟨Nat.le_refl _, fun m hlow hhigh => by omega, hlong⟩, rfl⟩
      | ok b =>
        have hfirst := answer_isFree hfree
        rw [hfree] at h
        cases b with
        | true => cases h
        | false =>
          obtain ⟨stamp, hlt, hmeets, rfl⟩ := ih.1 h
          exact ⟨stamp, by omega, hmeets.of_succ hfirst, rfl⟩
    · rintro ⟨stamp, hlt, hmeets, rfl⟩
      by_cases heq : first = stamp
      · subst heq
        rw [answer_isFree_eq_error_iff.2 ⟨hmeets.tooLong, rfl⟩]
      · have hle := hmeets.le
        rw [answer_isFree_of_taken (hmeets.taken first (by omega) (by omega))]
        exact ih.2 ⟨stamp, by omega, hmeets.succ (by omega), rfl⟩

/-- **The search fails at the first stamp that is not taken**, or not at all. Taken stamps do not
use up all tries. -/
theorem answer_uniqueName_eq_error_iff : (uniqueName directory start).answer w = .error f ↔
    ∃ stamp, Meets w.store w.here directory start w.clock stamp ∧
      f = .file .nameTooLong (imagePath directory start stamp) := by
  have hanswer : (uniqueName directory start).answer w =
      ((freeStamp directory start (w.store.entries.entries.length + 1) w.clock).answer w).map
        (imageName start) := by
    rw [uniqueName, answer_bind, answer_get]
    dsimp only
    rw [answer_map, after_get]
  have herror : ∀ r : Except Failure Nat, r.map (imageName start) = .error f ↔ r = .error f := by
    intro r
    cases r <;> simp [Except.map]
  rw [hanswer, herror, answer_freeStamp_eq_error_iff]
  constructor
  · rintro ⟨stamp, -, hmeets, rfl⟩
    exact ⟨stamp, hmeets, rfl⟩
  · rintro ⟨stamp, hmeets, rfl⟩
    refine ⟨stamp, ?_, hmeets, rfl⟩
    have hle := hmeets.le
    have htries : stamp - w.clock ≤ w.store.entries.keys.length :=
      length_le_of_taken fun m (hlow : w.clock ≤ m) hhigh => hmeets.taken m hlow (by omega)
    rw [OrderedMap.keys, List.length_map] at htries
    omega

/-! ## Rendering -/

variable {settings : Settings}

/-- Why rendering fails: the directory's path cannot be passed on; or the directory could be made
and the search for a name comes to one that is too long; or there is a name, and the external
renderer is given too many seconds. -/
inductive Unrendered (settings : Settings) (diagram : Text) (directory : Path) (w : Workspace) :
    Failure → Prop where
  | refused {fault : FileFault} (h : refusal? directory.toText = some fault) :
      Unrendered settings diagram directory w (.file fault directory)
  | nameTooLong {stamp : Nat} (hmade : (w.store.ensureDirectories w.here directory).1 = .ok ())
      (h : Meets (prepared w.store w.here directory) w.here directory settings.artifactPrefix
        w.clock stamp) :
      Unrendered settings diagram directory w
        (.file .nameTooLong (imagePath directory settings.artifactPrefix stamp))
  | overlongTimeout (hmade : (w.store.ensureDirectories w.here directory).1 = .ok ())
      (hname : ∀ stamp, ¬Meets (prepared w.store w.here directory) w.here directory
        settings.artifactPrefix w.clock stamp)
      (huse : settings.useRenderer = true) (h : Overruns settings.rendererTimeout w diagram) :
      Unrendered settings diagram directory w (.overlongTimeout settings.rendererTimeout)

/-- Under a free name, only the external renderer fails. -/
theorem answer_renderAs_eq_error_iff (hfree : Free w.store w.here directory start stamp) :
    (renderAs (ofSettings settings) diagram directory (imageName start stamp)).answer w =
        .error f ↔
      settings.useRenderer = true ∧ Overruns settings.rendererTimeout w diagram ∧
        f = .overlongTimeout settings.rendererTimeout := by
  constructor
  · intro h
    rw [answer] at h
    rcases renderAs_cases (makes_ofSettings settings) hfree diagram with
      ⟨_, _, _, hrun, -⟩ | ⟨_, hrun⟩ | ⟨offer, hmem, e, he, _, hrun⟩
    · simp [hrun] at h
    · simp [hrun] at h
    · rw [hrun] at h
      obtain rfl := Except.error.inj h
      exact exists_offersOf_eq_error_iff.1 ⟨offer, hmem, he⟩
  · rintro ⟨huse, hoverruns, rfl⟩
    have hoffer := (drawn_eq_error_iff directory).2 ⟨hoverruns, rfl⟩
    have hfirst : (first (ofSettings settings) diagram directory
        (directory ++ Path.ofText (imageName start stamp))).run w =
          .error (.overlongTimeout settings.rendererTimeout) w := by
      rw [ofSettings, huse]
      exact run_first_of_error
        (makes_external _) hoffer _ [copy settings.latestArtifact, placeholder]
    rw [answer, renderAs, run_bind, hfirst]

theorem answer_uniqueName_renderAs_eq_error_iff :
    (uniqueName directory start >>= renderAs (ofSettings settings) diagram directory).answer w =
        .error f ↔
      (uniqueName directory start).answer w = .error f ∨
        (∀ e, (uniqueName directory start).answer w ≠ .error e) ∧
          settings.useRenderer = true ∧ Overruns settings.rendererTimeout w diagram ∧
            f = .overlongTimeout settings.rendererTimeout := by
  rw [answer_bind, after_uniqueName]
  cases hname : (uniqueName directory start).answer w with
  | error e => simp
  | ok name =>
    obtain ⟨stamp, rfl, -, hfree, -⟩ := answer_uniqueName hname
    dsimp only
    rw [answer_renderAs_eq_error_iff hfree]
    simp

/-- A path that is not passed on is the only reason then. -/
theorem unrendered_iff_of_refusal {fault : FileFault} (h : refusal? directory.toText = some fault) :
    Unrendered settings diagram directory w f ↔ f = .file fault directory := by
  have hunmade : (w.store.ensureDirectories w.here directory).1 ≠ .ok () := by
    rw [(ensureDirectories_eq_refusal_iff (isRefusal_of_refusal? h) w.store w.here directory).2 h]
    rintro ⟨⟩
  constructor
  · intro hfails
    cases hfails with
    | refused h' => rw [Option.some.inj (h'.symm.trans h)]
    | nameTooLong hmade => exact absurd hmade hunmade
    | overlongTimeout hmade => exact absurd hmade hunmade
  · rintro rfl
    exact .refused h

/-- A directory that cannot be made is no reason. -/
theorem not_unrendered_of_unmade (hpassed : refusal? directory.toText = none)
    (hunmade : (w.store.ensureDirectories w.here directory).1 ≠ .ok ()) :
    ¬Unrendered settings diagram directory w f := by
  intro hfails
  cases hfails with
  | refused h =>
    rw [hpassed] at h
    cases h
  | nameTooLong hmade => exact hunmade hmade
  | overlongTimeout hmade => exact hunmade hmade

/-- In a directory that is made, the reason is the search for a name or the renderer. -/
theorem unrendered_iff_of_made (hpassed : refusal? directory.toText = none)
    (hmade : (w.store.ensureDirectories w.here directory).1 = .ok ()) :
    Unrendered settings diagram directory w f ↔
      (∃ stamp, Meets (prepared w.store w.here directory) w.here directory settings.artifactPrefix
          w.clock stamp ∧
        f = .file .nameTooLong (imagePath directory settings.artifactPrefix stamp)) ∨
      (∀ stamp, ¬Meets (prepared w.store w.here directory) w.here directory
          settings.artifactPrefix w.clock stamp) ∧
        settings.useRenderer = true ∧ Overruns settings.rendererTimeout w diagram ∧
          f = .overlongTimeout settings.rendererTimeout := by
  constructor
  · intro hfails
    cases hfails with
    | refused h =>
      rw [hpassed] at h
      cases h
    | nameTooLong _ hmeets => exact .inl ⟨_, hmeets, rfl⟩
    | overlongTimeout _ hname huse h => exact .inr ⟨hname, huse, h, rfl⟩
  · rintro (⟨stamp, hmeets, rfl⟩ | ⟨hname, huse, h, rfl⟩)
    · exact .nameTooLong hmade hmeets
    · exact .overlongTimeout hmade hname huse h

theorem answer_render_eq_error_iff :
    (render settings diagram directory).answer w = .error f ↔
      Unrendered settings diagram directory w f := by
  obtain ⟨events, hafter⟩ := after_prepare directory w
  rw [render, renderWith_eq, answer_bind, hafter]
  cases hprepare : (prepare directory).answer w with
  | error e =>
    obtain ⟨fault, hfault, rfl⟩ := answer_prepare_eq_error_iff.1 hprepare
    rw [unrendered_iff_of_refusal hfault]
    exact ⟨fun h => (Except.error.inj h).symm, fun h => congrArg Except.error h.symm⟩
  | ok made =>
    have hpassed : refusal? directory.toText = none := by
      rw [Option.eq_none_iff_forall_ne_some]
      intro fault hfault
      rw [answer_prepare_eq_error_iff.2 ⟨fault, hfault, rfl⟩] at hprepare
      cases hprepare
    cases made with
    | false =>
      refine iff_of_false (by simp) (not_unrendered_of_unmade hpassed fun hmade => ?_)
      rw [answer_prepare_eq_true_iff.2 hmade] at hprepare
      cases hprepare
    | true =>
      have hoverruns : Overruns settings.rendererTimeout
          { w with store := prepared w.store w.here directory, events } diagram ↔
          Overruns settings.rendererTimeout w diagram :=
        ⟨fun h => ⟨h.started, h.encodable, h.long⟩, fun h => ⟨h.started, h.encodable, h.long⟩⟩
      dsimp only
      rw [if_pos rfl, answer_uniqueName_renderAs_eq_error_iff, hoverruns,
        unrendered_iff_of_made hpassed (answer_prepare_eq_true_iff.1 hprepare)]
      -- A stamp that is met is a failure of the search, and it has no other.
      simp only [ne_eq, answer_uniqueName_eq_error_iff]
      refine or_congr_right (and_congr_left fun _ => ⟨fun h stamp hmeets => ?_, ?_⟩)
      · exact h _ ⟨stamp, hmeets, rfl⟩
      · rintro h e ⟨stamp, hmeets, -⟩
        exact h stamp hmeets

/-- The directory is all that a failure leaves behind. -/
theorem store_after_render_of_error (h : (render settings diagram directory).answer w = .error f) :
    ((render settings diagram directory).after w).store = prepared w.store w.here directory := by
  rw [answer] at h
  rw [after]
  cases render_cases settings diagram directory w with
  | created stamp bytes store events hrun =>
    rw [hrun] at h
    cases h
  | without events hrun =>
    rw [hrun] at h
    cases h
  | failed e events hrun => rw [hrun]

/-- **When rendering fails.** Rendering a diagram into a directory answers, with the name of a new
image or with none, unless the path of the directory cannot be passed on, or the name that is
searched for comes to one that is too long to be asked about, or an external renderer that could be
started is given too many seconds. Then it fails with just that, and has made no more than the
directory. What is wrong with a path is a value that does not fit or a fault of the file system; too
many seconds are neither. -/
theorem render_fails_iff (s : Settings) (diagram : Text) (directory : Path) (w : Workspace) :
    ((∃ name, (render s diagram directory).answer w = .ok name) ↔
      ∀ f, ¬Unrendered s diagram directory w f) ∧
    ∀ f, ((render s diagram directory).answer w = .error f ↔
        Unrendered s diagram directory w f) ∧
      (Unrendered s diagram directory w f →
        ((f.kind.isValue = true ∨ f.kind = .system) ∨ f = .overlongTimeout s.rendererTimeout) ∧
        ((render s diagram directory).after w).store = prepared w.store w.here directory) := by
  have hfails : ∀ f, (render s diagram directory).answer w = .error f ↔
      Unrendered s diagram directory w f := fun f => answer_render_eq_error_iff
  refine ⟨?_, fun f => ⟨hfails f, fun h => ⟨?_, store_after_render_of_error ((hfails f).2 h)⟩⟩⟩
  · simp only [← hfails]
    cases (render s diagram directory).answer w <;> simp
  · cases h with
    | refused hfault =>
      have hrefusal := isRefusal_of_refusal? hfault
      refine .inl (.inl ?_)
      revert hrefusal
      unfold Failure.kind
      cases ‹FileFault› <;> intro h <;> first | rfl | cases h
    | nameTooLong => exact .inl (.inr rfl)
    | overlongTimeout => exact .inr rfl

theorem render_fails_iff_nullCharacter :
    Unrendered {} "graph TD\n" (Path.ofText ['\x00']) default
        (.file .nullCharacter (Path.ofText ['\x00'])) ∧
      (render {} "graph TD\n" (Path.ofText ['\x00'])).answer default =
        .error (.file .nullCharacter (Path.ofText ['\x00'])) := by
  have hnull : refusal? (Path.ofText ['\x00']).toText = some .nullCharacter := by decide
  obtain ⟨-, hfails⟩ := render_fails_iff {} "graph TD\n" (Path.ofText ['\x00']) default
  exact ⟨.refused hnull, (hfails _).1.2 (.refused hnull)⟩

/-! ## Long prefixes -/

theorem slash_notMem_imageName_of (hslash : ↑ '/' ∉ start) (stamp : Nat) :
    ↑ '/' ∉ imageName start stamp := by
  rw [imageName_eq_append, List.mem_append]
  exact fun h => h.elim hslash (slash_notMem_imageName stamp)

theorem refusal?_imageName (h : refusal? start = none) (stamp : Nat) :
    refusal? (imageName start stamp) = none := by
  have hdigits : '\x00' ∉ Nat.toDigits 10 stamp := by
    intro hnull
    have hdigit := Nat.isDigit_of_mem_toDigits (by omega) (by omega) hnull
    exact absurd hdigit (by decide)
  simp only [imageName, stamped, refusal?_append]
  exact ⟨⟨⟨h, by decide⟩, refusal?_ofChars hdigits⟩, by decide⟩

/-- Without slashes, an image lies directly in the directory. -/
theorem imagePath_of_slash_notMem (hslash : ↑ '/' ∉ start) (directory : Path) (stamp : Nat) :
    imagePath directory start stamp = directory.child (imageName start stamp) := by
  have hname := (isName_of_length (two_lt_length_imageName start stamp)).1
  rw [imagePath, Path.ofText_of_slash_notMem (slash_notMem_imageName_of hslash stamp) hname,
    Path.append_child, Path.append_here]

/-- **A prefix that makes a name too long fails everywhere**, whatever there is to render. -/
theorem unrendered_of_long_name (hslash : ↑ '/' ∉ settings.artifactPrefix)
    (hpassed : refusal? settings.artifactPrefix = none)
    (hlong : longestName <
      (FileName.ofText (imageName settings.artifactPrefix w.clock)).bytes.length)
    (hmade : (w.store.ensureDirectories w.here directory).1 = .ok ()) :
    Unrendered settings diagram directory w
      (.file .nameTooLong (imagePath directory settings.artifactPrefix w.clock)) := by
  refine .nameTooLong hmade ⟨Nat.le_refl _, fun m hlow hhigh => by omega, ?_⟩
  rw [TooLong, imagePath_of_slash_notMem hslash]
  exact exists?_child_tooLong (isDirectory_of_ensureDirectories hmade)
    (isName_of_length (two_lt_length_imageName settings.artifactPrefix w.clock)).2
    (refusal?_imageName hpassed w.clock) hlong

/-- What `longSettings` start the names of images with. -/
def longPrefix : Text := List.replicate 300 ↑ 'a'

/-- Settings that are accepted, with a long prefix. -/
def longSettings : Settings := { ({} : Settings) with artifactPrefix := longPrefix }

/-- Accepted settings for which rendering fails in an empty workspace. -/
theorem render_fails_on_long_prefix :
    ({} : Settings).override [(.text "artifact_prefix", .text longPrefix)] = .ok longSettings ∧
      (render longSettings "graph TD\n" (Path.ofText "out")).answer default =
        .error (.file .nameTooLong (imagePath (Path.ofText "out") longPrefix 0)) ∧
      ¬∃ name, (render longSettings "graph TD\n" (Path.ofText "out")).answer default =
        .ok name := by
  have hslash : ↑ '/' ∉ longPrefix := by decide +kernel
  have hpassed : refusal? longPrefix = none := by decide +kernel
  have hlong : longestName < (FileName.ofText (imageName longPrefix 0)).bytes.length := by
    decide +kernel
  have hmade : (({} : Store).ensureDirectories [] (Path.ofText "out")).1 = .ok () := by
    decide +kernel
  have hfails : (render longSettings "graph TD\n" (Path.ofText "out")).answer default =
      .error (.file .nameTooLong (imagePath (Path.ofText "out") longPrefix 0)) :=
    answer_render_eq_error_iff.2
      (unrendered_of_long_name (w := default) hslash hpassed hlong hmade)
  refine ⟨?_, hfails, ?_⟩
  · have haccepted : (({} : Settings).override
        [(.text "artifact_prefix", .text longPrefix)]).toOption = some longSettings := by
      decide +kernel
    revert haccepted
    cases ({} : Settings).override [(.text "artifact_prefix", .text longPrefix)] with
    | error e =>
      intro h
      cases h
    | ok s =>
      intro h
      exact congrArg Except.ok (Option.some.inj h)
  · rw [hfails]
    simp

end Groundplan.Artifact

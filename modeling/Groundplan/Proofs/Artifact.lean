import Groundplan.Artifact
import Groundplan.Proofs.Artifact.Name
import Groundplan.Proofs.Artifact.Strategy

/-!
# What rendering does to files

**Creation.** An artifact is new: neither of its files was there, everything else is as it was, the
image holds what a strategy has offered, and beside it lies the diagram (`Creates`). Where an image
can be written its diagram can, because the two names are equally long (`exists_write_diagram`).

**Rendering.** Rendering makes the directory and then creates an artifact, or it leaves it at the
directory (`renderWith_cases`). Either way nothing that was there is changed
(`extends_render`). This holds for every clock and for every external renderer.
-/

namespace Groundplan.Artifact

open Session Store Strategy

variable {start diagram : Text} {directory : Path} {stamp : Nat} {bytes : List UInt8}
variable {s s' : Store} {here : Location} {w : Workspace}

/-! ## The diagram beside an image -/

/-- The names of an artifact are equally long. -/
theorem length_bytes_diagramName (start : Text) (stamp : Nat) :
    (FileName.ofText (diagramName start stamp)).bytes.length =
      (FileName.ofText (imageName start stamp)).bytes.length := by
  have hsuffix : (FileName.ofText diagramSuffix).bytes.length =
      (FileName.ofText imageSuffix).bytes.length := by
    decide +kernel
  rw [diagramName, imageName, FileName.bytes_ofText_append, FileName.bytes_ofText_append,
    List.length_append, List.length_append, hsuffix]

/-- The names of an artifact can be passed on together. -/
theorem refusal?_diagramName (start : Text) (stamp : Nat) :
    refusal? (diagramName start stamp) = none ↔ refusal? (imageName start stamp) = none := by
  have hsuffixes : refusal? diagramSuffix = none ∧ refusal? imageSuffix = none := by decide
  rw [diagramName, imageName, refusal?_append, refusal?_append, hsuffixes.1, hsuffixes.2]

/-- Where the image of an artifact can be resolved, so can its diagram, at another location. -/
theorem exists_resolve_diagram {image : Location}
    (h : s.resolve here (imagePath directory start stamp) = .ok image) :
    ∃ source, s.resolve here (diagramPath directory start stamp) = .ok source ∧ source ≠ image := by
  obtain ⟨above, base, hpaths⟩ := exists_child_paths directory start
  obtain ⟨himage, hdiagram⟩ := hpaths stamp
  rw [himage] at h
  obtain ⟨k, rfl, hother⟩ := resolve_sibling h
    (isName_of_length (two_lt_length_imageName base stamp)).2
    (isName_of_length (two_lt_length_diagramName base stamp)).2
    (refusal?_diagramName base stamp).2 (Nat.le_of_eq (length_bytes_diagramName base stamp))
  rw [← hdiagram] at hother
  refine ⟨k ++ [.ofText (diagramName base stamp)], hother, ?_⟩
  intro heq
  exact ofText_imageName_ne_diagramName base stamp stamp
    (List.singleton_inj.1 (List.append_cancel_left heq)).symm

/-- Where an image has been written its diagram can be. -/
theorem exists_write_diagram (hfree : Free s here directory start stamp)
    (hwrite : s.write here (imagePath directory start stamp) bytes = .ok s')
    (bytes' : List UInt8) :
    ∃ s'', s'.write here (diagramPath directory start stamp) bytes' = .ok s'' ∧
      Extends s' s'' := by
  have hkeep := keepsKinds_of_write hwrite
  obtain ⟨image, himage, hne, rfl⟩ := write_eq_ok_iff.1 hwrite
  obtain ⟨source, hsource, hother⟩ := exists_resolve_diagram himage
  -- The two locations differ, so writing the image has not reached the other.
  have hnew : (s.put image (.file bytes)).lookup? source = none := by
    rw [lookup?_put (ne_root_of_lookup?_ne hne), if_neg hother]
    exact lookup?_eq_none_of_not_exists hfree.2 hsource
  exact ⟨_, write_eq_ok_iff.2 ⟨source, resolve_of_keepsKinds hkeep hsource, by simp [hnew], rfl⟩,
    extends_put hnew⟩

/-! ## Creation -/

/-- An artifact with a stamp is new, its image holds the bytes and its diagram what is left when the
text is written, and everything else is as it was. -/
structure Creates (here : Location) (directory : Path) (start diagram : Text) (stamp : Nat)
    (bytes : List UInt8) (s s' : Store) : Prop where
  free : Free s here directory start stamp
  keeps : Extends s s'
  read_image : s'.read here (imagePath directory start stamp) = .ok bytes
  read_diagram : s'.read here (diagramPath directory start stamp) = .ok (Utf8.written diagram)

/-- Saving the diagram completes an artifact. -/
theorem exists_run_saveDiagram (hfree : Free s w.here directory start stamp)
    (hwrite : s.write w.here (imagePath directory start stamp) bytes = .ok w.store)
    (diagram : Text) :
    ∃ store, w.store.write w.here (diagramPath directory start stamp) (Utf8.written diagram) =
        .ok store ∧
      (∃ saved events, (saveDiagram diagram (imagePath directory start stamp)).run w =
        .ok saved { w with store, events }) ∧
      Creates w.here directory start diagram stamp bytes s store := by
  obtain ⟨store, hdiagram, hextends⟩ :=
    exists_write_diagram hfree hwrite (Utf8.written diagram)
  refine ⟨store, hdiagram, ?_, ?_⟩
  · have hrun := run_writeText (diagramPath directory start stamp) diagram w
    rw [hdiagram] at hrun
    unfold saveDiagram
    rw [withSuffix?_imagePath]
    dsimp only
    rw [run_recover, run_bind, hrun]
    -- A text that cannot be encoded is reported, and its file stays.
    cases hencode : Utf8.encode diagram with
    | ok encoded => exact ⟨some (diagramPath directory start stamp), w.events, rfl⟩
    | error e => exact ⟨none, w.events ++ [.cannotSaveSource _ (.unencodable e)], rfl⟩
  · exact {
      free := hfree
      keeps := IsTrans.trans _ _ _ (extends_of_write hfree.1 hwrite) hextends
      read_image := read_of_extends hextends (read_of_write hwrite)
      read_diagram := read_of_write hdiagram }

/-! ## Rendering -/

/-- The files with the directory that artifacts are rendered into. -/
def prepared (s : Store) (here : Location) (directory : Path) : Store :=
  (s.ensureDirectories here directory).2

theorem extends_prepared (s : Store) (here : Location) (directory : Path) :
    Extends s (prepared s here directory) :=
  extends_ensureDirectories s here directory

theorem after_prepare (directory : Path) (w : Workspace) :
    ∃ events, (prepare directory).after w =
      { w with store := prepared w.store w.here directory, events } := by
  have hmake : (ensureDirectory directory >>= fun _ => pure true : Session Bool).after w =
      { w with store := prepared w.store w.here directory } := by
    rw [after_bind, after_ensureDirectory]
    cases (ensureDirectory directory).answer w <;> rfl
  rw [prepare, after_recover, hmake]
  cases (ensureDirectory directory >>= fun _ => pure true : Session Bool).answer w with
  | ok b => exact ⟨w.events, rfl⟩
  | error e =>
    dsimp only
    split
    · exact ⟨w.events ++ [.cannotMakeDirectory directory e], rfl⟩
    · exact ⟨w.events, rfl⟩

/-- How rendering can end: with a new artifact in the directory, without one, or with a failure.
In the last two cases the directory is all that may be new. -/
inductive Renders (offers : List Offer) (start diagram : Text) (directory : Path) (w : Workspace)
    (m : Session (Option Text)) : Prop where
  | created (stamp : Nat) (bytes : List UInt8) (store : Store) (events : List Event)
      (run : m.run w = .ok (some (imageName start stamp)) { w with store, events })
      (offer : firstOffer offers { w with store := prepared w.store w.here directory } diagram
        directory =
        some bytes)
      (creates : Creates w.here directory start diagram stamp bytes
        (prepared w.store w.here directory) store)
  | without (events : List Event)
      (run : m.run w = .ok none { w with store := prepared w.store w.here directory, events })
  | failed (e : Failure) (events : List Event)
      (run : m.run w = .error e { w with store := prepared w.store w.here directory, events })

/-- Rendering into a directory that is there, under a given name. -/
def renderAs (strategies : List Strategy) (diagram : Text) (directory : Path) (name : Text) :
    Session (Option Text) :=
  first strategies diagram directory (directory ++ Path.ofText name) >>= fun b => if b then
    saveDiagram diagram (directory ++ Path.ofText name) >>= fun _ => pure (some name)
  else report (.notRendered (directory ++ Path.ofText name)) >>= fun _ => pure none

theorem renderWith_eq (strategies : List Strategy) (start diagram : Text) (directory : Path) :
    renderWith strategies start diagram directory =
      prepare directory >>= fun b => if b then
        uniqueName directory start >>= renderAs strategies diagram directory
      else pure none := rfl

/-- Where the image has been placed, the diagram is saved beside it. -/
theorem run_renderAs_of_placed {strategies : List Strategy} {image : Option (List UInt8)}
    {written : Store} {events : List Event} (hfree : Free w.store w.here directory start stamp)
    (hplace : place w (imagePath directory start stamp) image = some written)
    (hfirst : (first strategies diagram directory (imagePath directory start stamp)).run w =
      .ok true { w with store := written, events }) :
    ∃ store events', written.write w.here (diagramPath directory start stamp)
        (Utf8.written diagram) = .ok store ∧
      (renderAs strategies diagram directory (imageName start stamp)).run w =
        .ok (some (imageName start stamp)) { w with store, events := events' } := by
  obtain ⟨bytes, -, hwrite⟩ := place_eq_some_iff.1 hplace
  obtain ⟨store, hdiagram, ⟨saved, events', hsave⟩, -⟩ := exists_run_saveDiagram
    (w := { w with store := written, events }) hfree hwrite diagram
  refine ⟨store, events', hdiagram, ?_⟩
  have hrun : (renderAs strategies diagram directory (imageName start stamp)).run w = _ :=
    run_bind (first strategies diagram directory (imagePath directory start stamp)) _ w
  rw [hfirst] at hrun
  have hthen := run_bind (saveDiagram diagram (imagePath directory start stamp))
    (fun _ => pure (some (imageName start stamp))) { w with store := written, events }
  rw [hsave] at hthen
  exact hrun.trans hthen

/-- Under a free name, rendering places what is offered first and saves the diagram, or it leaves
the files as they are, or it fails as a strategy does. -/
theorem run_renderAs {strategies : List Strategy} {offers : List Offer}
    (h : List.Forall₂ Makes strategies offers) (hfree : Free w.store w.here directory start stamp)
    (diagram : Text) :
    (∃ written store events,
      place w (imagePath directory start stamp) (firstOffer offers w diagram directory) =
        some written ∧
      written.write w.here (diagramPath directory start stamp) (Utf8.written diagram) =
        .ok store ∧
      (renderAs strategies diagram directory (imageName start stamp)).run w =
        .ok (some (imageName start stamp)) { w with store, events }) ∨
    (place w (imagePath directory start stamp) (firstOffer offers w diagram directory) = none ∧
      ∃ events, (renderAs strategies diagram directory (imageName start stamp)).run w =
        .ok none { w with events }) ∨
    ∃ offer ∈ offers, ∃ f, offer w diagram directory = .error f ∧
      ∃ events, (renderAs strategies diagram directory (imageName start stamp)).run w =
        .error f { w with events } := by
  have hrun : (renderAs strategies diagram directory (imageName start stamp)).run w = _ :=
    run_bind (first strategies diagram directory (imagePath directory start stamp)) _ w
  rcases first_cases h w diagram directory (imagePath directory start stamp) with
    ⟨events, hfirst⟩ | ⟨offer, hmem, f, hf, events, hfirst⟩
  · rw [hfirst] at hrun
    cases hplace : place w (imagePath directory start stamp)
        (firstOffer offers w diagram directory) with
    | none =>
      rw [hplace] at hrun
      exact .inr (.inl ⟨rfl, _, hrun⟩)
    | some written =>
      rw [hplace] at hfirst
      obtain ⟨store, events', hdiagram, hrenders⟩ := run_renderAs_of_placed hfree hplace hfirst
      exact .inl ⟨written, store, events', rfl, hdiagram, hrenders⟩
  · rw [hfirst] at hrun
    exact .inr (.inr ⟨offer, hmem, f, hf, events, hrun⟩)

/-- Under a free name, rendering creates an artifact or nothing, or it fails as a strategy does. -/
theorem renderAs_cases {strategies : List Strategy} {offers : List Offer}
    (h : List.Forall₂ Makes strategies offers) (hfree : Free w.store w.here directory start stamp)
    (diagram : Text) :
    (∃ bytes store events,
      (renderAs strategies diagram directory (imageName start stamp)).run w =
        .ok (some (imageName start stamp)) { w with store, events } ∧
      firstOffer offers w diagram directory = some bytes ∧
      Creates w.here directory start diagram stamp bytes w.store store) ∨
    (∃ events, (renderAs strategies diagram directory (imageName start stamp)).run w =
      .ok none { w with events }) ∨
    ∃ offer ∈ offers, ∃ f, offer w diagram directory = .error f ∧
      ∃ events, (renderAs strategies diagram directory (imageName start stamp)).run w =
        .error f { w with events } := by
  rcases run_renderAs h hfree diagram with
    ⟨written, store, events, hplace, hdiagram, hrun⟩ | ⟨-, hrun⟩ | hfails
  · obtain ⟨bytes, hoffer, hwrite⟩ := place_eq_some_iff.1 hplace
    obtain ⟨store', hdiagram', -, hcreates⟩ := exists_run_saveDiagram
      (w := { w with store := written }) hfree hwrite diagram
    obtain rfl : store' = store := Except.ok.inj (hdiagram'.symm.trans hdiagram)
    exact .inl ⟨bytes, store', events, hrun, hoffer, hcreates⟩
  · exact .inr (.inl hrun)
  · exact .inr (.inr hfails)

/-- **Rendering makes the directory and creates an artifact, or it makes the directory only.** -/
theorem renderWith_cases {strategies : List Strategy} {offers : List Offer}
    (h : List.Forall₂ Makes strategies offers) (start diagram : Text) (directory : Path)
    (w : Workspace) :
    Renders offers start diagram directory w
      (renderWith strategies start diagram directory) := by
  obtain ⟨events, hprepare⟩ := after_prepare directory w
  have hrun := run_bind (prepare directory) (fun b => if b then
    uniqueName directory start >>= renderAs strategies diagram directory else pure none) w
  rw [← renderWith_eq] at hrun
  cases hanswer : (prepare directory).answer w with
  | error e =>
    rw [run_of_answer_error hanswer, hprepare] at hrun
    exact .failed e events hrun
  | ok b =>
    rw [run_of_answer_ok hanswer, hprepare] at hrun
    cases b with
    | false => exact .without events hrun
    | true =>
      have hname : _ = _ := run_bind (uniqueName directory start)
        (renderAs strategies diagram directory)
          { w with store := prepared w.store w.here directory, events }
      have hrun := hrun.trans hname
      have hafter := after_uniqueName directory start
        { w with store := prepared w.store w.here directory, events }
      cases hunique : (uniqueName directory start).answer
          { w with store := prepared w.store w.here directory, events } with
      | error e =>
        rw [run_of_answer_error hunique, hafter] at hrun
        exact .failed e events hrun
      | ok name =>
        rw [run_of_answer_ok hunique, hafter] at hrun
        obtain ⟨stamp, rfl, -, hfree, -⟩ := answer_uniqueName hunique
        rcases renderAs_cases h hfree diagram with
          ⟨bytes, store, events', has, hoffer, hcreates⟩ | ⟨events', has⟩ |
          ⟨-, -, f, -, events', has⟩
        · rw [firstOffer_events h { w with store := prepared w.store w.here directory }
            events] at hoffer
          exact .created stamp bytes store events' (hrun.trans has) hoffer hcreates
        · exact .without events' (hrun.trans has)
        · exact .failed f events' (hrun.trans has)

/-- An answered name is that of a new artifact. -/
theorem Renders.exists_creates {offers : List Offer} {m : Session (Option Text)} {name : Text}
    (h : Renders offers start diagram directory w m) (hname : m.answer w = .ok (some name)) :
    ∃ stamp bytes, name = imageName start stamp ∧
      firstOffer offers { w with store := prepared w.store w.here directory } diagram directory =
        some bytes ∧
      Creates w.here directory start diagram stamp bytes (prepared w.store w.here directory)
        (m.after w).store := by
  rw [answer] at hname
  cases h with
  | created stamp bytes store events hrun hoffer hcreates =>
    rw [hrun] at hname
    refine ⟨stamp, bytes, (Option.some.inj (Except.ok.inj hname)).symm, hoffer, ?_⟩
    rw [after, hrun]
    exact hcreates
  | without events hrun =>
    rw [hrun] at hname
    cases hname
  | failed e events hrun =>
    rw [hrun] at hname
    cases hname

/-! ## Rendering by settings -/

theorem render_cases (s : Settings) (diagram : Text) (directory : Path) (w : Workspace) :
    Renders (offersOf s) s.artifactPrefix diagram directory w (render s diagram directory) :=
  renderWith_cases (makes_ofSettings s) s.artifactPrefix diagram directory w

/-- Rendering changes nothing that was there. -/
theorem extends_render (s : Settings) (diagram : Text) (directory : Path) :
    Respects Extends (render s diagram directory) := by
  intro w
  unfold after
  cases render_cases s diagram directory w with
  | created stamp bytes store events hrun _ hcreates =>
    rw [hrun]
    exact ⟨rfl, IsTrans.trans _ _ _ (extends_prepared w.store w.here directory) hcreates.keeps⟩
  | without events hrun =>
    rw [hrun]
    exact ⟨rfl, extends_prepared w.store w.here directory⟩
  | failed e events hrun =>
    rw [hrun]
    exact ⟨rfl, extends_prepared w.store w.here directory⟩

/-- **Rendering takes nothing away.** Every directory stays a directory and every file a file. -/
theorem keepsKinds_renderBeside (s : Settings) (diagram : Text) (document : Path) :
    Respects KeepsKinds (renderBeside s diagram document) := by
  intro w
  obtain ⟨hhere, hextends⟩ := extends_render s diagram
    (document.parent ++ Path.ofText s.imagesDir) w
  exact ⟨hhere, hextends.keepsKinds⟩

end Groundplan.Artifact

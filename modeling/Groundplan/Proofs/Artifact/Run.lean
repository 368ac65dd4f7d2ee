import Groundplan.Proofs.Artifact

/-!
# Rendering clobbers nothing

**Runs.** A run is a list of calls that render into one directory, each with its own diagram and
clock (`turns`). The clock may stand still or go back. A call may fail; the run goes on from what
it left.

**Growth.** Each call only adds to the files (`Turn.Adds`). So what one call has found or written is
there for every later call (`pairwise_turns`) and at the end (`extends_finish`). A name that was
returned is taken from then on, and no later call can return it again (`nodup_names`).

Main result: `artifacts_are_kept`.
-/

namespace Groundplan.Artifact

open Session Store Strategy

/-- What a call of a run has done. -/
structure Turn where
  diagram : Text
  before : Store
  after : Store
  /-- The name that the call returned, if it did. -/
  name : Option Text

/-- A call: the diagram, and what the clock shows. -/
structure Call where
  diagram : Text
  clock : Nat
deriving DecidableEq, Repr

namespace Call

/-- The workspace at the time of a call. -/
def enter (c : Call) (w : Workspace) : Workspace := { w with clock := c.clock }

/-- The workspace after a call. -/
def leave (s : Settings) (directory : Path) (w : Workspace) (c : Call) : Workspace :=
  (render s c.diagram directory).after (c.enter w)

/-- What a call does. -/
def turn (s : Settings) (directory : Path) (w : Workspace) (c : Call) : Turn where
  diagram := c.diagram
  before := w.store
  after := (c.leave s directory w).store
  name := ((render s c.diagram directory).answer (c.enter w)).toOption.join

end Call

/-- The calls of a run, one after the other. -/
def turns (s : Settings) (directory : Path) : List Call → Workspace → List Turn
  | [], _ => []
  | c :: cs, w => c.turn s directory w :: turns s directory cs (c.leave s directory w)

/-- The workspace at the end of a run. -/
def finish (s : Settings) (directory : Path) (calls : List Call) (w : Workspace) : Workspace :=
  calls.foldl (Call.leave s directory) w

namespace Turn

/-- What the latest artifact in the directory holds at a turn if it is a file, else one pixel. -/
def latestImage (s : Settings) (here : Location) (directory : Path) (t : Turn) : List UInt8 :=
  (((prepared t.before here directory).read here
    (directory ++ Path.ofText s.latestArtifact)).toOption).getD pixel

/-- The turn has only added to the files; and if it has returned a name, it has created an
artifact with the latest image and its diagram. -/
structure Adds (s : Settings) (here : Location) (directory : Path) (t : Turn) : Prop where
  keeps : Extends t.before t.after
  creates : ∀ name, t.name = some name → ∃ stamp, name = imageName s.artifactPrefix stamp ∧
    Creates here directory s.artifactPrefix t.diagram stamp (t.latestImage s here directory)
      (prepared t.before here directory) t.after

end Turn

variable {s : Settings} {directory : Path} {calls : List Call} {w : Workspace} {t : Turn}
variable {here : Location} {name : Text}

/-! ## One call -/

/-- Without the external renderer the image is the latest one, or one pixel. -/
theorem firstOffer_offersOf (h : s.useRenderer = false) (w : Workspace) (diagram : Text)
    (directory : Path) :
    firstOffer (offersOf s) w diagram directory =
      some ((w.store.read w.here (directory ++ Path.ofText s.latestArtifact)).toOption.getD
        pixel) := by
  rw [offersOf, h, if_neg Bool.false_ne_true, List.nil_append, firstOffer, List.findSome?_cons,
    copied]
  cases (w.store.read w.here (directory ++ Path.ofText s.latestArtifact)).toOption <;> rfl

theorem here_leave (c : Call) (w : Workspace) : (c.leave s directory w).here = w.here :=
  (extends_render s c.diagram directory (c.enter w)).1

theorem extends_leave (c : Call) (w : Workspace) :
    Extends w.store (c.leave s directory w).store :=
  (extends_render s c.diagram directory (c.enter w)).2

/-- **A call only adds to the files.** -/
theorem adds_turn (h : s.useRenderer = false) (c : Call) (w : Workspace) :
    (c.turn s directory w).Adds s w.here directory where
  keeps := extends_leave c w
  creates name hname := by
    have hanswer : (render s c.diagram directory).answer (c.enter w) = .ok (some name) := by
      unfold Call.turn at hname
      dsimp only at hname
      cases hanswer : (render s c.diagram directory).answer (c.enter w) with
      | error e => simp [hanswer, Except.toOption] at hname
      | ok answer =>
        rw [hanswer] at hname
        exact congrArg Except.ok hname
    obtain ⟨stamp, bytes, hstamp, hoffer, hcreates⟩ :=
      (render_cases s c.diagram directory (c.enter w)).exists_creates hanswer
    rw [firstOffer_offersOf h] at hoffer
    refine ⟨stamp, hstamp, ?_⟩
    rw [← Option.some.inj hoffer] at hcreates
    exact hcreates

/-! ## Runs -/

theorem adds_turns (h : s.useRenderer = false) (calls : List Call) (w : Workspace) :
    ∀ t ∈ turns s directory calls w, t.Adds s w.here directory := by
  induction calls generalizing w with
  | nil => exact fun t ht => absurd ht List.not_mem_nil
  | cons c cs ih =>
    intro t ht
    rcases List.mem_cons.1 ht with rfl | ht
    · exact adds_turn h c w
    · have hrest := ih _ t ht
      rw [here_leave] at hrest
      exact hrest

/-- Every call finds at least the files of the beginning. -/
theorem extends_before (calls : List Call) (w : Workspace) :
    ∀ t ∈ turns s directory calls w, Extends w.store t.before := by
  induction calls generalizing w with
  | nil => exact fun t ht => absurd ht List.not_mem_nil
  | cons c cs ih =>
    intro t ht
    rcases List.mem_cons.1 ht with rfl | ht
    · exact refl w.store
    · exact IsTrans.trans _ _ _ (extends_leave c w) (ih _ t ht)

/-- What one call leaves, every later call finds. -/
theorem pairwise_turns (calls : List Call) (w : Workspace) :
    (turns s directory calls w).Pairwise fun t u => Extends t.after u.before := by
  induction calls generalizing w with
  | nil => exact List.Pairwise.nil
  | cons c cs ih => exact List.Pairwise.cons (extends_before cs _) (ih _)

/-- What one call leaves, is there at the end. -/
theorem extends_finish (calls : List Call) (w : Workspace) :
    Extends w.store (finish s directory calls w).store ∧
      ∀ t ∈ turns s directory calls w, Extends t.after (finish s directory calls w).store := by
  induction calls generalizing w with
  | nil => exact ⟨refl w.store, fun t ht => absurd ht List.not_mem_nil⟩
  | cons c cs ih =>
    obtain ⟨hall, hturns⟩ := ih (c.leave s directory w)
    refine ⟨IsTrans.trans _ _ _ (extends_leave c w) hall, fun t ht => ?_⟩
    rcases List.mem_cons.1 ht with rfl | ht
    · exact hall
    · exact hturns t ht

/-- No two calls return the same name: it is taken as soon as it has been returned. -/
theorem nodup_names (h : s.useRenderer = false) (calls : List Call) (w : Workspace) :
    ((turns s directory calls w).filterMap Turn.name).Nodup := by
  have hadds : ∀ t ∈ turns s directory calls w, t.Adds s w.here directory := adds_turns h calls w
  have hnames : (turns s directory calls w).Pairwise fun t u =>
      ∀ name, t.name = some name → u.name ≠ some name := by
    refine (pairwise_turns calls w).imp_of_mem fun {t u} ht hu hextends name hname hname' => ?_
    obtain ⟨stamp, rfl, hcreates⟩ := (hadds t ht).creates name hname
    obtain ⟨stamp', hstamp, hcreates'⟩ := (hadds u hu).creates _ hname'
    obtain rfl := imageName_inj.1 hstamp
    -- The image of the first call is still there, so its stamp is not free.
    have hprepared := extends_prepared u.before w.here directory
    have hthere := exists_of_extends hprepared (exists_of_extends hextends
      (exists_of_read hcreates.read_image))
    rw [hcreates'.free.1] at hthere
    cases hthere
  rw [List.Nodup, List.pairwise_filterMap]
  refine hnames.imp fun {t u} hne name hname name' hname' heq => ?_
  exact hne name hname (heq ▸ hname')

/-- The artifact that a turn has returned was new then, and the store holds what the turn has put
into it: the latest image, and beside it the diagram. -/
structure Turn.Kept (s : Settings) (here : Location) (directory : Path) (t : Turn) (name : Text)
    (store : Store) : Prop where
  image_new : t.before.exists? here (directory ++ Path.ofText name) = .ok false
  read_image : store.read here (directory ++ Path.ofText name) =
    .ok (t.latestImage s here directory)
  beside : ∃ path, (directory ++ Path.ofText name).withSuffix? diagramSuffix = some path ∧
    t.before.exists? here path = .ok false ∧
    store.read here path = .ok (Utf8.written t.diagram)

theorem Turn.Adds.kept (h : t.Adds s here directory) (hname : t.name = some name) {store : Store}
    (hextends : Extends t.after store) : t.Kept s here directory name store := by
  obtain ⟨stamp, rfl, hcreates⟩ := h.creates name hname
  have hprepared := extends_prepared t.before here directory
  exact {
    image_new := not_exists_of_extends hprepared hcreates.free.1
    read_image := read_of_extends hextends hcreates.read_image
    beside := ⟨diagramPath directory s.artifactPrefix stamp, withSuffix?_imagePath _ _ _,
      not_exists_of_extends hprepared hcreates.free.2,
      read_of_extends hextends hcreates.read_diagram⟩ }

/-- **Rendering clobbers no artifact.** In every run without the external renderer, whatever the
clock shows, the returned names are pairwise distinct, and every call leaves all entries that it
finds as they are. Each returned artifact was new, and at the end it still holds the latest image
of its call and beside it the diagram of its call, or an empty file for a diagram that cannot be
encoded. The latest image is what the file of that name held before the call, if it was there. -/
theorem artifacts_are_kept (s : Settings) (h : s.useRenderer = false) (directory : Path)
    (calls : List Call) (w : Workspace) :
    ((turns s directory calls w).filterMap Turn.name).Nodup ∧
      ∀ t ∈ turns s directory calls w, Extends t.before t.after ∧
        (∀ name, t.name = some name →
          t.Kept s w.here directory name (finish s directory calls w).store) ∧
        ∀ bytes, t.before.read w.here (directory ++ Path.ofText s.latestArtifact) = .ok bytes →
          t.latestImage s w.here directory = bytes := by
  refine ⟨nodup_names h calls w, fun t ht => ⟨?_, ?_, ?_⟩⟩
  · exact (adds_turns h calls w t ht).keeps
  · exact fun name hname =>
      (adds_turns h calls w t ht).kept hname ((extends_finish calls w).2 t ht)
  · intro bytes hread
    rw [Turn.latestImage, read_of_extends (extends_prepared t.before w.here directory) hread]
    rfl

/-- A directory with the latest artifact and a diagram of the stamp that the clock will show. -/
def outFiles : Workspace :=
  { (default : Workspace) with
    store.entries := OrderedMap.ofList [
      (["out"], .directory),
      (["out", "diagram.png"], .file [137, 80, 78, 71]),
      (["out", "architecture-diagram-5.mmd"], .file (Utf8.written "graph LR"))] }

/-- Three calls, while the clock stands still and then goes back. -/
def outCalls : List Call := [⟨"graph TB", 5⟩, ⟨"graph RL", 5⟩, ⟨"graph BT", 4⟩]

theorem artifacts_are_kept_out :
    (default : Settings).useRenderer = false ∧
      (turns default "out" outCalls outFiles).map Turn.name =
        [some ("architecture-diagram-6.png" : Text), some ("architecture-diagram-7.png" : Text),
          some ("architecture-diagram-4.png" : Text)] ∧
      (finish default "out" outCalls outFiles).store.read []
        (Path.ofText "out/architecture-diagram-7.png") = .ok [137, 80, 78, 71] ∧
      ((turns default "out" outCalls outFiles).filterMap Turn.name).Nodup := by
  have hplain : (default : Settings).useRenderer = false := rfl
  exact ⟨hplain, by decide +kernel, by decide +kernel,
    (artifacts_are_kept default hplain "out" outCalls outFiles).1⟩

/-- A diagram with a lone surrogate. -/
def surrogateDiagram : Text :=
  ("graph TD\n    a[" : Text) ++ [CodePoint.surrogate 0x480] ++ ("]\n" : Text)

/-- The image of a diagram that cannot be encoded is returned, but the file beside it is empty, and
so it does not hold this diagram. -/
theorem unencodable_diagram_is_lost :
    (turns default "out" [⟨surrogateDiagram, 5⟩] outFiles).map Turn.name =
        [some ("architecture-diagram-6.png" : Text)] ∧
      (finish default "out" [⟨surrogateDiagram, 5⟩] outFiles).store.read []
        (Path.ofText "out/architecture-diagram-6.mmd") = .ok [] ∧
      ¬∃ bytes, Utf8.encode surrogateDiagram = .ok bytes ∧
        (finish default "out" [⟨surrogateDiagram, 5⟩] outFiles).store.read []
          (Path.ofText "out/architecture-diagram-6.mmd") = .ok bytes := by
  have hencode : (Utf8.encode surrogateDiagram).toOption = none := by decide +kernel
  refine ⟨by decide +kernel, by decide +kernel, ?_⟩
  rintro ⟨bytes, hbytes, -⟩
  rw [hbytes] at hencode
  cases hencode

end Groundplan.Artifact

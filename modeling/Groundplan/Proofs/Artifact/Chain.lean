import Groundplan.Proofs.Artifact.Failure
import Groundplan.Proofs.Artifact.Run

/-!
# The first success decides

**Candidates.** A chain of strategies is made of the external renderer, copies and placeholders, of
strategies that decline, and of strategies that fail in a way that is passed over (`Candidate`).
Each of them has an image to offer or none (`makes_strategy`), and it succeeds when there is one and
it can be placed (`Makes.place_of_success`, `Makes.success_of_place`). The exception is a renderer
that is given too many seconds: it `Overruns`, and this failure is not passed over.

**The chain.** A candidate that `Passes` leaves the files to the next one as it has found them
(`run_first_append`). So each is tried on the files of the beginning: the first success places its
image, and those behind it are not tried (`run_first_of_success`); without a success nothing is
placed (`run_first_of_none`); an overrun that comes first ends the search (`run_first_of_overruns`).

Main result: `first_success_decides`.
-/

namespace Groundplan

namespace Store

variable {s : Store} {here : Location} {p : Path}

/-! ## Directories that are there -/

/-- A directory that is there is not made. -/
theorem ensureDirectory_of_isDirectory (h : s.isDirectory here p = .ok true) :
    s.ensureDirectory here p = .ok s := by
  obtain ⟨l, hfind⟩ := isDirectory_eq_true_iff.1 h
  obtain ⟨hl, hentry⟩ := find_eq_ok_iff.1 hfind
  have hmade : s.makeDirectory here p = .error .alreadyExists := by
    simp [makeDirectory, hl, hentry, bind, Except.bind, throw, throwThe, MonadExceptOf.throw]
  rw [ensureDirectory, hmade]
  simp [FileFault.isRefusal, h, bind, Except.bind, pure, Except.pure]

theorem ensureDirectories_of_isDirectory (h : s.isDirectory here p = .ok true) :
    s.ensureDirectories here p = (.ok (), s) := by
  have hensure := ensureDirectory_of_isDirectory h
  obtain ⟨start, names⟩ := p
  rw [ensureDirectories]
  cases hreverse : names.reverse with
  | nil =>
    obtain rfl := List.reverse_eq_nil_iff.1 hreverse
    rw [ensureNames, hensure]
    rfl
  | cons name above =>
    have hnames : (name :: above).reverse = names := by rw [← hreverse, List.reverse_reverse]
    rw [ensureNames]
    dsimp only
    rw [hnames, hensure]
    rfl

end Store

namespace Strategy

open Session

variable {w : Workspace} {diagram : Text} {directory target : Path} {placed : Store}

/-! ## Candidates -/

/-- A strategy of a chain. -/
inductive Candidate where
  | external (timeout : Nat)
  | copy (name : Text)
  | placeholder
  /-- It makes no image. -/
  | decline
  /-- It fails in a way that is passed over. -/
  | fail (f : Failure) (handled : isHandled f.kind = true)

namespace Candidate

/-- What a candidate does. -/
def strategy : Candidate → Strategy
  | external timeout => Strategy.external timeout
  | copy name => Strategy.copy name
  | placeholder => Strategy.placeholder
  | decline => fun _ _ _ => return false
  | fail f _ => fun _ _ _ => throw f

/-- What a candidate offers. -/
def offer : Candidate → Offer
  | external timeout => drawn timeout
  | copy name => copied name
  | placeholder => onePixel
  | decline | fail _ _ => fun _ _ _ => .ok none

theorem makes_strategy (c : Candidate) : Makes c.strategy c.offer := by
  cases c with
  | external timeout => exact makes_external timeout
  | copy name => exact makes_copy name
  | placeholder => exact makes_placeholder
  | decline => exact {
      offer_events := fun _ _ => rfl
      leaves_attempt := fun hoffer _ => by
        cases hoffer
        exact (leaves_pure_false _).recover _ _
      run_attempt := fun hoffer => by cases hoffer }
  | fail f handled => exact {
      offer_events := fun _ _ => rfl
      leaves_attempt := fun hoffer _ => by
        cases hoffer
        exact leaves_tried_of_error handled rfl
      run_attempt := fun hoffer => by cases hoffer }

/-- The candidate says that it has made the image. -/
def Succeeds (c : Candidate) (w : Workspace) (diagram : Text) (directory target : Path) : Prop :=
  (c.strategy diagram directory target).answer w = .ok true

/-- The candidate gives too many seconds to a renderer that could be started. -/
def Overruns (c : Candidate) (w : Workspace) (diagram : Text) : Prop :=
  ∃ timeout, c = external timeout ∧ Strategy.Overruns timeout w diagram

/-- The candidate neither succeeds nor overruns, so that the next one is tried. -/
structure Passes (c : Candidate) (w : Workspace) (diagram : Text) (directory target : Path) :
    Prop where
  not_succeeds : ¬c.Succeeds w diagram directory target
  not_overruns : ¬c.Overruns w diagram

variable {c : Candidate}

theorem exists_offer (h : ¬c.Overruns w diagram) (directory : Path) :
    ∃ image, c.offer w diagram directory = .ok image := by
  cases hoffer : c.offer w diagram directory with
  | ok image => exact ⟨image, rfl⟩
  | error f =>
    cases c with
    | external timeout =>
      have hdrawn : drawn timeout w diagram directory = .error f := hoffer
      exact absurd ⟨timeout, rfl, ((drawn_eq_error_iff directory).1 hdrawn).1⟩ h
    | _ => cases hoffer

theorem Overruns.exists_offer_eq_error (h : c.Overruns w diagram) (directory : Path) :
    ∃ timeout, c = external timeout ∧
      c.offer w diagram directory = .error (.overlongTimeout timeout) := by
  obtain ⟨timeout, rfl, hoverruns⟩ := h
  have hdrawn : drawn timeout w diagram directory = .error (.overlongTimeout timeout) :=
    (drawn_eq_error_iff directory).2 ⟨hoverruns, rfl⟩
  exact ⟨timeout, rfl, hdrawn⟩

end Candidate

/-! ## Success -/

/-- Trying a strategy that succeeds leaves the files with its offer in place. -/
theorem Makes.place_of_success {strategy : Strategy} {offer : Offer} (h : Makes strategy offer)
    (hsuccess : (strategy diagram directory target).answer w = .ok true) :
    ∃ image, offer w diagram directory = .ok image ∧
      place w target image = some ((strategy diagram directory target).after w).store := by
  have hsucceeded := run_tried_eq_true_iff.2 (run_of_answer_ok hsuccess)
  cases hoffer : offer w diagram directory with
  | error f =>
    have hrun := h.run_attempt hoffer target
    rw [attempt_eq, hsucceeded] at hrun
    cases hrun
  | ok image =>
    obtain ⟨events, hrun⟩ := h.leaves_attempt hoffer target
    rw [attempt_eq, hsucceeded] at hrun
    cases hplace : place w target image with
    | none =>
      rw [hplace] at hrun
      cases hrun
    | some placed =>
      rw [hplace] at hrun
      injection hrun with _ hafter
      rw [hafter]
      exact ⟨image, rfl, hplace⟩

/-- An offer that can be placed is a success. -/
theorem Makes.success_of_place {strategy : Strategy} {offer : Offer} (h : Makes strategy offer)
    {image : Option (List UInt8)} (hoffer : offer w diagram directory = .ok image)
    (hplace : place w target image = some placed) :
    (strategy diagram directory target).answer w = .ok true := by
  obtain ⟨events, hrun⟩ := h.leaves_attempt hoffer target
  rw [hplace, attempt_eq] at hrun
  rw [answer, run_tried_eq_true_iff.1 hrun]

/-! ## Trying candidates -/

namespace Candidate

variable {c : Candidate} {front candidates : List Candidate}

/-- A candidate that is passed over leaves the files to the next one. -/
theorem Passes.run_attempt (h : c.Passes w diagram directory target) : ∃ events,
    (attempt c.strategy diagram directory target).run w = .ok false { w with events } := by
  obtain ⟨image, hoffer⟩ := exists_offer h.not_overruns directory
  obtain ⟨events, hrun⟩ := c.makes_strategy.leaves_attempt hoffer target
  cases hplace : place w target image with
  | some placed => exact absurd (c.makes_strategy.success_of_place hoffer hplace) h.not_succeeds
  | none =>
    rw [hplace] at hrun
    exact ⟨events, hrun⟩

/-- What a candidate does is the same whatever has been reported before. -/
theorem passes_events (events : List Event) (h : c.Passes w diagram directory target) :
    c.Passes { w with events } diagram directory target := by
  obtain ⟨image, hoffer⟩ := exists_offer h.not_overruns directory
  have hsame := congrFun (congrFun (c.makes_strategy.offer_events w events) diagram) directory
  refine ⟨fun hsuccess => ?_, fun hoverruns => ?_⟩
  · obtain ⟨other, hother, hplace⟩ := c.makes_strategy.place_of_success hsuccess
    rw [hsame] at hother
    obtain ⟨bytes, hbytes, hwrite⟩ := place_eq_some_iff.1 hplace
    exact h.not_succeeds
      (c.makes_strategy.success_of_place hother (place_eq_some_iff.2 ⟨bytes, hbytes, hwrite⟩))
  · obtain ⟨timeout, -, herror⟩ := hoverruns.exists_offer_eq_error directory
    rw [hsame, hoffer] at herror
    cases herror

/-- **Candidates that are passed over** have no effect on what comes behind them. -/
theorem run_first_append (hfront : ∀ d ∈ front, d.Passes w diagram directory target) :
    ∃ events, ∀ back : List Candidate,
      (first ((front ++ back).map strategy) diagram directory target).run w =
        (first (back.map strategy) diagram directory target).run { w with events } := by
  induction front generalizing w with
  | nil => exact ⟨w.events, fun _ => rfl⟩
  | cons d front ih =>
    obtain ⟨hd, hfront⟩ := List.forall_mem_cons.1 hfront
    obtain ⟨events, hattempt⟩ := hd.run_attempt
    -- The next candidate finds the same files.
    obtain ⟨events', hnext⟩ :=
      ih (w := { w with events }) fun e he => passes_events events (hfront e he)
    exact ⟨events', fun back => (run_first_cons hattempt _).trans (hnext back)⟩

/-- Behind a first success, no candidate is tried. -/
theorem run_first_of_success (hfront : ∀ d ∈ front, d.Passes w diagram directory target)
    (hc : c.Succeeds w diagram directory target) : ∃ image placed events,
      c.offer w diagram directory = .ok image ∧ place w target image = some placed ∧
      ∀ back : List Candidate,
        (first ((front ++ c :: back).map strategy) diagram directory target).run w =
          .ok true { w with store := placed, events } := by
  obtain ⟨image, hoffer, hplace⟩ := c.makes_strategy.place_of_success hc
  obtain ⟨events, hrun⟩ := run_first_append hfront
  have hsame := congrFun (congrFun (c.makes_strategy.offer_events w events) diagram) directory
  obtain ⟨events', hattempt⟩ :=
    c.makes_strategy.leaves_attempt (w := { w with events }) (hsame.trans hoffer) target
  have hplace' : place { w with events } target image = _ := hplace
  rw [hplace'] at hattempt
  exact ⟨image, _, events', hoffer, hplace,
    fun back => (hrun (c :: back)).trans (run_first_cons hattempt _)⟩

/-- A candidate that overruns ends the search with a failure. -/
theorem run_first_of_overruns (hfront : ∀ d ∈ front, d.Passes w diagram directory target)
    (hc : c.Overruns w diagram) : ∃ timeout events, c = external timeout ∧
      ∀ back : List Candidate,
        (first ((front ++ c :: back).map strategy) diagram directory target).run w =
          .error (.overlongTimeout timeout) { w with events } := by
  obtain ⟨timeout, hexternal, herror⟩ := hc.exists_offer_eq_error directory
  obtain ⟨events, hrun⟩ := run_first_append hfront
  have hsame := congrFun (congrFun (c.makes_strategy.offer_events w events) diagram) directory
  exact ⟨timeout, events, hexternal, fun back => (hrun (c :: back)).trans
    (run_first_of_error c.makes_strategy (hsame.trans herror) target _)⟩

/-- Without a success and without an overrun, no candidate has an effect. -/
theorem run_first_of_none (h : ∀ c ∈ candidates, c.Passes w diagram directory target) :
    ∃ events, (first (candidates.map strategy) diagram directory target).run w =
      .ok false { w with events } := by
  obtain ⟨events, hrun⟩ := run_first_append h
  have hnil := hrun []
  rw [List.append_nil] at hnil
  exact ⟨events, hnil⟩

/-- Either all candidates are passed over or there is a first one that is not. -/
theorem forall_passes_or_exists_first (candidates : List Candidate) (w : Workspace) (diagram : Text)
    (directory target : Path) :
    (∀ c ∈ candidates, c.Passes w diagram directory target) ∨
      ∃ front c back, candidates = front ++ c :: back ∧
        (∀ d ∈ front, d.Passes w diagram directory target) ∧
        (c.Succeeds w diagram directory target ∨ c.Overruns w diagram) := by
  induction candidates with
  | nil => exact .inl (by simp)
  | cons c candidates ih =>
    by_cases hc : c.Passes w diagram directory target
    · rcases ih with hall | ⟨front, d, back, rfl, hfront, hd⟩
      · exact .inl (List.forall_mem_cons.2 ⟨hc, hall⟩)
      · exact .inr ⟨c :: front, d, back, rfl, List.forall_mem_cons.2 ⟨hc, hfront⟩, hd⟩
    · refine .inr ⟨[], c, candidates, rfl, by simp, ?_⟩
      by_contra hneither
      obtain ⟨hsucceeds, hoverruns⟩ := not_or.1 hneither
      exact hc ⟨hsucceeds, hoverruns⟩

/-- No candidate that comes to be tried overruns. -/
def InTime (candidates : List Candidate) (w : Workspace) (diagram : Text)
    (directory target : Path) : Prop :=
  ∀ front c back, candidates = front ++ c :: back →
    (∀ d ∈ front, ¬d.Succeeds w diagram directory target) → ¬c.Overruns w diagram

/-- What stands in front of the first success is passed over. -/
theorem InTime.passes {back : List Candidate}
    (h : InTime (front ++ back) w diagram directory target)
    (hfront : ∀ d ∈ front, ¬d.Succeeds w diagram directory target) :
    ∀ d ∈ front, d.Passes w diagram directory target := by
  intro d hd
  obtain ⟨before, behind, rfl⟩ := List.append_of_mem hd
  refine ⟨hfront d hd, h before d (behind ++ back) (by simp) fun e he => ?_⟩
  exact hfront e (List.mem_append_left _ he)

end Candidate

end Strategy

namespace Artifact

open Session Store Strategy

variable {w : Workspace} {start diagram : Text} {directory : Path} {stamp : Nat} {name : Text}
variable {candidates front back : List Candidate} {c : Candidate}

/-! ## Rendering -/

theorem run_prepare_of_isDirectory (h : w.store.isDirectory w.here directory = .ok true) :
    (prepare directory).run w = .ok true w := by
  refine run_recover_of_ok ?_
  have hmade := ensureDirectories_of_isDirectory h
  have hanswer := answer_ensureDirectory directory w
  have hafter := after_ensureDirectory directory w
  rw [hmade] at hanswer hafter
  rw [run_bind, run_of_answer_ok hanswer, hafter]
  rfl

/-- Where the directory is there and a name is found, rendering goes on under this name. -/
theorem run_renderWith_of_isDirectory (h : w.store.isDirectory w.here directory = .ok true)
    (hname : (uniqueName directory start).answer w = .ok name) (strategies : List Strategy)
    (diagram : Text) :
    (renderWith strategies start diagram directory).run w =
      (renderAs strategies diagram directory name).run w := by
  have hprepare := run_bind (prepare directory) (fun b => if b then
    uniqueName directory start >>= renderAs strategies diagram directory else pure none) w
  rw [← renderWith_eq, run_prepare_of_isDirectory h] at hprepare
  have hunique := run_bind (uniqueName directory start)
    (renderAs strategies diagram directory) w
  rw [run_of_answer_ok hname, after_uniqueName] at hunique
  exact hprepare.trans hunique

/-- Renders a diagram into a directory with a chain of candidates. -/
def chain (candidates : List Candidate) (start diagram : Text) (directory : Path) :
    Session (Option Text) :=
  renderWith (candidates.map Candidate.strategy) start diagram directory

/-- The files after a success: the image as the candidate places it on the files of the beginning,
and beside it the diagram. Both are new, and nothing else has changed. -/
structure Completes (c : Candidate) (diagram : Text) (directory target : Path) (w : Workspace)
    (after : Store) (image source : Location) (bytes : List UInt8) : Prop where
  resolve_image : w.store.resolve w.here target = .ok image
  resolve_source : ∃ path, target.withSuffix? diagramSuffix = some path ∧
    w.store.resolve w.here path = .ok source
  source_ne_image : source ≠ image
  image_new : w.store.lookup? image = none
  source_new : w.store.lookup? source = none
  places : ((c.strategy diagram directory target).after w).store = w.store.put image (.file bytes)
  leaves : after = (w.store.put image (.file bytes)).put source (.file (Utf8.written diagram))
  read_image : after.read w.here target = .ok bytes

/-- What is placed under a free name and then saved completes the candidate's image. -/
theorem exists_completes {image : Option (List UInt8)} {written store : Store}
    (hfree : Free w.store w.here directory start stamp)
    (hoffer : c.offer w diagram directory = .ok image)
    (hplace : place w (imagePath directory start stamp) image = some written)
    (hdiagram : written.write w.here (diagramPath directory start stamp) (Utf8.written diagram) =
      .ok store) :
    ∃ image source bytes,
      Completes c diagram directory (imagePath directory start stamp) w store image source
        bytes := by
  have hsuccess := c.makes_strategy.success_of_place hoffer hplace
  obtain ⟨image', hoffer', hafter⟩ := c.makes_strategy.place_of_success hsuccess
  obtain rfl := Except.ok.inj (hoffer.symm.trans hoffer')
  obtain rfl := Option.some.inj (hplace.symm.trans hafter)
  obtain ⟨bytes, -, hwrite⟩ := place_eq_some_iff.1 hafter
  obtain ⟨image, himage, hfile, hput⟩ := write_eq_ok_iff.1 hwrite
  obtain ⟨source, hsource, hne⟩ := exists_resolve_diagram himage
  have hsource_new := lookup?_eq_none_of_not_exists hfree.2 hsource
  have himage_new := lookup?_eq_none_of_not_exists hfree.1 himage
  obtain ⟨source', hsource', -, hstore⟩ := write_eq_ok_iff.1 hdiagram
  -- Writing the image has not moved the diagram.
  rw [resolve_of_keepsKinds (keepsKinds_of_write hwrite) hsource] at hsource'
  obtain rfl := Except.ok.inj hsource'
  refine ⟨image, source, bytes, {
    resolve_image := himage
    resolve_source := ⟨_, withSuffix?_imagePath directory start stamp, hsource⟩
    source_ne_image := hne
    image_new := himage_new
    source_new := hsource_new
    places := hput
    leaves := hput ▸ hstore
    read_image := ?_ }⟩
  have hnew : (w.store.put image (.file bytes)).lookup? source = none := by
    rw [lookup?_put (ne_root_of_lookup?_ne hfile), if_neg hne, hsource_new]
  rw [← hput] at hnew
  rw [hstore]
  exact read_of_extends (extends_put hnew) (read_of_write hwrite)

/-! ## The chain decides -/

section

variable (hdirectory : w.store.isDirectory w.here directory = .ok true)
  (hname : (uniqueName directory start).answer w = .ok name)

include hdirectory hname

/-- With a first success, rendering answers the name, the files are those of this success, and
nothing behind it has an effect. -/
theorem chain_of_success
    (hfront : ∀ d ∈ front, d.Passes w diagram directory (directory ++ Path.ofText name))
    (hc : c.Succeeds w diagram directory (directory ++ Path.ofText name)) (back : List Candidate) :
    (chain (front ++ c :: back) start diagram directory).answer w = .ok (some name) ∧
      (∃ image source bytes, Completes c diagram directory (directory ++ Path.ofText name) w
        ((chain (front ++ c :: back) start diagram directory).after w).store image source bytes) ∧
      (chain (front ++ c :: back) start diagram directory).run w =
        (chain (front ++ [c]) start diagram directory).run w := by
  obtain ⟨image, placed, events, hoffer, hplace, hfirst⟩ :=
    Candidate.run_first_of_success hfront hc
  obtain ⟨stamp, rfl, -, hfree, -⟩ := answer_uniqueName hname
  have hrun := run_renderWith_of_isDirectory hdirectory hname
    ((front ++ c :: back).map Candidate.strategy) diagram
  rw [← chain] at hrun
  obtain ⟨store, events', hdiagram, hrenders⟩ := run_renderAs_of_placed hfree hplace (hfirst back)
  have hsame : (chain (front ++ c :: back) start diagram directory).run w =
      (chain (front ++ [c]) start diagram directory).run w := by
    rw [chain, chain, run_renderWith_of_isDirectory hdirectory hname,
      run_renderWith_of_isDirectory hdirectory hname, renderAs, renderAs, run_bind, run_bind]
    have hlast : (first ((front ++ [c]).map Candidate.strategy) diagram directory
        (directory ++ Path.ofText (imageName start stamp))).run w = _ := hfirst []
    have hmore : (first ((front ++ c :: back).map Candidate.strategy) diagram directory
        (directory ++ Path.ofText (imageName start stamp))).run w = _ := hfirst back
    rw [hmore, hlast]
  refine ⟨?_, ?_, hsame⟩
  · rw [answer, hrun, hrenders]
  · rw [after, hrun, hrenders]
    exact exists_completes hfree hoffer hplace hdiagram

/-- Where the first candidate that is not passed over overruns, rendering fails. -/
theorem chain_of_overruns
    (hfront : ∀ d ∈ front, d.Passes w diagram directory (directory ++ Path.ofText name))
    (hc : c.Overruns w diagram) (back : List Candidate) :
    (∃ timeout, c = .external timeout ∧
      (chain (front ++ c :: back) start diagram directory).answer w =
        .error (.overlongTimeout timeout)) ∧
      ((chain (front ++ c :: back) start diagram directory).after w).store = w.store := by
  obtain ⟨timeout, events, hexternal, hfirst⟩ := Candidate.run_first_of_overruns hfront hc
  have hrun := run_renderWith_of_isDirectory hdirectory hname
    ((front ++ c :: back).map Candidate.strategy) diagram
  rw [← chain, renderAs, run_bind, hfirst back] at hrun
  rw [answer, after, hrun]
  exact ⟨⟨timeout, hexternal, rfl⟩, rfl⟩

/-- Where all candidates are passed over, rendering answers no name and leaves the files as they
are. -/
theorem chain_of_none
    (h : ∀ c ∈ candidates, c.Passes w diagram directory (directory ++ Path.ofText name)) :
    (chain candidates start diagram directory).answer w = .ok none ∧
      ((chain candidates start diagram directory).after w).store = w.store := by
  obtain ⟨events, hfirst⟩ := Candidate.run_first_of_none h
  have hrun := run_renderWith_of_isDirectory hdirectory hname
    (candidates.map Candidate.strategy) diagram
  rw [← chain, renderAs, run_bind, hfirst] at hrun
  rw [answer, after, hrun]
  exact ⟨rfl, rfl⟩

end

/-- A chain whose renderer is missing, whose first copy has no original, and whose second has
one. -/
def mixedChain : List Candidate :=
  [.external 30, .copy "missing.png", .decline, .fail (.file .notDirectory "out") rfl,
    .copy "diagram.png", .placeholder]

/-- The files of `outFiles` where there is a renderer. -/
def drawingFiles : Workspace :=
  { outFiles with renderer := .program fun _ => .ended true "" (some [137]) }

end Artifact

end Groundplan

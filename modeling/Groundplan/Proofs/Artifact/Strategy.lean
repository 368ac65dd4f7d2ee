import Mathlib.Data.List.Forall2
import Groundplan.Artifact.Strategy
import Groundplan.Proofs.Workspace.Session

/-!
# What strategies write

**Offers.** A strategy has the bytes of an image to offer or it has none. Trying it writes them to
the target; if there are none or they cannot be written, the files stay as they are (`Makes`). The
external renderer offers what it has drawn, a copy what the earlier image holds, and a placeholder
one pixel (`makes_external`, `makes_copy`, `makes_placeholder`).

**Failures.** Only the external renderer can fail in a way that is not handled, and it does so just
where it could be started and is given too many seconds (`drawn_eq_error_iff`).

**Order.** Whether the target can be written does not depend on the bytes. So trying strategies in
order writes the first offer there is, or nothing, unless one of them fails so (`first_cases`).
-/

namespace Groundplan.Strategy

open Session

variable {w : Workspace} {m m' : Session Bool} {r : Option Store} {target : Path}
variable {image : Option (List UInt8)} {bytes : List UInt8} {fault : FileFault} {path : Path}

/-! ## Placing an image -/

/-- The store with an image at a path, if there is an image and it can be written. -/
def place (w : Workspace) (target : Path) (image : Option (List UInt8)) : Option Store :=
  image.bind fun bytes => (w.store.write w.here target bytes).toOption

theorem place_eq_some_iff {store : Store} : place w target image = some store ↔
    ∃ bytes, image = some bytes ∧ w.store.write w.here target bytes = .ok store := by
  rw [place, Option.bind_eq_some_iff]
  refine exists_congr fun bytes => and_congr_right fun _ => ?_
  cases w.store.write w.here target bytes <;> simp [Except.toOption]

/-- If one image cannot be written, none can. -/
theorem place_eq_none_of_some (h : place w target (some bytes) = none)
    (image : Option (List UInt8)) : place w target image = none := by
  have hbytes : ∀ store, w.store.write w.here target bytes ≠ .ok store := by
    intro store hstore
    rw [place_eq_some_iff.2 ⟨bytes, rfl, hstore⟩] at h
    cases h
  rw [Option.eq_none_iff_forall_ne_some]
  intro store hstore
  obtain ⟨bytes', -, hwrite⟩ := place_eq_some_iff.1 hstore
  exact Store.write_ne_ok_congr hbytes bytes' store hwrite

/-! ## Trying -/

/-- The activity answers whether there is a new store, and leaves that one, or the old one if
there is none. Only the events may differ as well. -/
def Leaves (m : Session Bool) (w : Workspace) (r : Option Store) : Prop :=
  ∃ events, m.run w = .ok r.isSome { w with store := r.getD w.store, events }

theorem leaves_pure_false (w : Workspace) : Leaves (pure false) w none := ⟨w.events, rfl⟩

theorem leaves_report_false (e : Event) (w : Workspace) :
    Leaves (report e >>= fun _ => pure false) w none := ⟨w.events ++ [e], rfl⟩

theorem Leaves.congr (h : Leaves m w r) (hrun : m'.run w = m.run w) : Leaves m' w r := by
  obtain ⟨events, h⟩ := h
  exact ⟨events, hrun.trans h⟩

/-- Where nothing fails, nothing is handled. -/
theorem Leaves.recover (h : Leaves m w r) (p : FailureKind → Bool)
    (handle : Failure → Session Bool) : Leaves (recover p m handle) w r := by
  obtain ⟨events, h⟩ := h
  exact ⟨events, run_recover_of_ok h⟩

/-- The failures that are handled when a strategy is tried. -/
def isHandled (k : FailureKind) : Bool := k.isSystem || k.isValue

/-- Every fault of an operation on files is handled. -/
theorem isHandled_file (fault : FileFault) (path : Path) :
    isHandled (Failure.file fault path).kind = true := by
  cases fault <;> rfl

/-- An activity as it is tried: a failure is reported and counts as no success. -/
def tried (m : Session Bool) : Session Bool :=
  Session.recover isHandled m fun f => report (.strategyFailed f) >>= fun _ => pure false

theorem attempt_eq (strategy : Strategy) (diagram : Text) (directory target : Path) :
    attempt strategy diagram directory target = tried (strategy diagram directory target) := rfl

/-- A failure that is handled leaves the files as they are. -/
theorem leaves_tried_of_error {f : Failure} (hf : isHandled f.kind = true)
    (h : m.run w = .error f w) : Leaves (tried m) w none := by
  refine ⟨w.events ++ [.strategyFailed f], ?_⟩
  rw [tried, run_recover, h]
  dsimp only
  rw [if_pos hf]
  rfl

theorem leaves_tried_of_fault (h : m.run w = .error (.file fault path) w) :
    Leaves (tried m) w none :=
  leaves_tried_of_error (isHandled_file fault path) h

/-- Only a success counts as one. -/
theorem run_tried_eq_true_iff {w' : Workspace} :
    (tried m).run w = .ok true w' ↔ m.run w = .ok true w' := by
  rw [tried, run_recover]
  cases m.run w with
  | ok b w'' => rfl
  | error f w'' =>
    cases hf : isHandled f.kind with
    | true =>
      have hreport : (report (.strategyFailed f) >>= fun _ => pure false : Session Bool).run w'' =
          .ok false { w'' with events := w''.events ++ [.strategyFailed f] } := rfl
      dsimp only
      rw [if_pos hf, hreport]
      simp
    | false => simp [hf]

/-- Trying to write an image writes it, or leaves the files as they are. -/
theorem leaves_tried_write
    (h : m.run w = (writeBytes target bytes >>= fun _ => pure true : Session Bool).run w) :
    Leaves (tried m) w (place w target (some bytes)) := by
  rw [run_bind, writeBytes, run_change] at h
  rw [place, Option.bind_some]
  cases hwrite : w.store.write w.here target bytes with
  | ok store =>
    rw [hwrite] at h
    have hleaves : Leaves m w (some store) := ⟨w.events, h⟩
    exact hleaves.recover _ _
  | error fault =>
    rw [hwrite] at h
    exact leaves_tried_of_fault h

/-- An activity that reports the faults of the system itself. -/
def guarded (event : Failure → Event) (m : Session Bool) : Session Bool :=
  Session.recover FailureKind.isSystem m fun f => report (event f) >>= fun _ => pure false

/-- A fault that is not reported there is reported by the trial. -/
theorem leaves_tried_guarded_of_fault (event : Failure → Event)
    (h : m.run w = .error (.file fault path) w) : Leaves (tried (guarded event m)) w none := by
  cases hsystem : (Failure.file fault path).kind.isSystem with
  | true =>
    have hguarded : Leaves (guarded event m) w none := by
      refine ⟨w.events ++ [event (.file fault path)], ?_⟩
      rw [guarded, run_recover, h]
      dsimp only
      rw [if_pos hsystem]
      rfl
    exact hguarded.recover _ _
  | false =>
    have hguarded : (guarded event m).run w = .error (.file fault path) w := by
      rw [guarded, run_recover, h]
      simp [hsystem]
    exact leaves_tried_of_fault hguarded

/-- Writes an image, which is a success, and reports that. -/
def writeAs (e : Event) (target : Path) (bytes : List UInt8) : Session Bool :=
  writeBytes target bytes >>= fun _ => report e >>= fun _ => pure true

theorem leaves_tried_guarded_writeAs (event : Failure → Event) (e : Event)
    (h : m.run w = (writeAs e target bytes).run w) :
    Leaves (tried (guarded event m)) w (place w target (some bytes)) := by
  rw [writeAs, run_bind, writeBytes, run_change] at h
  rw [place, Option.bind_some]
  cases hwrite : w.store.write w.here target bytes with
  | ok store =>
    rw [hwrite] at h
    have hleaves : Leaves m w (some store) := ⟨w.events ++ [e], h⟩
    exact (hleaves.recover _ _).recover _ _
  | error fault =>
    rw [hwrite] at h
    exact leaves_tried_guarded_of_fault event h

/-! ## Offers -/

/-- What a strategy has for a diagram in a directory: the bytes of an image, nothing, or a failure
that is not handled when it is tried. -/
abbrev Offer :=
  Workspace → (diagram : Text) → (directory : Path) → Except Failure (Option (List UInt8))

/-- Trying the strategy writes what it offers, or fails as the offer says, and this does not depend
on the events. -/
structure Makes (strategy : Strategy) (offer : Offer) : Prop where
  leaves_attempt : ∀ {w diagram directory image}, offer w diagram directory = .ok image →
    ∀ target, Leaves (attempt strategy diagram directory target) w (place w target image)
  run_attempt : ∀ {w diagram directory f}, offer w diagram directory = .error f →
    ∀ target, (attempt strategy diagram directory target).run w = .error f w
  offer_events : ∀ (w : Workspace) (events : List Event),
    offer { w with events } = offer w

/-- What the external renderer draws. It cannot be run for too many seconds. -/
def drawn (timeout : Nat) : Offer := fun w diagram _ =>
  match w.renderer, Utf8.encode diagram with
  | .program run, .ok _ =>
    if longestTimeout < timeout then .error (.overlongTimeout timeout)
    else match run (rendererRequest timeout diagram) with
      | .ended true _ output => .ok output
      | _ => .ok none
  | _, _ => .ok none

/-- What the image with a name in the directory holds. -/
def copied (name : Text) : Offer := fun w _ directory =>
  .ok (w.store.read w.here (directory ++ Path.ofText name)).toOption

/-- One transparent pixel. -/
def onePixel : Offer := fun _ _ _ => .ok (some pixel)

theorem makes_placeholder : Makes placeholder onePixel where
  offer_events _ _ := rfl
  leaves_attempt h _ := by
    cases h
    exact leaves_tried_guarded_writeAs _ _ rfl
  run_attempt h := by cases h

/-- What is no file cannot be read. -/
theorem copied_eq_none {name : Text} {directory : Path}
    (h : w.store.isFile w.here (directory ++ Path.ofText name) ≠ .ok true) (diagram : Text) :
    copied name w diagram directory = .ok none := by
  rw [copied]
  cases hread : w.store.read w.here (directory ++ Path.ofText name) with
  | error fault => rfl
  | ok bytes => exact absurd (Store.isFile_of_read hread) h

/-- What is a file is read, and its bytes are written. -/
theorem run_copy_of_read {name diagram : Text} {directory : Path}
    (h : w.store.read w.here (directory ++ Path.ofText name) = .ok bytes) :
    (copy name diagram directory target).run w =
      (guarded (.cannotCopy (directory ++ Path.ofText name)) (writeAs
        (.copied (directory ++ Path.ofText name).name target.name) target bytes)).run w := by
  have hfile := run_ask (directory ++ Path.ofText name) Store.isFile w
  rw [Store.isFile_of_read h] at hfile
  have hread := run_ask (directory ++ Path.ofText name) Store.read w
  rw [h] at hread
  rw [copy, run_bind, Session.isFile, hfile]
  refine run_recover_congr ?_ _ _
  rw [run_bind, readBytes, hread]
  rfl

theorem makes_copy (name : Text) : Makes (copy name) (copied name) where
  offer_events _ _ := rfl
  run_attempt h := by cases h
  leaves_attempt {w diagram directory image} hoffer target := by
    rw [attempt_eq]
    have hask := run_ask (directory ++ Path.ofText name) Store.isFile w
    cases hfile : w.store.isFile w.here (directory ++ Path.ofText name) with
    | error fault =>
      rw [hfile] at hask
      rw [copied_eq_none (by simp [hfile]) diagram] at hoffer
      obtain rfl := Except.ok.inj hoffer
      have hcopy : (copy name diagram directory target).run w =
          .error (.file fault (directory ++ Path.ofText name)) w := by
        rw [copy, run_bind, Session.isFile, hask]
      exact leaves_tried_of_fault hcopy
    | ok b =>
      rw [hfile] at hask
      cases b with
      | false =>
        rw [copied_eq_none (by simp [hfile]) diagram] at hoffer
        obtain rfl := Except.ok.inj hoffer
        refine ((leaves_pure_false w).congr ?_).recover _ _
        rw [copy, run_bind, Session.isFile, hask]
        rfl
      | true =>
        obtain ⟨bytes, hread⟩ := Store.isFile_eq_true_iff.1 hfile
        rw [copied, hread] at hoffer
        obtain rfl := Except.ok.inj hoffer
        exact (leaves_tried_guarded_writeAs _ _ rfl).congr
          (run_recover_congr (run_copy_of_read hread) _ _)

/-! ### The external renderer -/

section External

variable {timeout : Nat} {diagram : Text} {directory : Path} {run : RendererRequest → RendererReply}

/-- A renderer could be started, but not for so many seconds. -/
structure Overruns (timeout : Nat) (w : Workspace) (diagram : Text) : Prop where
  started : ∃ run, w.renderer = .program run
  encodable : Utf8.Encodable diagram
  long : longestTimeout < timeout

theorem drawn_of_not_program (h : ∀ run, w.renderer ≠ .program run) :
    drawn timeout w diagram directory = .ok none := by
  unfold drawn
  split
  · next run _ hrun _ => exact absurd hrun (h run)
  · rfl

theorem drawn_of_not_encodable (h : ¬Utf8.Encodable diagram) :
    drawn timeout w diagram directory = .ok none := by
  unfold drawn
  split
  · next hencode => exact absurd (Utf8.encodable_of_encode hencode) h
  · rfl

theorem drawn_of_program (hrun : w.renderer = .program run) (h : Utf8.Encodable diagram) :
    drawn timeout w diagram directory =
      if longestTimeout < timeout then .error (.overlongTimeout timeout)
      else match run (rendererRequest timeout diagram) with
        | .ended true _ output => .ok output
        | _ => .ok none := by
  rw [drawn, hrun, h.encode]

/-- **The external renderer fails unhandled exactly if it is given too many seconds.** -/
theorem drawn_eq_error_iff {f : Failure} (directory : Path) :
    drawn timeout w diagram directory = .error f ↔
    Overruns timeout w diagram ∧ f = .overlongTimeout timeout := by
  by_cases hencodable : Utf8.Encodable diagram
  · by_cases hprogram : ∃ run, w.renderer = .program run
    · obtain ⟨run, hrun⟩ := hprogram
      rw [drawn_of_program hrun hencodable]
      by_cases hlong : longestTimeout < timeout
      · have hoverruns : Overruns timeout w diagram := ⟨⟨run, hrun⟩, hencodable, hlong⟩
        simp [hlong, hoverruns, eq_comm]
      · rw [if_neg hlong]
        refine iff_of_false (fun h => ?_) fun h => hlong h.1.long
        split at h <;> cases h
    · rw [drawn_of_not_program fun run hrun => hprogram ⟨run, hrun⟩]
      exact iff_of_false (by simp) fun h => hprogram h.1.started
  · rw [drawn_of_not_encodable hencodable]
    exact iff_of_false (by simp) fun h => hencodable h.1.encodable

theorem run_external_of_program (hrun : w.renderer = .program run) (h : Utf8.Encodable diagram)
    (timeout : Nat) (directory target : Path) :
    (external timeout diagram directory target).run w =
      (if longestTimeout < timeout then throw (.overlongTimeout timeout)
      else match run (rendererRequest timeout diagram) with
        | .expired => report (.rendererUnusable (expiredReason timeout)) >>= fun _ => pure false
        | .garbled e => throw (.undecodable e)
        | .ended true _ (some image) => writeBytes target image >>= fun _ => pure true
        | .ended _ complaint _ => report (.rendererFailed complaint) >>= fun _ => pure false :
          Session Bool).run w := by
  have hget : (get : Session Workspace).run w = .ok w w := rfl
  simp only [external, run_bind, hget, hrun, h.encode, Bool.false_eq_true, if_false]
  rfl

/-- A renderer that has enough time is taken at its reply. -/
theorem leaves_tried_external_of_program (hrun : w.renderer = .program run)
    (hencodable : Utf8.Encodable diagram) (hshort : ¬longestTimeout < timeout)
    (hoffer : drawn timeout w diagram directory = .ok image) (target : Path) :
    Leaves (tried (external timeout diagram directory target)) w (place w target image) := by
  have hexternal := run_external_of_program hrun hencodable timeout directory target
  rw [if_neg hshort] at hexternal
  rw [drawn_of_program hrun hencodable, if_neg hshort] at hoffer
  generalize run (rendererRequest timeout diagram) = reply at hoffer hexternal
  match reply with
  | .expired =>
    obtain rfl := Except.ok.inj hoffer
    exact ((leaves_report_false _ w).congr hexternal).recover _ _
  | .garbled e =>
    obtain rfl := Except.ok.inj hoffer
    exact leaves_tried_of_error (f := .undecodable e) rfl hexternal
  | .ended true complaint (some image) =>
    obtain rfl := Except.ok.inj hoffer
    exact leaves_tried_write hexternal
  | .ended true complaint none =>
    obtain rfl := Except.ok.inj hoffer
    exact ((leaves_report_false _ w).congr hexternal).recover _ _
  | .ended false complaint output =>
    obtain rfl := Except.ok.inj hoffer
    exact ((leaves_report_false _ w).congr hexternal).recover _ _

/-- A diagram that cannot be encoded does not come to the renderer. -/
theorem leaves_tried_external_of_not_encodable (h : ¬Utf8.Encodable diagram) (timeout : Nat)
    (directory target : Path) :
    Leaves (tried (external timeout diagram directory target)) w none := by
  have hget : (get : Session Workspace).run w = .ok w w := rfl
  cases hrenderer : w.renderer with
  | absent =>
    refine ((leaves_pure_false w).congr ?_).recover _ _
    simp [external, hget, hrenderer]
  | _ =>
    obtain ⟨e, he⟩ := Utf8.exists_encode_error h
    refine leaves_tried_of_error (f := .unencodable e) rfl ?_
    simp only [external, run_bind, hget, hrenderer, he]
    rfl

theorem makes_external (timeout : Nat) : Makes (external timeout) (drawn timeout) where
  offer_events _ _ := rfl
  run_attempt {w diagram directory f} hoffer target := by
    obtain ⟨⟨⟨run, hrun⟩, hencodable, hlong⟩, rfl⟩ := (drawn_eq_error_iff directory).1 hoffer
    have hexternal := run_external_of_program hrun hencodable timeout directory target
    rw [if_pos hlong] at hexternal
    rw [attempt_eq, tried, run_recover, hexternal]
    rfl
  leaves_attempt {w diagram directory image} hoffer target := by
    rw [attempt_eq]
    have hget : (get : Session Workspace).run w = .ok w w := rfl
    by_cases hencodable : Utf8.Encodable diagram
    · cases hrenderer : w.renderer with
      | absent =>
        rw [drawn_of_not_program (by simp [hrenderer])] at hoffer
        obtain rfl := Except.ok.inj hoffer
        refine ((leaves_pure_false w).congr ?_).recover _ _
        simp [external, hget, hrenderer]
      | unusable reason =>
        rw [drawn_of_not_program (by simp [hrenderer])] at hoffer
        obtain rfl := Except.ok.inj hoffer
        refine ((leaves_report_false (.rendererUnusable reason) w).congr ?_).recover _ _
        simp [external, hget, hrenderer, hencodable.encode]
      | program run =>
        have hshort : ¬longestTimeout < timeout := by
          intro hlong
          rw [drawn_of_program hrenderer hencodable, if_pos hlong] at hoffer
          cases hoffer
        exact leaves_tried_external_of_program hrenderer hencodable hshort hoffer target
    · rw [drawn_of_not_encodable hencodable] at hoffer
      obtain rfl := Except.ok.inj hoffer
      exact leaves_tried_external_of_not_encodable hencodable timeout directory target

end External

/-! ## Order -/

/-- The first image that is offered. -/
def firstOffer (offers : List Offer) (w : Workspace) (diagram : Text) (directory : Path) :
    Option (List UInt8) :=
  offers.findSome? fun offer => (offer w diagram directory).toOption.join

variable {diagram : Text} {directory : Path} {offers : List Offer} {offer : Offer}
variable {strategies : List Strategy} {strategy : Strategy}

theorem firstOffer_cons (offer : Offer) (offers : List Offer) (w : Workspace) (diagram : Text)
    (directory : Path) : firstOffer (offer :: offers) w diagram directory =
      (offer w diagram directory).toOption.join.or (firstOffer offers w diagram directory) := by
  rw [firstOffer, List.findSome?_cons]
  cases (offer w diagram directory).toOption.join <;> rfl

theorem offer_events_of_mem (h : List.Forall₂ Makes strategies offers) (hmem : offer ∈ offers)
    (w : Workspace) (events : List Event) : offer { w with events } = offer w := by
  induction h with
  | nil => cases hmem
  | cons hmakes hrest ih =>
    rcases List.mem_cons.1 hmem with rfl | hmem
    · exact hmakes.offer_events w events
    · exact ih hmem

theorem firstOffer_events (h : List.Forall₂ Makes strategies offers) (w : Workspace)
    (events : List Event) : firstOffer offers { w with events } = firstOffer offers w := by
  funext diagram directory
  induction h with
  | nil => rfl
  | cons hmakes hrest ih =>
    rw [firstOffer_cons, firstOffer_cons, hmakes.offer_events w events, ih]

/-- After a trial without success the next strategy is tried. -/
theorem run_first_cons {b : Bool} {w' : Workspace}
    (h : (attempt strategy diagram directory target).run w = .ok b w')
    (rest : List Strategy) : (first (strategy :: rest) diagram directory target).run w =
      if b then .ok true w' else (first rest diagram directory target).run w' := by
  have hfirst := run_bind (attempt strategy diagram directory target)
    (fun b => if b then pure true else first rest diagram directory target) w
  rw [h] at hfirst
  cases b <;> exact hfirst

/-- A failure that is not handled ends the search. -/
theorem run_first_of_error {f : Failure} (hmakes : Makes strategy offer)
    (h : offer w diagram directory = .error f) (target : Path) (rest : List Strategy) :
    (first (strategy :: rest) diagram directory target).run w = .error f w := by
  have hfirst := run_bind (attempt strategy diagram directory target)
    (fun b => if b then pure true else first rest diagram directory target) w
  rw [hmakes.run_attempt h] at hfirst
  exact hfirst

/-- **Trying strategies in order** writes the first offer there is, or nothing, unless one of them
fails unhandled. -/
theorem first_cases (h : List.Forall₂ Makes strategies offers) (w : Workspace) (diagram : Text)
    (directory target : Path) :
    Leaves (first strategies diagram directory target) w
        (place w target (firstOffer offers w diagram directory)) ∨
      ∃ offer ∈ offers, ∃ f, offer w diagram directory = .error f ∧
        ∃ events,
          (first strategies diagram directory target).run w = .error f { w with events } := by
  induction h generalizing w with
  | nil => exact .inl (leaves_pure_false w)
  | @cons strategy offer strategies offers hmakes hrest ih =>
    cases hoffer : offer w diagram directory with
    | error f =>
      exact .inr ⟨offer, List.mem_cons_self, f, hoffer, w.events,
        run_first_of_error hmakes hoffer target strategies⟩
    | ok image =>
      obtain ⟨events, hattempt⟩ := hmakes.leaves_attempt hoffer target
      have hfirst := run_first_cons hattempt strategies
      have hoffers := firstOffer_cons offer offers w diagram directory
      rw [hoffer] at hoffers
      change _ = image.or _ at hoffers
      cases hplace : place w target image with
      | some store =>
        obtain ⟨bytes, rfl, -⟩ := place_eq_some_iff.1 hplace
        rw [hplace] at hfirst
        rw [hoffers, Option.some_or, hplace]
        exact .inl ⟨events, hfirst⟩
      | none =>
        -- The next strategy finds the same files.
        rw [hplace] at hfirst
        have hsame : place w target (firstOffer (offer :: offers) w diagram directory) =
            place w target (firstOffer offers w diagram directory) := by
          rw [hoffers]
          cases image with
          | none => rw [Option.none_or]
          | some bytes => rw [place_eq_none_of_some hplace, place_eq_none_of_some hplace]
        rw [hsame]
        rcases ih { w with events } with ⟨events', hnext⟩ | ⟨other, hmem, f, hf, events', hnext⟩
        · rw [firstOffer_events hrest] at hnext
          exact .inl ⟨events', hfirst.trans hnext⟩
        · rw [offer_events_of_mem hrest hmem] at hf
          exact .inr ⟨other, List.mem_cons_of_mem offer hmem, f, hf, events', hfirst.trans hnext⟩

/-- What the strategies of settings offer, in order. -/
def offersOf (s : Settings) : List Offer :=
  (if s.useRenderer then [drawn s.rendererTimeout] else []) ++ [copied s.latestArtifact, onePixel]

theorem makes_ofSettings (s : Settings) : List.Forall₂ Makes (ofSettings s) (offersOf s) := by
  have hcopies : List.Forall₂ Makes [copy s.latestArtifact, placeholder]
      [copied s.latestArtifact, onePixel] :=
    .cons (makes_copy _) (.cons makes_placeholder .nil)
  unfold ofSettings offersOf
  cases s.useRenderer with
  | false => exact hcopies
  | true => exact .cons (makes_external _) hcopies

/-- With settings, only the external renderer can fail unhandled. -/
theorem exists_offersOf_eq_error_iff {s : Settings} {f : Failure} :
    (∃ offer ∈ offersOf s, offer w diagram directory = .error f) ↔
      s.useRenderer = true ∧ Overruns s.rendererTimeout w diagram ∧
        f = .overlongTimeout s.rendererTimeout := by
  rw [← drawn_eq_error_iff directory, offersOf]
  cases s.useRenderer <;> simp [copied, onePixel]

end Groundplan.Strategy

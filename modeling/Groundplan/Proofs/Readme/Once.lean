import Groundplan.Readme.Insertion
import Groundplan.Proofs.Artifact
import Groundplan.Proofs.Readme.Placement
import Groundplan.Proofs.Template.Reading
import Groundplan.Proofs.Text.Utf8

/-!
# A README gets a diagram at most once

**Done.** A README is done when it can be read and has a diagram (`Done`). A README that was done is
left as it is (`Inserts.after_of_done`), and one that has been changed is done
(`Inserts.done_of_true`): what was inserted is recognised when the README is read the next time,
whatever the diagram says and wherever it went.

**Runs.** A run is a list of calls on one README, each with its own settings, clock and external
renderer (`turns`). A call may fail; the run goes on from what it left.

Main result: `inserted_at_most_once`.
-/

namespace Groundplan

open Session Store

namespace Session

variable {path : Path} {w : Workspace} {t : Text}

/-- A text is read from bytes that are one. -/
theorem answer_readText_eq_ok_iff : (readText path).answer w = .ok t ↔
    ∃ bytes t', w.store.read w.here path = .ok bytes ∧ Utf8.decode bytes = .ok t' ∧
      t = Text.universalNewlines t' := by
  rw [readText, answer_bind, readBytes, answer_ask]
  cases w.store.read w.here path with
  | error fault => simp [Except.mapError]
  | ok bytes =>
    cases h : Utf8.decode bytes with
    | error e => simp [Except.mapError, h]
    | ok t' => simp [Except.mapError, h, eq_comm]

theorem answer_readText?_eq_some_iff :
    (readText? path).answer w = .ok (some t) ↔ (readText path).answer w = .ok t := by
  rw [readText?, answer_recover, answer_map]
  cases (readText path).answer w with
  | ok t' => simp [Except.map]
  | error e =>
    simp only [Except.map]
    split
    · show ((fun _ => none) <$> report (.cannotReadText path e)).answer _ = _ ↔ _
      rw [answer_map]
      simp [Except.map]
    · simp

end Session

namespace Readme

/-- The README can be read and has a diagram. -/
def Done (readme : Path) (w : Workspace) : Prop :=
  ∃ content, (readText readme).answer w = .ok content ∧ hasDiagram content = true

/-- Whether a README is done depends on the files only. -/
theorem Done.of_sameFiles {readme : Path} {w w' : Workspace} (h : Done readme w)
    (hfiles : SameFiles w w') : Done readme w' := by
  obtain ⟨content, hread, hdiagram⟩ := h
  exact ⟨content, by rw [(reads_readText readme w).2 w' hfiles, hread], hdiagram⟩

section Activities

variable {s : Settings} {withImage : Bool} {readme template : Path} {diagram content t : Text}
variable {w w' : Workspace} {store : Store}

/-! ## One activity -/

/-- An activity on a README that answers whether it has put a diagram into it. When it has not, the
files are as they were. -/
structure Inserts (readme : Path) (m : Session Bool) : Prop where
  keepsKinds : Respects KeepsKinds m
  done_of_true : ∀ w, m.answer w = .ok true → Done readme (m.after w)
  sameFiles_of_false : ∀ w, m.answer w = .ok false → SameFiles w (m.after w)

theorem inserts_pure_false (readme : Path) : Inserts readme (pure false) where
  keepsKinds := keepsKinds_pure false
  done_of_true _ h := by cases h
  sameFiles_of_false w _ := .refl w

/-- Reading comes first. -/
theorem Inserts.bind {α : Type} {question : Session α} {f : α → Session Bool}
    (hq : Reads question) (hf : ∀ a, Inserts readme (f a)) : Inserts readme (question >>= f) where
  keepsKinds := hq.respects.bind fun a => (hf a).keepsKinds
  done_of_true w h := by
    rw [answer_bind] at h
    rw [after_bind]
    cases ha : question.answer w with
    | error e => simp [ha] at h
    | ok a =>
      rw [ha] at h
      exact (hf a).done_of_true _ h
  sameFiles_of_false w h := by
    rw [answer_bind] at h
    rw [after_bind]
    cases ha : question.answer w with
    | error e => simp [ha] at h
    | ok a =>
      rw [ha] at h
      exact (hq w).1.trans ((hf a).sameFiles_of_false _ h)

/-! ## The new text -/

/-- A README that can be written is rewritten. A text that cannot be encoded leaves it empty, and
nothing handles that. -/
theorem run_overwrite_of_write (h : w.store.write w.here readme (Utf8.written t) = .ok store) :
    (overwrite readme t).run w = match Utf8.encode t with
      | .ok _ => .ok true { w with store }
      | .error e => .error (.unencodable e) { w with store } := by
  have hwrite := run_writeText readme t w
  rw [h] at hwrite
  rw [overwrite, run_recover, run_bind, hwrite]
  cases Utf8.encode t <;> rfl

theorem overwrite_of_write (h : w.store.write w.here readme (Utf8.written t) = .ok store) :
    (overwrite readme t).after w = { w with store } ∧
      (Utf8.Encodable t → (overwrite readme t).answer w = .ok true) ∧
      ∀ e, Utf8.encode t = .error e → (overwrite readme t).answer w = .error (.unencodable e) := by
  rw [answer, after, run_overwrite_of_write h]
  refine ⟨by cases Utf8.encode t <;> rfl, fun hencodable => ?_, fun e he => ?_⟩
  · rw [hencodable.encode]
  · rw [he]

/-- The image of a diagram, if one is asked for. -/
def image (s : Settings) (withImage : Bool) (readme : Path) (diagram : Text) :
    Session (Option Text) :=
  if withImage then Artifact.renderBeside s diagram readme else pure none

theorem keepsKinds_image (s : Settings) (withImage : Bool) (readme : Path) (diagram : Text) :
    Respects KeepsKinds (image s withImage readme diagram) := by
  unfold image
  split
  · exact Artifact.keepsKinds_renderBeside s diagram readme
  · exact keepsKinds_pure none

/-- What happens to a README that has no diagram and this text. -/
def extend (s : Settings) (withImage : Bool) (readme : Path) (diagram content : Text) :
    Session Bool := do
  match insert? content diagram (← image s withImage readme diagram) s.imagesDir with
  | none => return false
  | some content => overwrite readme content

theorem insertInto_eq : insertInto s withImage readme diagram =
    readText? readme >>= fun
      | none => pure false
      | some content =>
        if hasDiagram content then report (.hasDiagram readme) >>= fun _ => pure false
        else extend s withImage readme diagram content := by
  unfold insertInto extend image
  cases withImage <;> rfl

/-- When the image is settled, a README that has no diagram is rewritten. It can be written:
rendering has left the README a file. Only a text that cannot be encoded ends this in a failure. -/
theorem extend_of_image {name : Option Text} (hread : (readText readme).answer w = .ok content)
    (hnone : hasDiagram content = false)
    (himage : (image s withImage readme diagram).answer w = .ok name) :
    ∃ text store, insert? content diagram name s.imagesDir = some text ∧
      ((image s withImage readme diagram).after w).store.write w.here readme
        (Utf8.written text) = .ok store ∧
      (extend s withImage readme diagram content).after w =
        { (image s withImage readme diagram).after w with store } ∧
      (Utf8.Encodable text → (extend s withImage readme diagram content).answer w = .ok true) ∧
      ∀ e, Utf8.encode text = .error e →
        (extend s withImage readme diagram content).answer w = .error (.unencodable e) := by
  obtain ⟨hhere, hkinds⟩ := keepsKinds_image s withImage readme diagram w
  obtain ⟨bytes, -, hbytes, -⟩ := answer_readText_eq_ok_iff.1 hread
  rw [extend, answer_bind, after_bind, himage]
  cases hinsert : insert? content diagram name s.imagesDir with
  | none =>
    rw [insert?_eq_none_iff, hnone] at hinsert
    cases hinsert
  | some text =>
    obtain ⟨store, hwrite⟩ := exists_write_of_read hbytes hkinds (Utf8.written text)
    have hoverwrite := overwrite_of_write (hhere ▸ hwrite)
    dsimp only
    rw [hinsert]
    exact ⟨text, store, rfl, hwrite, hoverwrite⟩

/-- A README that can be read and has no diagram gets one, unless making the image fails or the new
text cannot be encoded. -/
theorem extend_of_read (hread : (readText readme).answer w = .ok content)
    (hnone : hasDiagram content = false) :
    (∃ e, (extend s withImage readme diagram content).answer w = .error e) ∨
      ((extend s withImage readme diagram content).answer w = .ok true ∧
        Done readme ((extend s withImage readme diagram content).after w)) := by
  cases himage : (image s withImage readme diagram).answer w with
  | error e =>
    refine .inl ⟨e, ?_⟩
    rw [extend, answer_bind, himage]
  | ok name =>
    obtain ⟨text, store, hinsert, hwrite, hafter, htrue, hfails⟩ :=
      extend_of_image hread hnone himage
    by_cases hencodable : Utf8.Encodable text
    · refine .inr ⟨htrue hencodable, Text.universalNewlines text, ?_, ?_⟩
      · rw [hafter]
        refine answer_readText_eq_ok_iff.2 ⟨_, text, ?_, Utf8.decode_written hencodable, rfl⟩
        rw [← (keepsKinds_image s withImage readme diagram w).1] at hwrite
        exact read_of_write hwrite
      · exact hasDiagram_of_infix
          (Text.infix_universalNewlines (by decide) (fenceOpen_infix_of_insert? hinsert))
    · obtain ⟨e, he⟩ := Utf8.exists_encode_error hencodable
      exact .inl ⟨_, hfails e he⟩

/-! ## The two calls -/

/-- How an insertion can end. -/
theorem insertInto_cases (s : Settings) (withImage : Bool) (readme : Path) (diagram : Text)
    (w : Workspace) :
    (∃ e, (insertInto s withImage readme diagram).answer w = .error e) ∨
      ((insertInto s withImage readme diagram).answer w = .ok false ∧
        SameFiles w ((insertInto s withImage readme diagram).after w)) ∨
      ((insertInto s withImage readme diagram).answer w = .ok true ∧
        Done readme ((insertInto s withImage readme diagram).after w)) := by
  obtain ⟨hfiles, -⟩ := reads_readText? readme w
  rw [insertInto_eq, answer_bind, after_bind]
  cases hread : (readText? readme).answer w with
  | error e => exact .inl ⟨e, rfl⟩
  | ok text =>
    cases text with
    | none => exact .inr (.inl ⟨rfl, hfiles⟩)
    | some content =>
      dsimp only
      cases hdiagram : hasDiagram content with
      | true => exact .inr (.inl ⟨rfl, hfiles.store, hfiles.here, hfiles.reader⟩)
      | false =>
        rw [answer_readText?_eq_some_iff, ← (reads_readText readme w).2 _ hfiles] at hread
        exact (extend_of_read hread hdiagram).imp_right .inr

theorem inserts_insertInto (s : Settings) (withImage : Bool) (readme : Path) (diagram : Text) :
    Inserts readme (insertInto s withImage readme diagram) where
  keepsKinds := by
    rw [insertInto_eq]
    refine (reads_readText? readme).respects.bind fun text => ?_
    cases text with
    | none => exact keepsKinds_pure false
    | some content =>
      dsimp only
      split
      · exact (keepsKinds_report _).bind fun _ => keepsKinds_pure false
      · refine (keepsKinds_image s withImage readme diagram).bind fun name => ?_
        split
        · exact keepsKinds_pure false
        · exact keepsKinds_recover
            ((keepsKinds_writeText readme _).bind fun _ => keepsKinds_pure true)
  done_of_true w h := by
    rcases insertInto_cases s withImage readme diagram w with ⟨e, he⟩ | ⟨hfalse, -⟩ | ⟨-, hdone⟩
    · rw [he] at h
      cases h
    · rw [hfalse] at h
      cases h
    · exact hdone
  sameFiles_of_false w h := by
    rcases insertInto_cases s withImage readme diagram w with ⟨e, he⟩ | ⟨-, hfiles⟩ | ⟨htrue, -⟩
    · rw [he] at h
      cases h
    · exact hfiles
    · rw [htrue] at h
      cases h

/-- A README that is done gets no second diagram. -/
theorem answer_insertInto_of_done (h : Done readme w) :
    (insertInto s withImage readme diagram).answer w = .ok false := by
  obtain ⟨content, hread, hdiagram⟩ := h
  rw [insertInto_eq, answer_bind, answer_readText?_eq_some_iff.2 hread]
  dsimp only
  rw [if_pos hdiagram]
  rfl

theorem reads_isDone (readme : Path) : Reads (isDone readme) := by
  refine (reads_readText? readme).bind fun text => ?_
  cases text with
  | none => exact reads_pure false
  | some content => exact reads_pure _

theorem inserts_ensure (s : Settings) (withImage : Bool) (template : Path) :
    Inserts (template ++ Path.ofText s.readmeFile) (ensure s withImage template) := by
  refine Inserts.bind (reads_isFile _) fun b => ?_
  cases b with
  | false => exact Inserts.bind (reads_report _) fun _ => inserts_pure_false _
  | true =>
    refine Inserts.bind (reads_isDone _) fun b => ?_
    cases b with
    | true => exact inserts_pure_false _
    | false =>
      exact Inserts.bind (Drawing.reads_make s template) fun drawing =>
        inserts_insertInto s withImage _ drawing.diagram

/-- The README of a template that is done gets no second diagram. -/
theorem answer_ensure_of_done (h : Done (template ++ Path.ofText s.readmeFile) w) :
    (ensure s withImage template).answer w = .ok false := by
  obtain ⟨content, hread, hdiagram⟩ := h
  obtain ⟨bytes, t, hbytes, -, -⟩ := answer_readText_eq_ok_iff.1 hread
  have hfile : (Session.isFile (template ++ Path.ofText s.readmeFile)).answer w = .ok true := by
    rw [Session.isFile, answer_ask, isFile_of_read hbytes]
    rfl
  have hdone : (isDone (template ++ Path.ofText s.readmeFile)).answer w = .ok true := by
    rw [isDone, answer_bind, answer_readText?_eq_some_iff.2 hread]
    simp [hdiagram]
  have hfiles := (reads_isFile (template ++ Path.ofText s.readmeFile) w).1
  have hdone' := ((reads_isDone _ w).2 _ hfiles).trans hdone
  rw [ensure, answer_bind, hfile]
  dsimp only
  rw [if_pos rfl, answer_bind, hdone']
  rfl

end Activities

/-! ## Runs -/

/-- What is asked for in a call. -/
inductive Request where
  /-- A diagram is to be put into a README. -/
  | insert (readme : Path) (diagram : Text)
  /-- The README of a template is to get the drawing of the template. -/
  | ensure (template : Path)

/-- A call, with what holds at its time. -/
structure Call where
  settings : Settings
  withImage : Bool
  clock : Nat
  renderer : Renderer
  request : Request

namespace Call

/-- The README that a call is about. -/
def readme (c : Call) : Path :=
  match c.request with
  | .insert readme _ => readme
  | .ensure template => template ++ Path.ofText c.settings.readmeFile

/-- What a call does. -/
def session (c : Call) : Session Bool :=
  match c.request with
  | .insert readme diagram => insertInto c.settings c.withImage readme diagram
  | .ensure template => Readme.ensure c.settings c.withImage template

/-- The workspace at the time of a call. -/
def enter (c : Call) (w : Workspace) : Workspace :=
  { w with clock := c.clock, renderer := c.renderer }

theorem sameFiles_enter (c : Call) (w : Workspace) : SameFiles w (c.enter w) :=
  ⟨rfl, rfl, rfl⟩

theorem inserts_session (c : Call) : Inserts c.readme c.session := by
  unfold readme session
  cases c.request with
  | insert readme diagram => exact inserts_insertInto c.settings c.withImage readme diagram
  | ensure template => exact inserts_ensure c.settings c.withImage template

theorem answer_session_of_done {c : Call} {w : Workspace} (h : Done c.readme w) :
    c.session.answer w = .ok false := by
  unfold readme session at *
  cases hrequest : c.request with
  | insert readme diagram =>
    rw [hrequest] at h
    exact answer_insertInto_of_done h
  | ensure template =>
    rw [hrequest] at h
    exact answer_ensure_of_done h

end Call

/-- What a call of a run has done. -/
structure Turn where
  before : Store
  after : Store
  /-- What the call answered; nothing if it failed. -/
  answer : Option Bool

/-- The calls of a run, one after the other. A call finds the files that the one before it left,
also if that one failed. -/
def turns : List Call → Workspace → List Turn
  | [], _ => []
  | c :: cs, w =>
    ⟨w.store, (c.session.after (c.enter w)).store, (c.session.answer (c.enter w)).toOption⟩ ::
      turns cs (c.session.after (c.enter w))

/-- The turn has put a diagram into the README. -/
def Turn.hasInserted (t : Turn) : Bool := t.answer == some true

section Runs

variable {readme : Path} {w : Workspace} {calls : List Call}

/-- One call on a README that is done leaves it so. -/
theorem sameFiles_session_of_done {c : Call} (h : Done c.readme w) :
    c.session.answer (c.enter w) = .ok false ∧ SameFiles w (c.session.after (c.enter w)) := by
  have henter := c.sameFiles_enter w
  have hanswer := Call.answer_session_of_done (h.of_sameFiles henter)
  exact ⟨hanswer, henter.trans (c.inserts_session.sameFiles_of_false _ hanswer)⟩

/-- In a run on a README that is done nothing happens. -/
theorem turns_of_done (hdone : Done readme w) (h : ∀ c ∈ calls, c.readme = readme) :
    ∀ t ∈ turns calls w, t.answer = some false ∧ t.after = t.before := by
  induction calls generalizing w with
  | nil => exact fun t ht => absurd ht List.not_mem_nil
  | cons c cs ih =>
    rw [List.forall_mem_cons] at h
    obtain ⟨rfl, h⟩ := h
    obtain ⟨hanswer, hfiles⟩ := sameFiles_session_of_done hdone
    intro t ht
    rcases List.mem_cons.1 ht with rfl | ht
    · exact ⟨toOption_eq_some_iff.2 hanswer, hfiles.store⟩
    · exact ih (hdone.of_sameFiles hfiles) h t ht

/-- After a turn that has put a diagram into the README, nothing happens any more. -/
theorem pairwise_turns (w : Workspace) (h : ∀ c ∈ calls, c.readme = readme) :
    (turns calls w).Pairwise fun t u =>
      t.answer = some true → u.answer = some false ∧ u.after = u.before := by
  induction calls generalizing w with
  | nil => exact List.Pairwise.nil
  | cons c cs ih =>
    rw [List.forall_mem_cons] at h
    obtain ⟨rfl, h⟩ := h
    refine List.Pairwise.cons (fun u hu htrue => ?_) (ih _ h)
    have hdone := c.inserts_session.done_of_true _ (toOption_eq_some_iff.1 htrue)
    exact turns_of_done hdone h u hu

/-- A turn that answers no has changed nothing. -/
theorem after_eq_before_of_false (calls : List Call) (w : Workspace) :
    ∀ t ∈ turns calls w, t.answer = some false → t.after = t.before := by
  induction calls generalizing w with
  | nil => exact fun t ht => absurd ht List.not_mem_nil
  | cons c cs ih =>
    intro t ht hfalse
    rcases List.mem_cons.1 ht with rfl | ht
    · exact ((c.sameFiles_enter w).trans
        (c.inserts_session.sameFiles_of_false _ (toOption_eq_some_iff.1 hfalse))).store
    · exact ih _ t ht hfalse

theorem countP_le_one {α : Type} {p : α → Bool} {l : List α}
    (h : l.Pairwise fun a b => p a = true → p b = false) : l.countP p ≤ 1 := by
  induction l with
  | nil => exact Nat.zero_le 1
  | cons a l ih =>
    rw [List.pairwise_cons] at h
    by_cases ha : p a = true
    · have hnone : l.countP p = 0 :=
        List.countP_eq_zero.2 fun b hb => Bool.eq_false_iff.1 (h.1 b hb ha)
      simp [ha, hnone]
    · rw [List.countP_cons_of_neg ha]
      exact ih h.2

/-- **A README gets a diagram at most once.** In every run of calls on one README, at most one
answers yes; after it every call answers no and leaves all files as they are; and so does every
other call that answers no. -/
theorem inserted_at_most_once (w : Workspace) (readme : Path) (calls : List Call)
    (h : ∀ c ∈ calls, c.readme = readme) :
    (turns calls w).countP Turn.hasInserted ≤ 1 ∧
      (turns calls w).Pairwise (fun t u =>
        t.answer = some true → u.answer = some false ∧ u.after = u.before) ∧
      ∀ t ∈ turns calls w, t.answer = some false → t.after = t.before := by
  have hlater := pairwise_turns w h
  refine ⟨countP_le_one (hlater.imp fun {t u} htu ht => ?_), hlater,
    after_eq_before_of_false calls w⟩
  rw [Turn.hasInserted, beq_iff_eq] at ht
  rw [Turn.hasInserted, (htu ht).1]
  rfl

end Runs

/-- A directory with a README that has no diagram. -/
def shopFiles : Workspace :=
  { (default : Workspace) with
    store.entries := OrderedMap.ofList [
      (["README.md"], .file (Utf8.written "# Shop\n\n## Requirements\n"))] }

/-- A diagram with an image, the same without one, and the drawing of the directory. -/
def shopCalls : List Call := [
  { settings := {}, withImage := true, clock := 5, renderer := .absent,
    request := .insert (Path.ofText "README.md") Flowchart.placeholder },
  { settings := {}, withImage := false, clock := 5, renderer := .absent,
    request := .insert (Path.ofText "README.md") Flowchart.placeholder },
  { settings := {}, withImage := true, clock := 8, renderer := .unusable "not found",
    request := .ensure Path.here }]

theorem inserted_at_most_once_shop :
    (∀ c ∈ shopCalls, c.readme = Path.ofText "README.md") ∧
      (turns shopCalls shopFiles).map Turn.answer = [some true, some false, some false] ∧
      (turns shopCalls shopFiles).countP Turn.hasInserted ≤ 1 := by
  have hreadme : ∀ c ∈ shopCalls, c.readme = Path.ofText "README.md" := by decide
  have hanswers : (turns shopCalls shopFiles).map Turn.answer =
      [some true, some false, some false] := by decide +kernel
  exact ⟨hreadme, hanswers, (inserted_at_most_once shopFiles _ shopCalls hreadme).1⟩

end Readme

end Groundplan

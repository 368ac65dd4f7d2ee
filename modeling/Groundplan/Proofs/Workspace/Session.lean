import Mathlib.Order.Defs.Unbundled
import Groundplan.Workspace
import Groundplan.Proofs.Files.Store
import Groundplan.Proofs.Text.Utf8

/-!
# What activities do to files

**Endings.** Every run of an activity has an answer, which is a result or a failure, and leaves a
workspace (`answer`, `after`). Both are computed step by step (`answer_bind`, `after_bind`,
`answer_recover`, `after_recover`).

**Readers.** An activity `Reads` when it leaves the files as they are and its answer depends on them
only. Questions about paths do, and so does everything that is built from them.

**Frames.** An activity `Respects` a relation of stores when it takes each store to a related one,
with or without success. A preorder is respected by everything that is built from steps that
respect it; readers respect every one (`Reads.respects`).
-/

namespace Groundplan

namespace Session

variable {α β : Type} {m : Session α} {f : α → Session β} {w w' : Workspace}

/-! ## Endings -/

/-- How a run ends. -/
def answer (m : Session α) (w : Workspace) : Except Failure α :=
  match m.run w with
  | .ok a _ => .ok a
  | .error e _ => .error e

/-- The workspace that a run leaves, with or without success. -/
def after (m : Session α) (w : Workspace) : Workspace :=
  match m.run w with
  | .ok _ w' => w'
  | .error _ w' => w'

theorem run_of_answer_ok {a : α} (h : m.answer w = .ok a) : m.run w = .ok a (m.after w) := by
  unfold answer at h
  unfold after
  cases hrun : m.run w with
  | ok b w' =>
    rw [hrun] at h
    cases h
    rfl
  | error e w' =>
    rw [hrun] at h
    cases h

theorem run_of_answer_error {e : Failure} (h : m.answer w = .error e) :
    m.run w = .error e (m.after w) := by
  unfold answer at h
  unfold after
  cases hrun : m.run w with
  | ok b w' =>
    rw [hrun] at h
    cases h
  | error e w' =>
    rw [hrun] at h
    cases h
    rfl

theorem toOption_eq_some_iff {r : Except Failure α} {a : α} :
    r.toOption = some a ↔ r = .ok a := by
  cases r <;> simp [Except.toOption]

@[simp] theorem answer_pure (a : α) (w : Workspace) : (pure a : Session α).answer w = .ok a := rfl

@[simp] theorem after_pure (a : α) (w : Workspace) : (pure a : Session α).after w = w := rfl

@[simp] theorem answer_throw (e : Failure) (w : Workspace) :
    (throw e : Session α).answer w = .error e := rfl

@[simp] theorem after_throw (e : Failure) (w : Workspace) : (throw e : Session α).after w = w := rfl

@[simp] theorem answer_get (w : Workspace) : (get : Session Workspace).answer w = .ok w := rfl

@[simp] theorem after_get (w : Workspace) : (get : Session Workspace).after w = w := rfl

@[simp] theorem answer_report (e : Event) (w : Workspace) : (report e).answer w = .ok () := rfl

@[simp] theorem after_report (e : Event) (w : Workspace) :
    (report e).after w = { w with events := w.events ++ [e] } := rfl

theorem run_bind (m : Session α) (f : α → Session β) (w : Workspace) :
    (m >>= f).run w = match m.run w with
      | .ok a w' => (f a).run w'
      | .error e w' => .error e w' := by
  show EStateM.bind m f w = _
  delta EStateM.bind
  cases h : m.run w with
  | ok a w' =>
    have h : m w = .ok a w' := h
    rw [h]
    rfl
  | error e w' =>
    have h : m w = .error e w' := h
    rw [h]

theorem answer_bind (m : Session α) (f : α → Session β) (w : Workspace) :
    (m >>= f).answer w = match m.answer w with
      | .ok a => (f a).answer (m.after w)
      | .error e => .error e := by
  unfold answer after
  rw [run_bind]
  cases m.run w <;> rfl

theorem after_bind (m : Session α) (f : α → Session β) (w : Workspace) :
    (m >>= f).after w = match m.answer w with
      | .ok a => (f a).after (m.after w)
      | .error _ => m.after w := by
  unfold answer after
  rw [run_bind]
  cases m.run w <;> rfl

theorem run_recover (p : FailureKind → Bool) (m : Session α) (handle : Failure → Session α)
    (w : Workspace) :
    (recover p m handle).run w = match m.run w with
      | .ok a w' => .ok a w'
      | .error e w' => if p e.kind then (handle e).run w' else .error e w' := by
  show EStateM.tryCatch m (fun e => if p e.kind then handle e else throw e) w = _
  delta EStateM.tryCatch
  cases h : m.run w with
  | ok a w' =>
    have h : m w = .ok a w' := h
    rw [h]
  | error e w' =>
    have h : m w = .error e w' := h
    rw [h]
    cases hp : p e.kind <;> simp only [hp] <;> rfl

theorem run_recover_congr {m' : Session α} (h : m.run w = m'.run w) (p : FailureKind → Bool)
    (handle : Failure → Session α) :
    (recover p m handle).run w = (recover p m' handle).run w := by
  rw [run_recover, run_recover, h]

theorem answer_recover (p : FailureKind → Bool) (m : Session α) (handle : Failure → Session α)
    (w : Workspace) :
    (recover p m handle).answer w = match m.answer w with
      | .ok a => .ok a
      | .error e => if p e.kind then (handle e).answer (m.after w) else .error e := by
  unfold answer after
  rw [run_recover]
  cases m.run w with
  | ok a w' => rfl
  | error e w' => cases hp : p e.kind <;> simp only [hp] <;> rfl

theorem after_recover (p : FailureKind → Bool) (m : Session α) (handle : Failure → Session α)
    (w : Workspace) :
    (recover p m handle).after w = match m.answer w with
      | .ok _ => m.after w
      | .error e => if p e.kind then (handle e).after (m.after w) else m.after w := by
  unfold answer after
  rw [run_recover]
  cases m.run w with
  | ok a w' => rfl
  | error e w' => cases hp : p e.kind <;> simp only [hp] <;> rfl

theorem answer_map (g : α → β) (m : Session α) (w : Workspace) :
    (g <$> m).answer w = (m.answer w).map g := by
  rw [← bind_pure_comp, answer_bind]
  cases m.answer w <;> rfl

theorem after_map (g : α → β) (m : Session α) (w : Workspace) :
    (g <$> m).after w = m.after w := by
  rw [← bind_pure_comp, after_bind]
  cases m.answer w <;> rfl

theorem run_ask (path : Path) (question : Store → Location → Path → Except FileFault α)
    (w : Workspace) :
    (ask path question).run w = match question w.store w.here path with
      | .ok a => .ok a w
      | .error fault => .error (.file fault path) w := by
  rw [ask, run_bind]
  show (match question w.store w.here path with
    | .ok a => pure a
    | .error fault => throw (.file fault path) : Session α).run w = _
  cases question w.store w.here path <;> rfl

theorem answer_ask (path : Path) (question : Store → Location → Path → Except FileFault α)
    (w : Workspace) :
    (ask path question).answer w =
      (question w.store w.here path).mapError fun fault => .file fault path := by
  rw [answer, run_ask]
  cases question w.store w.here path <;> rfl

theorem answer_ask_eq_ok_iff {path : Path}
    {question : Store → Location → Path → Except FileFault α} {w : Workspace} {a : α} :
    (ask path question).answer w = .ok a ↔ question w.store w.here path = .ok a := by
  rw [answer_ask]
  cases question w.store w.here path with
  | ok b =>
    constructor
    · intro h
      rw [Except.ok.inj h]
    · intro h
      rw [Except.ok.inj h]
      rfl
  | error fault => exact iff_of_false (by rintro ⟨⟩) (by rintro ⟨⟩)

theorem after_ask (path : Path) (question : Store → Location → Path → Except FileFault α)
    (w : Workspace) : (ask path question).after w = w := by
  rw [after, run_ask]
  cases question w.store w.here path <;> rfl

/-! ## Readers -/

/-- The files are the same, and so are the place from which paths are followed and the way in which
documents are read. -/
structure SameFiles (w w' : Workspace) : Prop where
  store : w'.store = w.store
  here : w'.here = w.here
  reader : w'.reader = w.reader

theorem SameFiles.refl (w : Workspace) : SameFiles w w := ⟨rfl, rfl, rfl⟩

theorem SameFiles.symm (h : SameFiles w w') : SameFiles w' w :=
  ⟨h.store.symm, h.here.symm, h.reader.symm⟩

theorem SameFiles.trans {w'' : Workspace} (h : SameFiles w w') (h' : SameFiles w' w'') :
    SameFiles w w'' :=
  ⟨h'.store.trans h.store, h'.here.trans h.here, h'.reader.trans h.reader⟩

/-- The activity leaves the files as they are, and its answer depends on them only. -/
def Reads (m : Session α) : Prop :=
  ∀ w, SameFiles w (m.after w) ∧ ∀ w', SameFiles w w' → m.answer w' = m.answer w

theorem reads_pure (a : α) : Reads (pure a) := fun w => ⟨.refl w, fun _ _ => rfl⟩

theorem reads_throw (e : Failure) : Reads (throw e : Session α) :=
  fun w => ⟨.refl w, fun _ _ => rfl⟩

/-- What would come after a failure does not matter. -/
theorem reads_throw_bind (e : Failure) (f : α → Session β) : Reads (throw e >>= f) :=
  fun w => ⟨.refl w, fun _ _ => rfl⟩

/-- Reporting reads nothing, and the events are no files. -/
theorem reads_report (e : Event) : Reads (report e) := fun _ =>
  ⟨⟨rfl, rfl, rfl⟩, fun _ _ => rfl⟩

theorem reads_ask (path : Path) (question : Store → Location → Path → Except FileFault α) :
    Reads (ask path question) := by
  intro w
  refine ⟨by rw [after_ask]; exact .refl w, fun w' h => ?_⟩
  rw [answer_ask, answer_ask, h.store, h.here]

theorem Reads.bind (hm : Reads m) (hf : ∀ a, Reads (f a)) : Reads (m >>= f) := by
  intro w
  obtain ⟨hafter, hanswer⟩ := hm w
  constructor
  · rw [after_bind]
    cases m.answer w with
    | ok a => exact hafter.trans (hf a _).1
    | error e => exact hafter
  · intro w' h
    rw [answer_bind, answer_bind, hanswer w' h]
    cases m.answer w with
    | ok a => exact (hf a _).2 _ (hafter.symm.trans (h.trans (hm w').1))
    | error e => rfl

/-- What is done with the files and the reader of documents. -/
theorem reads_get_bind {f : Workspace → Session β} (h : ∀ w w', SameFiles w w' → f w' = f w)
    (hf : ∀ w, Reads (f w)) : Reads (get >>= f) := by
  intro w
  obtain ⟨hafter, hanswer⟩ := hf w w
  refine ⟨hafter, fun w' hsame => ?_⟩
  show (f w').answer w' = _
  rw [h w w' hsame]
  exact hanswer w' hsame

theorem Reads.map (hm : Reads m) (g : α → β) : Reads (g <$> m) := by
  rw [← bind_pure_comp]
  exact hm.bind fun a => reads_pure (g a)

theorem Reads.recover {p : FailureKind → Bool} {handle : Failure → Session α} (hm : Reads m)
    (hhandle : ∀ e, Reads (handle e)) : Reads (recover p m handle) := by
  intro w
  obtain ⟨hafter, hanswer⟩ := hm w
  constructor
  · rw [after_recover]
    cases m.answer w with
    | ok a => exact hafter
    | error e =>
      cases hp : p e.kind with
      | false => simpa [hp] using hafter
      | true => simpa [hp] using hafter.trans (hhandle e _).1
  · intro w' h
    rw [answer_recover, answer_recover, hanswer w' h]
    cases m.answer w with
    | ok a => rfl
    | error e =>
      cases hp : p e.kind with
      | false => simp [hp]
      | true => simpa [hp] using (hhandle e _).2 _ (hafter.symm.trans (h.trans (hm w').1))

theorem reads_ite {c : Prop} [Decidable c] {m' : Session α} (hm : Reads m) (hm' : Reads m') :
    Reads (if c then m else m') := by
  split
  · exact hm
  · exact hm'

/-- Asking about one element after the other. -/
theorem reads_filterM {p : α → Session Bool} (h : ∀ a, Reads (p a)) (l : List α) :
    Reads (l.filterM p) := by
  suffices haux : ∀ acc, Reads (l.filterAuxM p acc) from
    (haux []).bind fun as => reads_pure as.reverse
  induction l with
  | nil => exact fun acc => reads_pure acc
  | cons a l ih => exact fun acc => (h a).bind fun b => ih _

theorem reads_findM? {p : α → Session Bool} (h : ∀ a, Reads (p a)) (l : List α) :
    Reads (l.findM? p) := by
  induction l with
  | nil => exact reads_pure none
  | cons a l ih =>
    refine (h a).bind fun b => ?_
    cases b with
    | true => exact reads_pure (some a)
    | false => exact ih

theorem reads_forM {step : α → Session PUnit} (h : ∀ a, Reads (step a)) (l : List α) :
    Reads (forIn l PUnit.unit fun a _ => do step a; pure (ForInStep.yield PUnit.unit)) := by
  induction l with
  | nil => exact reads_pure _
  | cons a l ih =>
    rw [List.forIn_cons]
    exact ((h a).bind fun _ => reads_pure _).bind fun r => by
      cases r with
      | done b => exact reads_pure b
      | yield b => exact ih

/-! ## Frames -/

variable {Q : Store → Store → Prop}

/-- With or without success, the activity takes the store to a related one. The working directory
stays where it is. -/
def Respects (Q : Store → Store → Prop) (m : Session α) : Prop :=
  ∀ w, (m.after w).here = w.here ∧ Q w.store (m.after w).store

/-- What only reads respects everything. -/
theorem Reads.respects [Std.Refl Q] (h : Reads m) : Respects Q m := by
  intro w
  have hsame := (h w).1
  exact ⟨hsame.here, by rw [hsame.store]; exact Std.Refl.refl w.store⟩

theorem Respects.bind [IsTrans Store Q] (hm : Respects Q m) (hf : ∀ a, Respects Q (f a)) :
    Respects Q (m >>= f) := by
  intro w
  obtain ⟨hhere, hstore⟩ := hm w
  rw [after_bind]
  cases m.answer w with
  | ok a =>
    obtain ⟨hhere', hstore'⟩ := hf a (m.after w)
    exact ⟨hhere'.trans hhere, IsTrans.trans _ _ _ hstore hstore'⟩
  | error e => exact ⟨hhere, hstore⟩

theorem Respects.recover [IsTrans Store Q] {p : FailureKind → Bool}
    {handle : Failure → Session α} (hm : Respects Q m) (hhandle : ∀ e, Respects Q (handle e)) :
    Respects Q (recover p m handle) := by
  intro w
  obtain ⟨hhere, hstore⟩ := hm w
  rw [after_recover]
  cases m.answer w with
  | ok a => exact ⟨hhere, hstore⟩
  | error e =>
    obtain ⟨hhere', hstore'⟩ := hhandle e (m.after w)
    cases hp : p e.kind with
    | false => simpa [hp] using ⟨hhere, hstore⟩
    | true => simpa [hp] using ⟨hhere'.trans hhere, IsTrans.trans _ _ _ hstore hstore'⟩

/-! ## Changes -/

theorem run_change (path : Path) (f : Store → Location → Path → Except FileFault Store)
    (w : Workspace) :
    (change path f).run w = match f w.store w.here path with
      | .ok store => .ok () { w with store }
      | .error fault => .error (.file fault path) w := by
  rw [change, run_bind, run_ask]
  cases f w.store w.here path <;> rfl

/-! The ending of a text that is written: the path is opened first, and the text is encoded then. -/

theorem run_writeText (path : Path) (t : Text) (w : Workspace) :
    (writeText path t).run w =
      match w.store.write w.here path (Utf8.written t), Utf8.encode t with
      | .error fault, _ => .error (.file fault path) w
      | .ok store, .error e => .error (.unencodable e) { w with store }
      | .ok store, .ok _ => .ok () { w with store } := by
  rw [writeText, run_bind, writeBytes, run_change]
  cases w.store.write w.here path (Utf8.written t) with
  | error fault => rfl
  | ok store => cases Utf8.encode t <;> rfl

theorem after_writeText (path : Path) (t : Text) (w : Workspace) :
    (writeText path t).after w = match w.store.write w.here path (Utf8.written t) with
      | .ok store => { w with store }
      | .error _ => w := by
  rw [after, run_writeText]
  cases w.store.write w.here path (Utf8.written t) with
  | error fault => rfl
  | ok store => cases Utf8.encode t <;> rfl

theorem respects_writeText [Std.Refl Q] {path : Path} {t : Text}
    (h : ∀ s here s', s.write here path (Utf8.written t) = .ok s' → Q s s') :
    Respects Q (writeText path t) := by
  intro w
  rw [after_writeText]
  cases hwrite : w.store.write w.here path (Utf8.written t) with
  | ok store => exact ⟨rfl, h _ _ _ hwrite⟩
  | error fault => exact ⟨rfl, Std.Refl.refl w.store⟩

theorem after_ensureDirectory (path : Path) (w : Workspace) :
    (ensureDirectory path).after w =
      { w with store := (w.store.ensureDirectories w.here path).2 } := by
  rw [ensureDirectory, after_bind]
  dsimp only [answer_get, after_get]
  cases h : w.store.ensureDirectories w.here path with
  | mk outcome store => cases outcome <;> rfl

/-! ## Kinds -/

theorem keepsKinds_writeText (path : Path) (t : Text) :
    Respects Store.KeepsKinds (writeText path t) :=
  respects_writeText fun _ _ _ => Store.keepsKinds_of_write

theorem keepsKinds_report (e : Event) : Respects Store.KeepsKinds (report e) :=
  (reads_report e).respects

theorem keepsKinds_pure {α : Type} (a : α) : Respects Store.KeepsKinds (pure a) :=
  (reads_pure a).respects

/-- A failure that is handled by a report and an answer. -/
theorem keepsKinds_recover {α : Type} {p : FailureKind → Bool} {m : Session α}
    {event : Failure → Event} {a : α} (h : Respects Store.KeepsKinds m) :
    Respects Store.KeepsKinds (recover p m fun f => do report (event f); return a) :=
  h.recover fun f => (keepsKinds_report (event f)).bind fun _ => keepsKinds_pure a

end Session

end Groundplan

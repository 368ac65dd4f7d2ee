import Groundplan.Proofs.CommandLine.Gate
import Groundplan.Proofs.Settings.Loading

/-!
# Settings that cannot be loaded

What the program does when the settings that a command line names are not loaded.

**Complaint.** Missing settings and wrong ones end the run with status 2 and one line that says why.
Nothing is printed (`answer_run_of_isUnusable`).

**Failure.** Three things are not complained about, and end the run without an outcome
(`Unprepared`): a path that is too long to be asked about, a directory, and a failure of the reader
of documents whose class is not one that is complained about.

Either way, no file changes, and the command is not performed.

Main result: `run_of_unloadable`.
-/

namespace Groundplan

open Session

namespace CommandLine

open Settings (Unloadable)

variable {words : List Text} {a : Arguments} {t : Text} {path : Path} {w : Workspace} {f : Failure}

/-! ## What is complained about -/

/-- Loading settings fails in a way that the program is not prepared for. -/
inductive Unprepared (path : Path) (w : Workspace) : Prop where
  | tooLong (h : w.store.exists? w.here path = .error .nameTooLong)
  | directory (h : w.store.isDirectory w.here path = .ok true)
  | raised {t wording : Text} {kind : FailureKind} (h : (readText path).answer w = .ok t)
      (hread : Yaml.readLeniently w.reader t = .error (.raised kind wording))
      (hkind : isUnusable kind = false)

/-- Each of these ways is a failure of a class that is not handled. -/
theorem Unprepared.exists_unloadable (h : Unprepared path w) :
    ∃ f, Unloadable path w f ∧ isUnusable f.kind = false := by
  cases h with
  | tooLong h => exact ⟨_, .tooLong h, rfl⟩
  | directory h => exact ⟨_, .directory h, rfl⟩
  | raised h hread hkind => exact ⟨_, .raised h hread, hkind⟩

theorem Unloadable.isUnusable_eq_false_iff (h : Unloadable path w f) :
    isUnusable f.kind = false ↔ Unprepared path w := by
  constructor
  · intro hkind
    cases h with
    | tooLong h => exact .tooLong h
    | directory h => exact .directory h
    | raised h hread => exact .raised h hread hkind
    | @notSettings entries inner e h hsection hoverride => cases e <;> cases hkind
    | _ => cases hkind
  · intro hunprepared
    obtain ⟨f', hf', hkind⟩ := hunprepared.exists_unloadable
    obtain rfl := Except.error.inj (h.answer_load.symm.trans hf'.answer_load)
    exact hkind

/-! ## How the run ends -/

theorem answer_loadSettings (hvalue : a.taken.value? .settings = some t)
    (hload : (Settings.load (Path.ofText t)).answer w = .error f) :
    (loadSettings a.taken).answer w =
      if isUnusable f.kind then .ok (.error f) else .error f := by
  rw [loadSettings, hvalue]
  dsimp only
  rw [answer_recover, answer_map, hload]
  rfl

/-- Settings that cannot be used are the one thing that is complained about. -/
theorem answer_run_of_isUnusable (hread : Arguments.read words = .ok a)
    (hsettings : (loadSettings a.taken).answer w = .ok (.error f)) :
    ∃ level, (run words).answer w =
      .ok { status := 2, complaints := [.invalidSettings f], level } := by
  refine ⟨if a.taken.has .verbose then Level.debug else .warning, ?_⟩
  rw [run, hread]
  dsimp only
  rw [answer_bind, hsettings]
  rfl

/-- What loading settings does not recover from, the program does not either. -/
theorem answer_run_of_error (hread : Arguments.read words = .ok a)
    (hsettings : (loadSettings a.taken).answer w = .error f) :
    (run words).answer w = .error f := by
  rw [run, hread]
  dsimp only
  rw [answer_bind, hsettings]

/-- Without settings, no command is performed, and nothing changes but the events. -/
theorem sameFiles_run (hread : Arguments.read words = .ok a)
    (hsettings : ∀ s, (loadSettings a.taken).answer w ≠ .ok (.ok s)) :
    SameFiles w ((run words).after w) := by
  have hfiles := (reads_loadSettings a.taken w).1
  rw [run, hread]
  dsimp only
  rw [after_bind]
  cases h : (loadSettings a.taken).answer w with
  | error f => exact hfiles
  | ok r =>
    cases r with
    | error f => exact hfiles
    | ok s => exact absurd h (hsettings s)

/-- The line that says why settings cannot be used. -/
def invalidSettingsLine (f : Failure) : Text := "error: invalid config: " ++ f.message

/-- **Settings that are not loaded end the run.** Let a command line name settings that are not
loaded, in one of the ways of `Unloadable`. All files stay as they are. Unless the program is not
prepared for what happened, the run ends with status 2, has printed nothing, and says why in the
last line of the error output. If it is not prepared, the failure ends the run. -/
theorem run_of_unloadable (words : List Text) (a : Arguments) (t : Text) (w : Workspace)
    (f : Failure) (hread : Arguments.read words = .ok a)
    (hvalue : a.taken.value? .settings = some t)
    (hload : (Settings.load (Path.ofText t)).answer w = .error f) :
    Unloadable (Path.ofText t) w f ∧
    SameFiles w ((run words).after w) ∧
    (¬Unprepared (Path.ofText t) w → ∃ outcome, (run words).answer w = .ok outcome ∧
      outcome.status = 2 ∧ outcome.output = [] ∧
      ∀ wording events, (outcome.errorLines wording events).getLast? =
        some (invalidSettingsLine f)) ∧
    (Unprepared (Path.ofText t) w → (run words).answer w = .error f) := by
  have hunloadable := Settings.answer_load_eq_error_iff.1 hload
  have hsettings := answer_loadSettings hvalue hload
  refine ⟨hunloadable, sameFiles_run hread fun s => ?_, fun hprepared => ?_, fun hunprepared => ?_⟩
  · rw [hsettings]
    split <;> simp
  · have hkind : isUnusable f.kind = true := by
      rw [← Bool.not_eq_false, Unloadable.isUnusable_eq_false_iff hunloadable]
      exact hprepared
    rw [if_pos hkind] at hsettings
    obtain ⟨level, hrun⟩ := answer_run_of_isUnusable hread hsettings
    refine ⟨_, hrun, rfl, rfl, fun wording events => ?_⟩
    rw [Outcome.errorLines, List.map_singleton, List.getLast?_concat]
    rfl
  · rw [if_neg (by rw [(Unloadable.isUnusable_eq_false_iff hunloadable).2 hunprepared]; decide)]
      at hsettings
    exact answer_run_of_error hread hsettings

/-- A settings document with an unknown name, and a directory. -/
def settingsFiles : Workspace :=
  { (default : Workspace) with
    store.entries := OrderedMap.ofList [
      (["bad.yaml"], .file (Utf8.written "nope: 1\n")), (["conf"], .directory)]
    reader := readerOf "nope: 1\n" (.map [(.text "nope", .int 1)]) }

theorem run_of_unloadable_unknownKey :
    ∃ a f outcome, Arguments.read ["--config", "bad.yaml", "validate"] = .ok a ∧
      a.taken.value? .settings = some ("bad.yaml" : Text) ∧
      (Settings.load (Path.ofText "bad.yaml")).answer settingsFiles = .error f ∧
      ¬Unprepared (Path.ofText "bad.yaml") settingsFiles ∧
      (run ["--config", "bad.yaml", "validate"]).answer settingsFiles = .ok outcome ∧
      outcome.status = 2 := by
  have hwords : (Arguments.read ["--config", "bad.yaml", "validate"]).toOption.map
      (fun a => a.taken.value? .settings) =
        some (some ("bad.yaml" : Text)) := by decide +kernel
  obtain ⟨a, hread, hvalue⟩ := exists_arguments hwords
  have hkind : ((Settings.load (Path.ofText "bad.yaml")).answer settingsFiles).mapError
      Failure.kind = .error .value := by decide +kernel
  obtain ⟨f, hload, hf⟩ : ∃ f, (Settings.load (Path.ofText "bad.yaml")).answer settingsFiles =
      .error f ∧ f.kind = .value := by
    revert hkind
    cases (Settings.load (Path.ofText "bad.yaml")).answer settingsFiles with
    | error f =>
      intro h
      exact ⟨f, rfl, Except.error.inj h⟩
    | ok s =>
      intro h
      cases h
  obtain ⟨hunloadable, -, houtcome, -⟩ :=
    run_of_unloadable _ a _ settingsFiles f hread hvalue hload
  have hprepared : ¬Unprepared (Path.ofText "bad.yaml") settingsFiles := by
    rw [← Unloadable.isUnusable_eq_false_iff hunloadable, hf]
    decide
  obtain ⟨outcome, hrun, hstatus, -⟩ := houtcome hprepared
  exact ⟨a, f, outcome, hread, hvalue, hload, hprepared, hrun, hstatus⟩

/-- A directory in place of the settings ends the run without a status. -/
theorem run_fails_on_directory :
    ∃ a, Arguments.read ["--config", "conf", "analyze"] = .ok a ∧
      a.taken.value? .settings = some ("conf" : Text) ∧
      (Settings.load (Path.ofText "conf")).answer settingsFiles =
        .error (.file .isDirectory (Path.ofText "conf")) ∧
      (run ["--config", "conf", "analyze"]).answer settingsFiles =
        .error (.file .isDirectory (Path.ofText "conf")) ∧
      ¬∃ outcome, (run ["--config", "conf", "analyze"]).answer settingsFiles = .ok outcome := by
  have hwords : (Arguments.read ["--config", "conf", "analyze"]).toOption.map
      (fun a => a.taken.value? .settings) =
        some (some ("conf" : Text)) := by decide +kernel
  obtain ⟨a, hread, hvalue⟩ := exists_arguments hwords
  have hdirectory : settingsFiles.store.isDirectory settingsFiles.here (Path.ofText "conf") =
      .ok true := by decide +kernel
  have hload := (Unloadable.directory hdirectory).answer_load
  have hrun := answer_run_of_error hread (answer_loadSettings hvalue hload)
  refine ⟨a, hread, hvalue, hload, hrun, ?_⟩
  rw [hrun]
  simp

end CommandLine

end Groundplan

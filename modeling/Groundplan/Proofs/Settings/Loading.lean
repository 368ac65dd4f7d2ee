import Groundplan.Proofs.Files.Fault
import Groundplan.Proofs.Template.Reading

/-!
# Why settings are not loaded

Loading settings from a path asks whether something is there, reads it as a text, reads the text as
a mapping, takes the section with the settings, and overrides the defaults with it. Each of these
steps has failures of its own, and `Settings.Unloadable` lists them all, each with the failure that
it leads to.

**Files.** A path that is too long cannot be asked about; what is there is a directory or can be
read (`Store.exists?_eq_true_iff_isDirectory_or_read`).

**Text.** What is read from a file depends on its bytes and on the reader of documents only, and
reporting repairs does not fail (`Session.answer_readMapping`). The reader may be any function.

Main result: `Settings.answer_load_eq_error_iff`.
-/

namespace Groundplan

open Session

namespace Session

variable {path : Path} {w : Workspace} {f : Failure}

theorem answer_forM {α : Type} {step : α → Session PUnit}
    (h : ∀ a w, (step a).answer w = .ok PUnit.unit) (l : List α) (w : Workspace) :
    (forIn l PUnit.unit fun a _ => do step a; pure (ForInStep.yield PUnit.unit)).answer w =
      .ok PUnit.unit := by
  induction l generalizing w with
  | nil => rfl
  | cons a l ih =>
    rw [List.forIn_cons, answer_bind, answer_bind, h]
    exact ih _

/-- Reporting repairs does not fail. -/
theorem answer_reportRepair (path : Path) (changes : List Yaml.Repair.Change) (w : Workspace) :
    (reportRepair path changes).answer w = .ok () := by
  unfold reportRepair
  split
  · rfl
  · rw [answer_bind, answer_report, answer_bind]
    dsimp only
    rw [answer_forM fun change w => answer_report _ w]
    rfl

/-- What has a text can be read. -/
theorem exists_read_of_answer_readText {t : Text} (h : (readText path).answer w = .ok t) :
    ∃ bytes, w.store.read w.here path = .ok bytes := by
  rw [answer_readText] at h
  cases hread : w.store.read w.here path with
  | error fault => simp [hread] at h
  | ok bytes => exact ⟨bytes, rfl⟩

/-- The mapping in a file depends on its text and on the reader only. -/
theorem answer_readMapping (path : Path) (w : Workspace) :
    (readMapping path).answer w = match (readText path).answer w with
      | .error f => .error f
      | .ok t => match Yaml.readLeniently w.reader t with
        | .error (.malformed wording) => .error (.unreadable path wording)
        | .error (.raised kind wording) => .error (.raised kind wording)
        | .ok (.null, _) => .ok []
        | .ok (.map entries, _) => .ok (Value.unrolled entries)
        | .ok (value, _) => .error (.notMapping path value.typeName) := by
  rw [readMapping, answer_bind]
  cases (readText path).answer w with
  | error f => rfl
  | ok t =>
    dsimp only
    rw [answer_bind, answer_get, after_get]
    dsimp only
    rw [(reads_readText path w).1.reader]
    cases Yaml.readLeniently w.reader t with
    | error e => cases e <;> rfl
    | ok p =>
      obtain ⟨value, changes⟩ := p
      dsimp only
      rw [answer_bind, answer_reportRepair]
      cases value <;> rfl

end Session

namespace Settings

variable {path : Path} {w : Workspace} {f : Failure}

theorem answer_load (path : Path) (w : Workspace) :
    (load path).answer w = match w.store.exists? w.here path with
      | .error fault => .error (.file fault path)
      | .ok false => .error (.missingSettings path)
      | .ok true => match (readMapping path).answer w with
        | .error f => .error f
        | .ok entries => match sectionOf? entries with
          | none => .error (.sectionNotMapping path)
          | some entries => (({} : Settings).override entries).mapError .settings := by
  rw [load, answer_bind, Session.exists?, answer_ask, after_ask]
  cases w.store.exists? w.here path with
  | error fault => rfl
  | ok b =>
    cases b with
    | false => rfl
    | true =>
      show (readMapping path >>= _).answer w = _
      rw [answer_bind]
      cases (readMapping path).answer w with
      | error f => rfl
      | ok entries =>
        dsimp only
        cases sectionOf? entries with
        | none => rfl
        | some entries =>
          dsimp only
          cases ({} : Settings).override entries <;> rfl

/-- Why settings are not loaded from a path. -/
inductive Unloadable (path : Path) (w : Workspace) : Failure → Prop where
  /-- The path, or a name in it, is too long to be asked about. -/
  | tooLong (h : w.store.exists? w.here path = .error .nameTooLong) :
      Unloadable path w (.file .nameTooLong path)
  | missing (h : w.store.exists? w.here path = .ok false) :
      Unloadable path w (.missingSettings path)
  | directory (h : w.store.isDirectory w.here path = .ok true) :
      Unloadable path w (.file .isDirectory path)
  | undecodable {bytes : List UInt8} {e : Utf8.Malformed}
      (h : w.store.read w.here path = .ok bytes) (hdecode : Utf8.decode bytes = .error e) :
      Unloadable path w (.undecodable e)
  /-- The text is no document, also when it is repaired. -/
  | unreadable {t wording : Text} (h : (readText path).answer w = .ok t)
      (hread : Yaml.readLeniently w.reader t = .error (.malformed wording)) :
      Unloadable path w (.unreadable path wording)
  /-- The reader fails in another way. -/
  | raised {t wording : Text} {kind : FailureKind} (h : (readText path).answer w = .ok t)
      (hread : Yaml.readLeniently w.reader t = .error (.raised kind wording)) :
      Unloadable path w (.raised kind wording)
  | notMapping {t : Text} {value : Value} {changes : List Yaml.Repair.Change}
      (h : (readText path).answer w = .ok t)
      (hread : Yaml.readLeniently w.reader t = .ok (value, changes)) (hnull : value ≠ .null)
      (hmap : ∀ entries, value ≠ .map entries) :
      Unloadable path w (.notMapping path value.typeName)
  | sectionNotMapping {entries : List (Value × Value)}
      (h : (readMapping path).answer w = .ok entries) (hsection : sectionOf? entries = none) :
      Unloadable path w (.sectionNotMapping path)
  /-- The mapping has an unknown name, or a value that does not fit. -/
  | notSettings {entries inner : List (Value × Value)} {e : SettingsError}
      (h : (readMapping path).answer w = .ok entries) (hsection : sectionOf? entries = some inner)
      (hoverride : ({} : Settings).override inner = .error e) :
      Unloadable path w (.settings e)

/-- Where there is a text, loading goes on with the mapping in it. -/
theorem answer_load_of_text {t : Text} (h : (readText path).answer w = .ok t) :
    (load path).answer w = match (readMapping path).answer w with
      | .error f => .error f
      | .ok entries => match sectionOf? entries with
        | none => .error (.sectionNotMapping path)
        | some entries => (({} : Settings).override entries).mapError .settings := by
  have hexists := Store.exists?_eq_true_iff_isDirectory_or_read.2
    (.inr (exists_read_of_answer_readText h))
  rw [answer_load, hexists]

theorem exists_text_of_readMapping {entries : List (Value × Value)}
    (h : (readMapping path).answer w = .ok entries) : ∃ t, (readText path).answer w = .ok t := by
  rw [answer_readMapping] at h
  cases ht : (readText path).answer w with
  | error f => simp [ht] at h
  | ok t => exact ⟨t, rfl⟩

theorem Unloadable.answer_load (h : Unloadable path w f) : (load path).answer w = .error f := by
  cases h with
  | tooLong h => rw [Settings.answer_load, h]
  | missing h => rw [Settings.answer_load, h]
  | directory h =>
    rw [Settings.answer_load, Store.exists?_eq_true_iff_isDirectory_or_read.2 (.inl h)]
    dsimp only
    rw [answer_readMapping, answer_readText, Store.read_of_isDirectory h]
  | undecodable h hdecode =>
    rw [Settings.answer_load, Store.exists_of_read h]
    dsimp only
    rw [answer_readMapping, answer_readText, h]
    dsimp only
    rw [hdecode]
  | unreadable h hread =>
    rw [answer_load_of_text h, answer_readMapping, h]
    dsimp only
    rw [hread]
  | raised h hread =>
    rw [answer_load_of_text h, answer_readMapping, h]
    dsimp only
    rw [hread]
  | @notMapping t value changes h hread hnull hmap =>
    rw [answer_load_of_text h, answer_readMapping, h]
    dsimp only
    rw [hread]
    cases value with
    | null => exact absurd rfl hnull
    | map entries => exact absurd rfl (hmap entries)
    | _ => rfl
  | sectionNotMapping h hsection =>
    obtain ⟨t, ht⟩ := exists_text_of_readMapping h
    rw [answer_load_of_text ht, h]
    dsimp only
    rw [hsection]
  | notSettings h hsection hoverride =>
    obtain ⟨t, ht⟩ := exists_text_of_readMapping h
    rw [answer_load_of_text ht, h]
    dsimp only
    rw [hsection]
    dsimp only
    rw [hoverride]
    rfl

/-- A text that leads to no mapping. -/
theorem unloadable_of_readMapping {t : Text} (ht : (readText path).answer w = .ok t)
    (h : (readMapping path).answer w = .error f) : Unloadable path w f := by
  rw [answer_readMapping, ht] at h
  dsimp only at h
  cases hread : Yaml.readLeniently w.reader t with
  | error e =>
    rw [hread] at h
    cases e with
    | malformed wording =>
      obtain rfl := Except.error.inj h
      exact .unreadable ht hread
    | raised kind wording =>
      obtain rfl := Except.error.inj h
      exact .raised ht hread
  | ok p =>
    obtain ⟨value, changes⟩ := p
    rw [hread] at h
    cases value with
    | null => cases h
    | map entries => cases h
    | _ =>
      obtain rfl := Except.error.inj h
      exact .notMapping ht hread (by simp) (by simp)

/-- A text that leads to no settings. -/
theorem unloadable_of_text {t : Text} (ht : (readText path).answer w = .ok t)
    (h : (load path).answer w = .error f) : Unloadable path w f := by
  rw [answer_load_of_text ht] at h
  cases hentries : (readMapping path).answer w with
  | error f' =>
    rw [hentries] at h
    obtain rfl := Except.error.inj h
    exact unloadable_of_readMapping ht hentries
  | ok entries =>
    rw [hentries] at h
    dsimp only at h
    cases hsection : sectionOf? entries with
    | none =>
      rw [hsection] at h
      obtain rfl := Except.error.inj h
      exact .sectionNotMapping hentries hsection
    | some inner =>
      rw [hsection] at h
      dsimp only at h
      cases hoverride : ({} : Settings).override inner with
      | ok s =>
        rw [hoverride] at h
        cases h
      | error e =>
        rw [hoverride] at h
        obtain rfl := Except.error.inj h
        exact .notSettings hentries hsection hoverride

/-- **Loading fails in these ways only**, and in each of them it does. -/
theorem answer_load_eq_error_iff : (load path).answer w = .error f ↔ Unloadable path w f := by
  refine ⟨fun h => ?_, Unloadable.answer_load⟩
  rcases Store.exists?_cases w.store w.here path with hexists | hexists | hexists
  · rcases Store.exists?_eq_true_iff_isDirectory_or_read.1 hexists with hdirectory | ⟨bytes, hread⟩
    · have hfails := (Unloadable.directory hdirectory).answer_load
      obtain rfl := Except.error.inj (hfails.symm.trans h)
      exact .directory hdirectory
    · cases hdecode : Utf8.decode bytes with
      | error e =>
        have hfails := (Unloadable.undecodable hread hdecode).answer_load
        obtain rfl := Except.error.inj (hfails.symm.trans h)
        exact .undecodable hread hdecode
      | ok t =>
        refine unloadable_of_text (t := Text.universalNewlines t) ?_ h
        rw [answer_readText, hread]
        dsimp only
        rw [hdecode]
  · rw [answer_load, hexists] at h
    obtain rfl := Except.error.inj h
    exact .missing hexists
  · rw [answer_load, hexists] at h
    obtain rfl := Except.error.inj h
    exact .tooLong hexists

end Settings

end Groundplan

import Groundplan.Settings.Document
import Groundplan.Template.Configuration
import Groundplan.Template.Drawing
import Groundplan.Proofs.Workspace.Session

/-!
# Reading a template

Finding, reading and drawing the infrastructure of a template, reading its configuration, and
reading a settings document are readers: they leave all files as they are, and their answers depend
on the files only (`reads_make`, `reads_loadConfiguration`, `Settings.reads_load`).

**Resources.** The resources of an infrastructure are those that some source declares, or there are
none (`Infrastructure.exists_source`).
-/

namespace Groundplan

namespace Session

/-! ## Files -/

theorem reads_exists? (path : Path) : Reads (exists? path) := reads_ask path _

theorem reads_isFile (path : Path) : Reads (isFile path) := reads_ask path _

theorem reads_names (path : Path) : Reads (names path) :=
  (reads_ask path _).bind fun _ => reads_pure _

theorem run_names (path : Path) (w : Workspace) :
    (names path).run w = match w.store.list w.here path with
      | .ok entries => .ok (entries.map FileName.text) w
      | .error fault => .error (.file fault path) w := by
  rw [names, run_bind, run_ask]
  cases w.store.list w.here path <;> rfl

theorem reads_readBytes (path : Path) : Reads (readBytes path) := reads_ask path _

theorem answer_readText (path : Path) (w : Workspace) :
    (readText path).answer w = match w.store.read w.here path with
      | .error fault => .error (.file fault path)
      | .ok bytes => match Utf8.decode bytes with
        | .error e => .error (.undecodable e)
        | .ok t => .ok (Text.universalNewlines t) := by
  rw [readText, answer_bind, readBytes, answer_ask]
  cases w.store.read w.here path with
  | error fault => rfl
  | ok bytes =>
    dsimp only [Except.mapError]
    cases Utf8.decode bytes <;> rfl

theorem reads_readText (path : Path) : Reads (readText path) := by
  refine (reads_readBytes path).bind fun bytes => ?_
  split
  · exact reads_pure _
  · exact reads_throw _

theorem reads_readText? (path : Path) : Reads (readText? path) :=
  ((reads_readText path).map some).recover fun e =>
    (reads_report (.cannotReadText path e)).bind fun _ => reads_pure none

theorem reads_reportRepair (path : Path) (changes : List Yaml.Repair.Change) :
    Reads (reportRepair path changes) := by
  unfold reportRepair
  split
  · exact reads_pure _
  · refine (reads_report _).bind fun _ => ?_
    exact (reads_forM (fun change => reads_report _) _).bind fun _ => reads_pure _

theorem reads_readMapping (path : Path) : Reads (readMapping path) := by
  refine (reads_readText path).bind fun t =>
    reads_get_bind (fun w w' h => by rw [h.reader]) fun w => ?_
  split
  · exact reads_throw _
  · exact reads_throw _
  · refine (reads_reportRepair path _).bind fun _ => ?_
    split
    · exact reads_pure _
    · exact reads_pure _
    · exact reads_throw _

end Session

open Session

/-! ## Infrastructure -/

namespace Infrastructure

theorem reads_firstName? (directory : Path) (ending : Text) : Reads (firstName? directory ending) :=
  (reads_names directory).bind fun names =>
    (reads_filterM (fun name => reads_isFile (directory.child name)) names).bind fun _ =>
      reads_pure _

theorem reads_find (s : Settings) (template : Path) : Reads (find s template) := by
  refine Reads.recover ?_ fun e => (reads_report _).bind fun _ => reads_pure none
  refine (reads_isFile _).bind fun b => ?_
  cases b with
  | true => exact reads_pure _
  | false => exact (reads_firstName? _ _).bind fun name => reads_pure _

theorem reads_load (s : Settings) (template : Path) : Reads (load s template) := by
  refine (reads_find s template).bind fun source => ?_
  cases source with
  | none => exact (reads_report _).bind fun _ => reads_pure _
  | some source =>
    refine Reads.recover ?_ fun e => (reads_report _).bind fun _ => reads_pure _
    exact (reads_readText source).bind fun t => (reads_report _).bind fun _ => reads_pure _

/-- **Resources come from a source.** Where there are resources, they are what the text of the
source declares. -/
theorem exists_source {s : Settings} {template : Path} {w : Workspace} {i : Infrastructure}
    (h : (load s template).answer w = .ok i) :
    i.resources = ∅ ∨ ∃ source t, i.source = some source ∧
      (readText source).answer w = .ok t ∧ i.resources = ResourceSet.extract t := by
  have hfiles := (reads_find s template w).1
  rw [load, answer_bind] at h
  cases hfind : (find s template).answer w with
  | error e => simp [hfind] at h
  | ok found =>
    rw [hfind] at h
    cases found with
    | none =>
      obtain rfl := Except.ok.inj h
      exact .inl rfl
    | some source =>
      have hread := (reads_readText source w).2 _ hfiles
      dsimp only at h
      rw [answer_recover, answer_bind, hread] at h
      cases ht : (readText source).answer w with
      | ok t =>
        rw [ht] at h
        obtain rfl := Except.ok.inj h
        exact .inr ⟨source, t, rfl, ht, rfl⟩
      | error e =>
        rw [ht] at h
        dsimp only at h
        split at h
        · obtain rfl := Except.ok.inj h
          exact .inl rfl
        · cases h

end Infrastructure

theorem Drawing.reads_make (s : Settings) (template : Path) : Reads (Drawing.make s template) :=
  (Infrastructure.reads_load s template).map _

/-! ## Configuration -/

theorem Template.reads_findConfiguration (template : Path) :
    Reads (Template.findConfiguration template) :=
  reads_findM? (fun path => reads_isFile path) _

theorem Template.reads_loadConfiguration (template : Path) :
    Reads (Template.loadConfiguration template) := by
  refine (reads_findConfiguration template).bind fun path => ?_
  cases path with
  | none => exact reads_pure none
  | some path =>
    exact ((reads_readMapping path).map some).recover fun e =>
      (reads_report _).bind fun _ => reads_pure none

theorem Settings.reads_load (path : Path) : Reads (Settings.load path) := by
  refine (reads_exists? path).bind fun b => reads_ite ?_ (reads_throw_bind _ _)
  refine (reads_readMapping path).bind fun entries => ?_
  split
  · exact reads_throw _
  · split
    · exact reads_pure _
    · exact reads_throw _

end Groundplan

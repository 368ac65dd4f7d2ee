import Groundplan.CommandLine
import Groundplan.Proofs.Declaration.Extracted
import Groundplan.Proofs.Template.Configuration
import Groundplan.Proofs.Validation.Identifiers

/-!
# Nothing is drawn that validation has not passed

**Status 0.** The program prints a diagram only if validation has found no error: then it is the
placeholder, or every identifier in it is one (`safeDrawing_of_make`). A strict run ends so only if
the resources of the template are sound as well, for the services that its configuration declares
(`checked_of_make`).

**Another status.** A run that ends with another status has printed nothing
(`printed_generate_of_status_ne_zero`). Where no page is asked for or the template does not pass, it
has read files only (`sameFiles_generate`). A page that cannot be written is the one thing that can
leave something behind: the directories above it, and an empty page (`mayWrite_generate`).

**The same gate.** Validating a template ends with the same status as printing its diagram, because
both decide by the same report (`status_generate`, `status_validate`).

Main result: `generate_is_gated`.
-/

namespace Groundplan

open Session

/-! ## Drawings -/

namespace Flowchart

/-- A flowchart whose nodes and edges have full identifiers. No label breaks a line or ends
early. -/
def SafeDrawing (diagram : Text) : Prop :=
  ∃ nodes edges : List (Text × Text),
    Text.lines diagram = header :: (nodes.map (fun (id, label) => nodeLine id label) ++
      edges.map fun (source, target) => edgeLine source target) ++ [[]] ∧
    (∀ node ∈ nodes, IsFullId node.1 ∧ ↑ '"' ∉ node.2 ∧ ↑ '\n' ∉ node.2) ∧
    ∀ edge ∈ edges, IsFullId edge.1 ∧ IsFullId edge.2

theorem safeDrawing_draw {s : Settings} {rs : ResourceSet} (h : rs.WordKeyed)
    (hkeys : ∀ key ∈ rs.keys, IsFullId key) : SafeDrawing (draw s rs) := by
  refine ⟨rs.entries.map fun p => (p.1, p.2.label), rs.linkedPairs s, ?_, ?_, ?_⟩
  · rw [lines_draw h, List.map_map]
    rfl
  · intro node hnode
    obtain ⟨⟨key, r⟩, hp, rfl⟩ := List.mem_map.1 hnode
    exact ⟨hkeys key (List.mem_map_of_mem hp), Label.notMem_ofLines _ (by decide) (by decide),
      newline_notMem_label r⟩
  · intro edge hedge
    obtain ⟨hsource, htarget, -⟩ := ResourceSet.mem_linkedPairs.1 hedge
    exact ⟨hkeys _ hsource, hkeys _ htarget⟩

end Flowchart

namespace CommandLine

open Flowchart (IsFullId SafeDrawing)
open ResourceSet (extract)

variable {s : Settings} {taken : Taken} {template : Path} {w : Workspace}
variable {drawing : Drawing} {report : Report} {outcome : Outcome}

/-! ## Drawing and report -/

theorem reads_drawAndValidate (s : Settings) (template : Path) :
    Reads (drawAndValidate s template) :=
  (Drawing.reads_make s template).bind fun _ =>
    (Template.reads_loadConfiguration template).bind fun _ => reads_pure _

theorem answer_drawAndValidate_eq_ok_iff :
    (drawAndValidate s template).answer w = .ok (drawing, report) ↔
      (Drawing.make s template).answer w = .ok drawing ∧
        ∃ c, (Template.loadConfiguration template).answer w = .ok c ∧
          drawing.resources.validate (Template.services (c.getD [])) = report := by
  have hfiles := (Drawing.reads_make s template w).1
  have hload := (Template.reads_loadConfiguration template w).2 _ hfiles
  rw [drawAndValidate, answer_bind]
  cases (Drawing.make s template).answer w with
  | error e => simp
  | ok d =>
    dsimp only
    rw [answer_bind, hload]
    cases (Template.loadConfiguration template).answer w with
    | error e => simp
    | ok c =>
      simp only [answer_pure, Except.ok.injEq, Prod.mk.injEq, exists_eq_left']
      constructor
      · rintro ⟨rfl, rfl⟩
        exact ⟨rfl, rfl⟩
      · rintro ⟨rfl, rfl⟩
        exact ⟨rfl, rfl⟩

theorem isFailing_eq_false_iff {strict : Bool} : isFailing strict report = false ↔
    report.errors = [] ∧ (strict = true → report.warnings = []) := by
  rw [isFailing, Bool.or_eq_false_iff, Bool.not_eq_false', List.isEmpty_iff]
  cases strict <;> simp

/-- A drawing shows the placeholder, or the resources that the text of a source declares. -/
theorem cases_of_make (h : (Drawing.make s template).answer w = .ok drawing) :
    (drawing.diagram = Flowchart.placeholder ∧ drawing.resources = ∅) ∨
      ∃ source t, (Infrastructure.load s template).answer w = .ok ⟨some source, extract t⟩ ∧
        (readText source).answer w = .ok t ∧
        drawing.resources = (extract t).infer s ∧
        drawing.diagram = Flowchart.draw s ((extract t).infer s) := by
  rw [Drawing.make, answer_map] at h
  cases hload : (Infrastructure.load s template).answer w with
  | error e =>
    rw [hload] at h
    cases h
  | ok i =>
    rw [hload] at h
    obtain rfl := Except.ok.inj h
    cases hempty : i.resources.entries.isEmpty with
    | true =>
      rw [Drawing.ofInfrastructure, if_pos hempty]
      exact .inl ⟨rfl, rfl⟩
    | false =>
      rw [Drawing.ofInfrastructure, if_neg (by simp [hempty])]
      rcases Infrastructure.exists_source hload with hnone | ⟨source, t, hsource, hread, hresources⟩
      · rw [hnone] at hempty
        cases hempty
      · obtain ⟨source', resources⟩ := i
        obtain rfl : source' = some source := hsource
        obtain rfl : resources = extract t := hresources
        exact .inr ⟨source, t, rfl, hread, rfl, rfl⟩

/-- **Without errors, every identifier in a drawing is one.** -/
theorem safeDrawing_of_make (h : (Drawing.make s template).answer w = .ok drawing)
    {services : List Text} (herrors : (drawing.resources.validate services).errors = []) :
    drawing.diagram = Flowchart.placeholder ∨ SafeDrawing drawing.diagram := by
  rcases cases_of_make h with ⟨hplaceholder, -⟩ | ⟨source, t, -, -, hresources, hdiagram⟩
  · exact .inl hplaceholder
  · have hword : ((extract t).infer s).WordKeyed := (ResourceSet.wordKeyed_extract t).infer
    rw [hresources] at herrors
    rw [hdiagram]
    refine .inr (Flowchart.safeDrawing_draw hword fun key hkey => ?_)
    exact Flowchart.isFullId_of_isId (ResourceSet.isId_of_errors_eq_nil herrors hkey)
      (Flowchart.newline_notMem_of_isWord (hword.isWord hkey))

/-- The template has a source whose resources are sound for the services that the configuration
declares. -/
def Checked (s : Settings) (template : Path) (w : Workspace) : Prop :=
  ∃ source t services, (Infrastructure.load s template).answer w = .ok ⟨some source, extract t⟩ ∧
    (readText source).answer w = .ok t ∧
    (∀ name, name ∈ services ↔ Template.DeclaresService template w name) ∧
    ((extract t).infer s).Sound services

/-- **Without errors and warnings, the resources of a template are sound.** -/
theorem checked_of_make (h : (Drawing.make s template).answer w = .ok drawing)
    {c : Option (List (Value × Value))}
    (hload : (Template.loadConfiguration template).answer w = .ok c)
    (herrors : (drawing.resources.validate (Template.services (c.getD []))).errors = [])
    (hwarnings : (drawing.resources.validate (Template.services (c.getD []))).warnings = []) :
    Checked s template w := by
  have hsound := ResourceSet.sound_of_validate_eq_nil herrors hwarnings
  rcases cases_of_make h with ⟨-, hempty⟩ | ⟨source, t, hsource, hread, hresources, -⟩
  · rw [hempty] at hsound
    exact absurd rfl hsound.nonempty
  · rw [hresources] at hsound
    exact ⟨source, t, _, hsource, hread, fun name => Template.mem_services_iff hload, hsound⟩

/-! ## The commands -/

/-- A command that prints or writes a diagram ends with status 0 only for a report that passes. -/
theorem generate_of_status_eq_zero
    (h : exitStatus ((generate s taken template).answer w) = 0) :
    ∃ drawing report, (drawAndValidate s template).answer w = .ok (drawing, report) ∧
      isFailing (taken.has .strict) report = false ∧
      (taken.value? .page = none →
        printed ((generate s taken template).answer w) = drawing.diagram) := by
  rw [generate, answer_bind] at h ⊢
  cases hreport : (drawAndValidate s template).answer w with
  | error e =>
    rw [hreport] at h
    cases h
  | ok p =>
    obtain ⟨drawing, report⟩ := p
    rw [hreport] at h
    dsimp only at h ⊢
    cases hfailing : isFailing (taken.has .strict) report with
    | true =>
      rw [hfailing, if_pos rfl] at h
      cases h
    | false =>
      refine ⟨drawing, report, rfl, hfailing, fun hpage => ?_⟩
      rw [if_neg (by simp), hpage]
      rfl

/-- What ends with another status has printed nothing. -/
theorem printed_generate_of_status_ne_zero
    (h : exitStatus ((generate s taken template).answer w) ≠ 0) :
    printed ((generate s taken template).answer w) = [] := by
  rw [generate, answer_bind] at h ⊢
  cases hreport : (drawAndValidate s template).answer w with
  | error e => rfl
  | ok p =>
    rw [hreport] at h
    dsimp only at h ⊢
    cases hfailing : isFailing (taken.has .strict) p.2 with
    | true => rfl
    | false =>
      rw [hfailing, if_neg Bool.false_ne_true] at h
      rw [if_neg Bool.false_ne_true]
      cases hpage : taken.value? .page with
      | none =>
        rw [hpage] at h
        exact absurd rfl h
      | some page =>
        dsimp only
        rw [answer_bind]
        split
        · rfl
        · rfl

/-- The template can be drawn, and its report passes. -/
def Passes (s : Settings) (strict : Bool) (template : Path) (w : Workspace) : Prop :=
  ∃ drawing report, (drawAndValidate s template).answer w = .ok (drawing, report) ∧
    isFailing strict report = false

theorem Passes.of_sameFiles {strict : Bool} {w' : Workspace} (h : Passes s strict template w')
    (hfiles : SameFiles w w') : Passes s strict template w := by
  obtain ⟨drawing, report, hreport, hpasses⟩ := h
  rw [(reads_drawAndValidate s template w).2 w' hfiles] at hreport
  exact ⟨drawing, report, hreport, hpasses⟩

/-- Only writing a page changes files, and a page is written only for a template that passes. This
is so however the command ends. -/
theorem sameFiles_generate
    (h : taken.value? .page = none ∨ ¬Passes s (taken.has .strict) template w) :
    SameFiles w ((generate s taken template).after w) := by
  have hfiles := (reads_drawAndValidate s template w).1
  rw [generate, after_bind]
  cases hreport : (drawAndValidate s template).answer w with
  | error e => exact hfiles
  | ok p =>
    obtain ⟨drawing, report⟩ := p
    dsimp only
    cases hfailing : isFailing (taken.has .strict) report with
    | true => exact hfiles
    | false =>
      rcases h with hpage | hnot
      · rw [hpage]
        exact hfiles
      · exact absurd ⟨drawing, report, hreport, hfailing⟩ hnot

/-- Directories on the way to a page may have been added, and then the page may have been written.
-/
def MayWrite (s : Store) (here : Location) (page : Path) (s' : Store) : Prop :=
  ∃ made, Store.AddsDirectories here page.parent s made ∧
    (s' = made ∨ ∃ bytes, made.write here page bytes = .ok s')

theorem mayWrite_writePage (path : Path) (title diagram : Text) (source : Option Path)
    (w : Workspace) :
    MayWrite w.store w.here path ((Readme.writePage path title diagram source).after w).store := by
  have hmade := Store.addsDirectories_ensureDirectories w.store w.here path.parent
  rw [Readme.writePage, after_bind, after_ensureDirectory]
  cases (ensureDirectory path.parent).answer w with
  | error e => exact ⟨_, hmade, .inl rfl⟩
  | ok _ =>
    dsimp only
    rw [after_writeText]
    dsimp only
    split
    · next store hstore => exact ⟨_, hmade, .inr ⟨_, hstore⟩⟩
    · exact ⟨_, hmade, .inl rfl⟩

/-- The page that is asked for, and directories for it, are all that can change. -/
theorem mayWrite_generate {page : Text} (hpage : taken.value? .page = some page) :
    MayWrite w.store w.here (Path.ofText page) ((generate s taken template).after w).store := by
  have hfiles := (reads_drawAndValidate s template w).1
  have hsame : MayWrite w.store w.here (Path.ofText page) w.store :=
    ⟨w.store, refl w.store, .inl rfl⟩
  rw [generate, after_bind]
  cases hreport : (drawAndValidate s template).answer w with
  | error e =>
    rw [← hfiles.store] at hsame
    exact hfiles.store ▸ hsame
  | ok p =>
    dsimp only
    cases hfailing : isFailing (taken.has .strict) p.2 with
    | true => exact hfiles.store ▸ hsame
    | false =>
      rw [if_neg Bool.false_ne_true, hpage]
      dsimp only
      have hwrites := mayWrite_writePage (Path.ofText page)
        ((taken.value? .title).getD defaultTitle) p.1.diagram p.1.source
        ((drawAndValidate s template).after w)
      rw [hfiles.store, hfiles.here] at hwrites
      rw [after_bind]
      split
      · exact hwrites
      · exact hwrites

/-- The status that a report leads to. -/
def statusOf (strict : Bool) (report : Report) : Nat := if isFailing strict report then 2 else 0

theorem status_generate (hpage : taken.value? .page = none) :
    ((generate s taken template).answer w).map Outcome.status =
      ((drawAndValidate s template).answer w).map fun p => statusOf (taken.has .strict) p.2 := by
  rw [generate, answer_bind]
  cases (drawAndValidate s template).answer w with
  | error e => rfl
  | ok p =>
    dsimp only
    cases hfailing : isFailing (taken.has .strict) p.2 with
    | true => simp [Except.map, statusOf, hfailing]
    | false => simp [Except.map, statusOf, hfailing, hpage]

theorem status_validate :
    ((validate s taken template).answer w).map Outcome.status =
      ((drawAndValidate s template).answer w).map fun p => statusOf (taken.has .strict) p.2 := by
  rw [validate, answer_bind]
  cases (drawAndValidate s template).answer w with
  | error e => rfl
  | ok p => rfl

/-! ## The program -/

theorem reads_loadSettings (taken : Taken) : Reads (loadSettings taken) := by
  unfold loadSettings
  split
  · exact reads_pure _
  · exact ((Settings.reads_load _).map _).recover fun e => reads_pure _

variable {words : List Text} {a : Arguments}

/-- With settings that can be used, the program performs its command on the files that it found. -/
theorem run_of_settings (hread : Arguments.read words = .ok a)
    (hsettings : (loadSettings a.taken).answer w = .ok (.ok s)) :
    ∃ w' level, SameFiles w w' ∧
      (run words).answer w = ((perform s a (templateOf w.here a)).answer w').map
        (fun outcome => { outcome with level }) ∧
      (run words).after w = (perform s a (templateOf w.here a)).after w' := by
  have hfiles := (reads_loadSettings a.taken w).1
  refine ⟨(loadSettings a.taken).after w,
    if a.taken.has .verbose then Level.debug else .warning, hfiles, ?_, ?_⟩
  · rw [run, hread]
    dsimp only
    rw [answer_bind, hsettings]
    dsimp only
    rw [answer_bind, answer_get, after_get]
    dsimp only
    rw [answer_bind, hfiles.here]
    cases (perform s a (templateOf w.here a)).answer ((loadSettings a.taken).after w) <;> rfl
  · rw [run, hread]
    dsimp only
    rw [after_bind, hsettings]
    dsimp only
    rw [after_bind, answer_get, after_get]
    dsimp only
    rw [after_bind, hfiles.here]
    cases (perform s a (templateOf w.here a)).answer ((loadSettings a.taken).after w) <;> rfl

/-- A command whose status is decided by drawing and validating decides that of the program. -/
theorem status_run {status : Drawing × Report → Nat} (hread : Arguments.read words = .ok a)
    (hsettings : (loadSettings a.taken).answer w = .ok (.ok s))
    (hperform : ∀ w₁, ((perform s a (templateOf w.here a)).answer w₁).map Outcome.status =
      ((drawAndValidate s (templateOf w.here a)).answer w₁).map status) :
    ((run words).answer w).map Outcome.status =
      ((drawAndValidate s (templateOf w.here a)).answer w).map status := by
  obtain ⟨w₁, level, hfiles, hanswer, -⟩ := run_of_settings hread hsettings
  have hlevel : ∀ r : Except Failure Outcome,
      (r.map fun outcome => { outcome with level }).map Outcome.status = r.map Outcome.status := by
    intro r
    cases r <;> rfl
  rw [hanswer, hlevel, hperform, (reads_drawAndValidate s (templateOf w.here a) w).2 w₁ hfiles]

theorem Checked.of_sameFiles {w' : Workspace} (h : Checked s template w')
    (hfiles : SameFiles w w') : Checked s template w := by
  obtain ⟨source, t, services, hsource, hread, hservices, hsound⟩ := h
  rw [(Infrastructure.reads_load s template w).2 w' hfiles] at hsource
  rw [(reads_readText source w).2 w' hfiles] at hread
  simp only [Template.declaresService_congr hfiles] at hservices
  exact ⟨source, t, services, hsource, hread, hservices, hsound⟩

/-! The level of the events that are shown has no part in the status and in what is printed. -/

theorem exitStatus_map_level (r : Except Failure Outcome) (level : Level) :
    exitStatus (r.map fun outcome => { outcome with level }) = exitStatus r := by
  cases r <;> rfl

theorem printed_map_level (r : Except Failure Outcome) (level : Level) :
    printed (r.map fun outcome => { outcome with level }) = printed r := by
  cases r <;> rfl

/-- Endings with the same status, or without any, have the same exit status. -/
theorem exitStatus_congr {r r' : Except Failure Outcome}
    (h : r.map Outcome.status = r'.map Outcome.status) : exitStatus r = exitStatus r' := by
  cases r with
  | ok outcome =>
    cases r' with
    | ok outcome' => exact Except.ok.inj h
    | error e => cases h
  | error e =>
    cases r' with
    | ok outcome => cases h
    | error e' => rfl

/-- **Drawings are gated by validation.** Let a command line ask for the diagram of a template with
settings that can be used.

When it ends with status 0 and no page was asked for, it has printed the placeholder, or a diagram
in which every identifier is a full one. When a strict one ends with status 0, the template has a
source with at least one resource, every resource has a body and is connected to resources of the
source only, and the tags are the services that the configuration declares, if it declares any. When
it ends with another status, which a failure also does, it has printed nothing.

Where no page was asked for or the template does not pass, all files are as they were, however the
run ends. Otherwise the page and directories for it are all that can have changed.

Validating the same template with the same settings and the same strictness ends with the same
status as printing its diagram. -/
theorem generate_is_gated (words : List Text) (a : Arguments) (s : Settings) (w : Workspace)
    (hread : Arguments.read words = .ok a) (hcommand : a.command = .generate)
    (hsettings : (loadSettings a.taken).answer w = .ok (.ok s)) :
    (exitStatus ((run words).answer w) = 0 → a.taken.value? .page = none →
      printed ((run words).answer w) = Flowchart.placeholder ∨
        SafeDrawing (printed ((run words).answer w))) ∧
    (exitStatus ((run words).answer w) = 0 → a.taken.has .strict = true →
      Checked s (templateOf w.here a) w) ∧
    (exitStatus ((run words).answer w) ≠ 0 → printed ((run words).answer w) = []) ∧
    (a.taken.value? .page = none ∨ ¬Passes s (a.taken.has .strict) (templateOf w.here a) w →
      ((run words).after w).store = w.store) ∧
    (∀ page, a.taken.value? .page = some page →
      MayWrite w.store w.here (Path.ofText page) ((run words).after w).store) ∧
    ∀ words' a', Arguments.read words' = .ok a' → a'.command = .validate →
      (loadSettings a'.taken).answer w = .ok (.ok s) →
      templateOf w.here a' = templateOf w.here a →
      a'.taken.has .strict = a.taken.has .strict → a.taken.value? .page = none →
      exitStatus ((run words').answer w) = exitStatus ((run words).answer w) := by
  obtain ⟨w₁, level, hfiles, hanswer, hafter⟩ := run_of_settings hread hsettings
  rw [perform, hcommand] at hanswer hafter
  dsimp only at hanswer hafter
  rw [hanswer, hafter, exitStatus_map_level, printed_map_level]
  refine ⟨fun hzero hpage => ?_, fun hzero hstrict => ?_, printed_generate_of_status_ne_zero,
    fun h => ?_, fun page hpage => ?_, ?_⟩
  · obtain ⟨drawing, report, hreport, hpasses, hprinted⟩ := generate_of_status_eq_zero hzero
    obtain ⟨hmake, c, -, rfl⟩ := answer_drawAndValidate_eq_ok_iff.1 hreport
    rw [hprinted hpage]
    exact safeDrawing_of_make hmake (isFailing_eq_false_iff.1 hpasses).1
  · obtain ⟨drawing, report, hreport, hpasses, -⟩ := generate_of_status_eq_zero hzero
    obtain ⟨hmake, c, hload, rfl⟩ := answer_drawAndValidate_eq_ok_iff.1 hreport
    obtain ⟨herrors, hwarnings⟩ := isFailing_eq_false_iff.1 hpasses
    exact (checked_of_make hmake hload herrors (hwarnings hstrict)).of_sameFiles hfiles
  · exact (hfiles.trans (sameFiles_generate
      (h.imp_right fun hnot hpasses => hnot (hpasses.of_sameFiles hfiles)))).store
  · rw [← hfiles.store, ← hfiles.here]
    exact mayWrite_generate hpage
  · intro words' a' hread' hcommand' hsettings' htemplate hstrict hpage
    have hvalidate : ((run words').answer w).map Outcome.status =
        ((drawAndValidate s (templateOf w.here a')).answer w).map fun p =>
          statusOf (a'.taken.has .strict) p.2 :=
      status_run hread' hsettings' fun w₁ => by
        rw [perform, hcommand']
        exact status_validate
    have hgenerate : ((run words).answer w).map Outcome.status =
        ((drawAndValidate s (templateOf w.here a)).answer w).map fun p =>
          statusOf (a.taken.has .strict) p.2 :=
      status_run hread hsettings fun w₁ => by
        rw [perform, hcommand]
        exact status_generate hpage
    rw [htemplate, hstrict, ← hgenerate] at hvalidate
    rw [exitStatus_congr hvalidate, hanswer, exitStatus_map_level]

/-- A reader that knows one document. -/
def readerOf (document : Text) (value : Value) : Yaml.Reader := fun t =>
  if t = document then .ok value else .error (.malformed "unknown")

/-- A template with one resource and a configuration that names its service. -/
def shopTemplate : Workspace :=
  { (default : Workspace) with
    store.entries := OrderedMap.ofList [
      (["shop"], .directory), (["shop", "infra"], .directory),
      (["shop", "infra", "main.bicep"], .file (Utf8.written
        "resource site 'Web/sites' = \x7b\n  tags: \x7b 'azd-service-name': 'web' \x7d\n\x7d\n")),
      (["shop", "azure.yaml"], .file (Utf8.written "services:\n  web:\n"))]
    reader := readerOf "services:\n  web:\n"
      (.map [(.text "services", .map [(.text "web", .null)])]) }

theorem loadSettings_default (h : taken.value? .settings = none) (w : Workspace) :
    (loadSettings taken).answer w = .ok (.ok {}) := by
  rw [loadSettings, h]
  rfl

theorem generate_is_gated_shop :
    ∃ a a', Arguments.read ["generate", "--strict", "shop"] = .ok a ∧
      a.command = .generate ∧ (loadSettings a.taken).answer shopTemplate = .ok (.ok {}) ∧
      Arguments.read ["validate", "--strict", "shop"] = .ok a' ∧ a'.command = .validate ∧
      exitStatus ((run ["generate", "--strict", "shop"]).answer shopTemplate) = 0 ∧
      (printed ((run ["generate", "--strict", "shop"]).answer shopTemplate) =
          Flowchart.placeholder ∨
        SafeDrawing (printed ((run ["generate", "--strict", "shop"]).answer shopTemplate))) ∧
      Checked {} (templateOf [] a) shopTemplate ∧
      exitStatus ((run ["validate", "--strict", "shop"]).answer shopTemplate) =
        exitStatus ((run ["generate", "--strict", "shop"]).answer shopTemplate) := by
  obtain ⟨a, hread, hcommand, hdefault, hpage, hstrict, htemplate⟩ :
      ∃ a, Arguments.read ["generate", "--strict", "shop"] = .ok a ∧ a.command = .generate ∧
        a.taken.value? .settings = none ∧ a.taken.value? .page = none ∧
        a.taken.has .strict = true ∧ a.template = some ("shop" : Text) :=
    ⟨_, rfl, rfl, rfl, rfl, rfl, rfl⟩
  obtain ⟨a', hread', hcommand', hdefault', hstrict', htemplate'⟩ :
      ∃ a, Arguments.read ["validate", "--strict", "shop"] = .ok a ∧ a.command = .validate ∧
        a.taken.value? .settings = none ∧ a.taken.has .strict = true ∧
        a.template = some ("shop" : Text) :=
    ⟨_, rfl, rfl, rfl, rfl, rfl⟩
  have hsettings := loadSettings_default hdefault shopTemplate
  have hsettings' := loadSettings_default hdefault' shopTemplate
  have hzero : exitStatus ((run ["generate", "--strict", "shop"]).answer shopTemplate) = 0 := by
    decide +kernel
  obtain ⟨hsafe, hchecked, -, -, -, hvalidate⟩ :=
    generate_is_gated _ a {} shopTemplate hread hcommand hsettings
  have hsame := hvalidate _ a' hread' hcommand' hsettings'
    (by rw [templateOf, templateOf, htemplate, htemplate']) (hstrict'.trans hstrict.symm) hpage
  exact ⟨a, a', hread, hcommand, hsettings, hread', hcommand', hzero, hsafe hzero hpage,
    hchecked hzero hstrict, hsame⟩

/-- What is computed from the words of a command line is computed from its arguments. -/
theorem exists_arguments {β : Type} {f : Arguments → β} {b : β}
    (h : (Arguments.read words).toOption.map f = some b) :
    ∃ a, Arguments.read words = .ok a ∧ f a = b := by
  cases hread : Arguments.read words with
  | error e => simp [hread, Except.toOption] at h
  | ok a =>
    rw [hread] at h
    exact ⟨a, rfl, Option.some.inj h⟩

/-- A page in new directories, with a name that is too long for a file. -/
def longPage : Text := ("new/dir/" : Text) ++ List.replicate 300 ('a' : CodePoint)

/-- Where the page cannot be written, the directories for it are left behind. -/
theorem failing_page_leaves_directories :
    (∃ a, Arguments.read ["generate", "--out", longPage, "shop"] = .ok a ∧ a.command = .generate ∧
      (loadSettings a.taken).answer shopTemplate = .ok (.ok {})) ∧
      exitStatus ((run ["generate", "--out", longPage, "shop"]).answer shopTemplate) ≠ 0 ∧
      shopTemplate.store.isDirectory [] "new/dir" = .ok false ∧
      ((run ["generate", "--out", longPage, "shop"]).after shopTemplate).store.isDirectory []
        "new/dir" = .ok true := by
  have hwords : (Arguments.read ["generate", "--out", longPage, "shop"]).toOption.map
      (fun a => (a.command, a.taken.value? .settings)) = some (.generate, none) := by
    decide +kernel
  obtain ⟨a, hread, ha⟩ := exists_arguments hwords
  obtain ⟨hcommand, hdefault⟩ := Prod.mk.inj ha
  exact ⟨⟨a, hread, hcommand, loadSettings_default hdefault shopTemplate⟩, by decide +kernel,
    by decide +kernel, by decide +kernel⟩

end CommandLine

end Groundplan

import Groundplan.Proofs.Files.Listing
import Groundplan.Proofs.Template.Reading
import Groundplan.Proofs.Text.Order

/-!
# Which file is the source of a template

**The source.** A candidate is listed by the directory, is a file and has the right ending
(`Candidate`). The source is the main file, else the first candidate, else nothing (`Source`), and
the resources are those that its text declares, if it has one and its bytes are text (`Declares`).
There is one source at most, and it has one set of resources (`Source.unique`, `Declares.unique`).

**Loading.** Where all paths fit, loading the infrastructure answers with the source and its
resources (`exists_answer_load`). In what order the directory lists its names does not matter: the
candidates are the same in stores that agree (`candidate_congr`).

**Failing.** All faults of the file system are handled. Loading fails only for a directory whose
path cannot be passed on to it (`answer_load_eq_error_iff`).

Main result: `load_answers`.
-/

namespace Groundplan

/-! ## Refusals -/

namespace FileFault

variable {fault : FileFault}

/-- What is no refusal is a fault of the file system itself. -/
theorem isSystem_file (h : fault.isRefusal = false) (p : Path) :
    (Failure.file fault p).kind.isSystem = true := by
  cases fault <;> first | rfl | cases h

theorem not_isSystem_file (h : fault.isRefusal = true) (p : Path) :
    ¬(Failure.file fault p).kind.isSystem = true := by
  cases fault <;> first | exact Bool.false_ne_true | cases h

end FileFault

/-! ## Questions with an answer -/

namespace Session

open Store

variable {w : Workspace} {path : Path}

/-- A file is asked for where the path fits. -/
theorem exists_run_isFile (h : Fits path) (w : Workspace) : ∃ b, (isFile path).run w = .ok b w ∧
    (b = true ↔ ∃ bytes, w.store.read w.here path = .ok bytes) := by
  obtain ⟨b, hb⟩ : ∃ b, w.store.isFile w.here path = .ok b := h.exists_isEntry ..
  refine ⟨b, by rw [isFile, run_ask, hb], ?_⟩
  rw [← isFile_eq_true_iff, hb, Except.ok.injEq]

/-- Asking about one element after the other, when every question has an answer. -/
theorem exists_run_filterM {α : Type} {p : α → Session Bool} {P : α → Prop} {l : List α}
    (h : ∀ a ∈ l, ∃ b, (p a).run w = .ok b w ∧ (b = true ↔ P a)) :
    ∃ found, (l.filterM p).run w = .ok found w ∧ ∀ a, a ∈ found ↔ a ∈ l ∧ P a := by
  have haux : ∀ acc, ∃ found, (l.filterAuxM p acc).run w = .ok found w ∧
      ∀ a, a ∈ found ↔ a ∈ acc ∨ a ∈ l ∧ P a := by
    induction l with
    | nil => exact fun acc => ⟨acc, rfl, by simp⟩
    | cons a l ih =>
      intro acc
      obtain ⟨b, hb, hP⟩ := h a List.mem_cons_self
      have hrest := ih fun a ha => h a (List.mem_cons_of_mem _ ha)
      rw [List.filterAuxM, run_bind, hb]
      cases b with
      | true =>
        obtain ⟨found, hfound, hmem⟩ := hrest (a :: acc)
        exact ⟨found, hfound, by grind⟩
      | false =>
        obtain ⟨found, hfound, hmem⟩ := hrest acc
        exact ⟨found, hfound, by grind⟩
  obtain ⟨found, hfound, hmem⟩ := haux []
  refine ⟨found.reverse, ?_, by simpa using hmem⟩
  rw [List.filterM, run_bind, hfound]
  rfl

/-- Asking about one element after the other, when a question may fail. -/
theorem filterM_cases {α : Type} {p : α → Session Bool} {P : α → Prop} {Q : Failure → Prop}
    (h : ∀ a, (∃ b, (p a).run w = .ok b w ∧ (b = true → P a)) ∨
      ∃ f, (p a).run w = .error f w ∧ Q f) (l : List α) :
    (∃ found, (l.filterM p).run w = .ok found w ∧ ∀ a ∈ found, P a) ∨
      ∃ f, (l.filterM p).run w = .error f w ∧ Q f := by
  have haux : ∀ acc, (∀ a ∈ acc, P a) →
      (∃ found, (l.filterAuxM p acc).run w = .ok found w ∧ ∀ a ∈ found, P a) ∨
        ∃ f, (l.filterAuxM p acc).run w = .error f w ∧ Q f := by
    induction l with
    | nil => exact fun acc hacc => .inl ⟨acc, rfl, hacc⟩
    | cons a l ih =>
      intro acc hacc
      rw [List.filterAuxM, run_bind]
      rcases h a with ⟨b, hb, hP⟩ | ⟨f, hf, hQ⟩
      · rw [hb]
        cases b with
        | true => exact ih (a :: acc) (List.forall_mem_cons.2 ⟨hP rfl, hacc⟩)
        | false => exact ih acc hacc
      · rw [hf]
        exact .inr ⟨f, rfl, hQ⟩
  rw [List.filterM, run_bind]
  rcases haux [] (by simp) with ⟨found, hfound, hP⟩ | ⟨f, hf, hQ⟩
  · rw [hfound]
    exact .inl ⟨found.reverse, rfl, fun a ha => hP a (List.mem_reverse.1 ha)⟩
  · rw [hf]
    exact .inr ⟨f, rfl, hQ⟩

/-- A question about a file fails only for a long path. -/
theorem run_isFile_cases (path : Path) (w : Workspace) :
    (∃ b, (isFile path).run w = .ok b w ∧ w.store.isFile w.here path = .ok b) ∨
      (isFile path).run w = .error (.file .nameTooLong path) w ∧
        w.store.isFile w.here path = .error .nameTooLong := by
  have hrun := run_ask path Store.isFile w
  cases h : w.store.isFile w.here path with
  | ok b =>
    rw [h] at hrun
    exact .inl ⟨b, hrun, rfl⟩
  | error fault =>
    have hlong : fault = .nameTooLong := by
      unfold Store.isFile Store.isEntry at h
      split at h <;> cases h
      rfl
    subst hlong
    rw [h] at hrun
    exact .inr ⟨hrun, rfl⟩

end Session

/-! ## The source -/

namespace Infrastructure

open Session Store

variable {s : Settings} {template : Path} {w w' : Workspace} {name : Text}

/-- The directory of the infrastructure of a template. -/
def directory (s : Settings) (template : Path) : Path := template ++ Path.ofText s.infraDir

/-- The file that goes before all others. -/
def mainPath (s : Settings) (template : Path) : Path :=
  directory s template ++ Path.ofText s.mainFile

/-- The main file is there. -/
def HasMain (s : Settings) (template : Path) (w : Workspace) : Prop :=
  ∃ bytes, w.store.read w.here (mainPath s template) = .ok bytes

/-- The directory lists the names with these texts, in this order. -/
def Lists (s : Settings) (template : Path) (w : Workspace) (names : List Text) : Prop :=
  ∃ entries, w.store.list w.here (directory s template) = .ok entries ∧
    names = entries.map FileName.text

theorem Lists.unique {names other : List Text} (h : Lists s template w names)
    (hother : Lists s template w other) : names = other := by
  obtain ⟨entries, hlist, rfl⟩ := h
  obtain ⟨entries', hlist', rfl⟩ := hother
  obtain rfl := Except.ok.inj (hlist.symm.trans hlist')
  rfl

/-- The name of a file in the directory, with the right ending. -/
structure Candidate (s : Settings) (template : Path) (w : Workspace) (name : Text) : Prop where
  listed : ∃ names, Lists s template w names ∧ name ∈ names
  file : ∃ bytes, w.store.read w.here ((directory s template).child name) = .ok bytes
  ending : s.sourceSuffix <:+ name

/-- No other candidate comes before this one. -/
structure First (s : Settings) (template : Path) (w : Workspace) (name : Text) : Prop where
  candidate : Candidate s template w name
  first : ∀ other, Candidate s template w other → ¬Text.Before other name

/-- The source of a template: the main file, else the first candidate, else nothing. -/
inductive Source (s : Settings) (template : Path) (w : Workspace) : Option Path → Prop
  | main (h : HasMain s template w) : Source s template w (some (mainPath s template))
  | first {name : Text} (hmain : ¬HasMain s template w) (h : First s template w name) :
      Source s template w (some ((directory s template).child name))
  | missing (hmain : ¬HasMain s template w) (h : ∀ name, ¬Candidate s template w name) :
      Source s template w none

/-- The resources of a source: those that its text declares. There are none without a source, and
none if its bytes are no text. -/
inductive Declares (w : Workspace) : Option Path → ResourceSet → Prop
  | missing : Declares w none ∅
  | undecodable {source : Path} {bytes : List UInt8} {e : Utf8.Malformed}
      (hread : w.store.read w.here source = .ok bytes) (h : Utf8.decode bytes = .error e) :
      Declares w (some source) ∅
  | text {source : Path} {bytes : List UInt8} {t : Text}
      (hread : w.store.read w.here source = .ok bytes) (h : Utf8.decode bytes = .ok t) :
      Declares w (some source) (ResourceSet.extract (Text.universalNewlines t))

theorem First.unique {other : Text} (h : First s template w name)
    (hother : First s template w other) : name = other :=
  Text.atMost_antisymm (Text.atMost_iff.2 (h.first other hother.candidate))
    (Text.atMost_iff.2 (hother.first name h.candidate))

theorem Source.unique {source other : Option Path} (h : Source s template w source)
    (hother : Source s template w other) : source = other := by
  cases h with
  | main hmain =>
    cases hother with
    | main => rfl
    | first hmissing => exact absurd hmain hmissing
    | missing hmissing => exact absurd hmain hmissing
  | first hmissing h =>
    cases hother with
    | main hmain => exact absurd hmain hmissing
    | first _ hother => rw [h.unique hother]
    | missing _ hnone => exact absurd h.candidate (hnone _)
  | missing hmissing hnone =>
    cases hother with
    | main hmain => exact absurd hmain hmissing
    | first _ hother => exact absurd hother.candidate (hnone _)
    | missing => rfl

theorem Declares.unique {source : Option Path} {rs other : ResourceSet}
    (h : Declares w source rs) (hother : Declares w source other) : rs = other := by
  cases h with
  | missing =>
    cases hother
    rfl
  | undecodable hread h =>
    cases hother with
    | undecodable => rfl
    | text hread' h' =>
      obtain rfl := Except.ok.inj (hread.symm.trans hread')
      rw [h] at h'
      cases h'
  | text hread h =>
    cases hother with
    | undecodable hread' h' =>
      obtain rfl := Except.ok.inj (hread.symm.trans hread')
      rw [h] at h'
      cases h'
    | text hread' h' =>
      obtain rfl := Except.ok.inj (hread.symm.trans hread')
      obtain rfl := Except.ok.inj (h.symm.trans h')
      rfl

/-- There is no source exactly if there is no main file and no candidate, as where the directory
cannot be listed. -/
theorem Source.eq_none_iff {source : Option Path} (h : Source s template w source) :
    source = none ↔ ¬HasMain s template w ∧
      ((∀ name, ¬Candidate s template w name) ∨ ∀ names, ¬Lists s template w names) := by
  constructor
  · rintro rfl
    cases h with
    | missing hmain hnone => exact ⟨hmain, .inl hnone⟩
  · rintro ⟨hmain, hnone⟩
    have hcandidates : ∀ name, ¬Candidate s template w name := by
      intro name hname
      rcases hnone with hnone | hunlisted
      · exact hnone name hname
      · obtain ⟨names, hlists, -⟩ := hname.listed
        exact hunlisted names hlists
    exact h.unique (.missing hmain hcandidates)

/-- A source can be read. -/
theorem Source.exists_read {source : Path} (h : Source s template w (some source)) :
    ∃ bytes, w.store.read w.here source = .ok bytes := by
  cases h with
  | main hmain => exact hmain
  | first _ h => exact h.candidate.file

/-- A main file with an ordinary name lies in the directory, which is listed then. -/
theorem HasMain.exists_lists (hslash : ↑ '/' ∉ s.mainFile) (hname : Path.isName s.mainFile = true)
    (h : HasMain s template w) : ∃ names, Lists s template w names := by
  have hmain : mainPath s template = (directory s template).child s.mainFile := by
    rw [mainPath, Path.ofText_of_slash_notMem hslash hname, Path.append_child, Path.append_here]
  obtain ⟨bytes, hread⟩ := h
  rw [hmain] at hread
  obtain ⟨l, hl, -⟩ := read_eq_ok_iff.1 hread
  obtain ⟨k, hk, -⟩ := exists_find_of_resolve_child hl
  exact ⟨_, _, list_eq_ok_iff.2 ⟨k, hk, rfl⟩, rfl⟩

/-! ## Loading -/

/-- The paths that come into question fit. -/
structure Askable (s : Settings) (template : Path) (w : Workspace) : Prop where
  fits_directory : Fits (directory s template)
  fits_main : Fits (mainPath s template)
  fits_child : ∀ names, Lists s template w names → ∀ name ∈ names,
    Fits ((directory s template).child name)

theorem exists_run_firstName? (h : Askable s template w) {names : List Text}
    (hlists : Lists s template w names) :
    ∃ found, (firstName? (directory s template) s.sourceSuffix).run w = .ok found w ∧
      (∀ name, found = some name → First s template w name) ∧
      (found = none → ∀ name, ¬Candidate s template w name) := by
  obtain ⟨files, hfiles, hmem⟩ := exists_run_filterM (w := w)
    (p := fun name => isFile ((directory s template).child name)) (l := names) fun name hname =>
      exists_run_isFile (h.fits_child names hlists name hname) w
  have hcandidate : ∀ name, name ∈ files.filter (Text.endsWith s.sourceSuffix) ↔
      Candidate s template w name := by
    intro name
    rw [List.mem_filter, hmem, Text.endsWith_iff]
    constructor
    · rintro ⟨⟨hname, hfile⟩, hending⟩
      exact ⟨⟨names, hlists, hname⟩, hfile, hending⟩
    · rintro ⟨⟨names', hlists', hname⟩, hfile, hending⟩
      obtain rfl := hlists.unique hlists'
      exact ⟨⟨hname, hfile⟩, hending⟩
  refine ⟨(Text.sort (files.filter (Text.endsWith s.sourceSuffix))).head?, ?_, ?_, ?_⟩
  · obtain ⟨entries, hlist, rfl⟩ := hlists
    rw [firstName?, run_bind, run_names, hlist]
    dsimp only
    rw [run_bind, hfiles]
    rfl
  · intro name hname
    obtain ⟨hin, hfirst⟩ := Text.of_head?_sort hname
    exact ⟨(hcandidate name).1 hin, fun other hother => hfirst other ((hcandidate other).2 hother)⟩
  · intro hnone name hname
    have hin := (hcandidate name).2 hname
    rw [Text.head?_sort_eq_none_iff.1 hnone] at hin
    cases hin

theorem find_eq (s : Settings) (template : Path) :
    find s template = recover FailureKind.isSystem
      (isFile (mainPath s template) >>= fun b =>
        if b then pure (some (mainPath s template))
        else firstName? (directory s template) s.sourceSuffix >>= fun name =>
          pure (name.map (directory s template).child))
      fun f => report (.cannotScan (directory s template) f) >>= fun _ => pure none := rfl

/-- Finding the infrastructure answers with its source. -/
theorem exists_answer_find (h : Askable s template w) :
    ∃ source, (find s template).answer w = .ok source ∧ Source s template w source := by
  obtain ⟨b, hb, hmain⟩ := exists_run_isFile h.fits_main w
  rw [find_eq, answer_recover, answer, run_bind, hb]
  cases b with
  | true => exact ⟨_, rfl, .main (hmain.1 rfl)⟩
  | false =>
    have hmissing : ¬HasMain s template w := fun hfile => Bool.noConfusion (hmain.2 hfile)
    dsimp only
    rw [if_neg Bool.false_ne_true]
    cases hlist : w.store.list w.here (directory s template) with
    | ok names =>
      obtain ⟨found, hfound, hfirst, hnone⟩ := exists_run_firstName? h ⟨names, hlist, rfl⟩
      rw [run_bind, hfound]
      cases found with
      | none => exact ⟨none, rfl, .missing hmissing (hnone rfl)⟩
      | some name => exact ⟨_, rfl, .first hmissing (hfirst name rfl)⟩
    | error fault =>
      have hunlisted : ∀ name, ¬Candidate s template w name := by
        intro name hname
        obtain ⟨names, ⟨entries, hlists, -⟩, -⟩ := hname.listed
        rw [hlist] at hlists
        cases hlists
      -- Only a refusal is not handled, and the path can be passed on.
      have hrefusal : fault.isRefusal = false := by
        rw [← Bool.not_eq_true]
        intro hrefusal
        have hrefused := (list_eq_refusal_iff hrefusal).1 hlist
        rw [h.fits_directory.passable.1] at hrefused
        cases hrefused
      have hsystem := FileFault.isSystem_file hrefusal (directory s template)
      refine ⟨none, ?_, .missing hmissing hunlisted⟩
      rw [firstName?, run_bind, run_bind, run_names, hlist]
      dsimp only
      rw [if_pos hsystem]
      rfl

/-- **Loading the infrastructure answers** with its source and the resources of the source. -/
theorem exists_answer_load (h : Askable s template w) : ∃ i, (load s template).answer w = .ok i ∧
    Source s template w i.source ∧ Declares w i.source i.resources := by
  obtain ⟨source, hfind, hsource⟩ := exists_answer_find h
  have hfiles := (reads_find s template w).1
  rw [load, answer_bind, hfind]
  cases source with
  | none => exact ⟨{}, rfl, hsource, .missing⟩
  | some source =>
    obtain ⟨bytes, hread⟩ := hsource.exists_read
    dsimp only
    rw [answer_recover, answer_bind, answer_readText, hfiles.store, hfiles.here, hread]
    dsimp only
    cases hdecode : Utf8.decode bytes with
    | ok t => exact ⟨_, rfl, hsource, .text hread hdecode⟩
    | error e => exact ⟨_, rfl, hsource, .undecodable hread hdecode⟩

/-! ## Other orders -/

/-- The same is at every location, and paths are followed from the same place. -/
structure Rearranged (w w' : Workspace) : Prop where
  here : w'.here = w.here
  agree : Agree w.store w'.store

theorem read_congr (h : Rearranged w w') (path : Path) :
    w'.store.read w'.here path = w.store.read w.here path := by
  rw [h.here, h.agree.read]

theorem hasMain_congr (h : Rearranged w w') : HasMain s template w' ↔ HasMain s template w := by
  rw [HasMain, HasMain, read_congr h]

theorem listed_congr (h : Rearranged w w') :
    (∃ names, Lists s template w' names ∧ name ∈ names) ↔
      ∃ names, Lists s template w names ∧ name ∈ names := by
  have hlist : w'.store.find w'.here (directory s template) =
      w.store.find w.here (directory s template) := by
    rw [h.here, h.agree.find]
  simp only [Lists, list_eq_ok_iff, hlist]
  constructor
  · rintro ⟨-, ⟨-, ⟨l, hl, rfl⟩, rfl⟩, hname⟩
    obtain ⟨entry, hentry, rfl⟩ := List.mem_map.1 hname
    exact ⟨_, ⟨_, ⟨l, hl, rfl⟩, rfl⟩, List.mem_map_of_mem (h.agree.mem_namesIn_iff.1 hentry)⟩
  · rintro ⟨-, ⟨-, ⟨l, hl, rfl⟩, rfl⟩, hname⟩
    obtain ⟨entry, hentry, rfl⟩ := List.mem_map.1 hname
    exact ⟨_, ⟨_, ⟨l, hl, rfl⟩, rfl⟩, List.mem_map_of_mem (h.agree.mem_namesIn_iff.2 hentry)⟩

/-- The order of a listing does not matter for what is a candidate. -/
theorem candidate_congr (h : Rearranged w w') :
    Candidate s template w' name ↔ Candidate s template w name := by
  constructor
  · rintro ⟨hlisted, hfile, hending⟩
    exact ⟨(listed_congr h).1 hlisted, by rwa [read_congr h] at hfile, hending⟩
  · rintro ⟨hlisted, hfile, hending⟩
    exact ⟨(listed_congr h).2 hlisted, by rwa [read_congr h], hending⟩

theorem Source.of_rearranged {source : Option Path} (h : Rearranged w w')
    (hsource : Source s template w' source) : Source s template w source := by
  cases hsource with
  | main hmain => exact .main ((hasMain_congr h).1 hmain)
  | first hmissing hname =>
    refine .first ((hasMain_congr h).not.1 hmissing) ⟨(candidate_congr h).1 hname.candidate, ?_⟩
    exact fun other hother => hname.first other ((candidate_congr h).2 hother)
  | missing hmissing hnone =>
    refine .missing ((hasMain_congr h).not.1 hmissing) fun name => ?_
    exact (candidate_congr h).not.1 (hnone name)

theorem Declares.of_rearranged {source : Option Path} {rs : ResourceSet} (h : Rearranged w w')
    (hdeclares : Declares w' source rs) : Declares w source rs := by
  cases hdeclares with
  | missing => exact .missing
  | undecodable hread hdecode => exact .undecodable ((read_congr h _).symm.trans hread) hdecode
  | text hread hdecode => exact .text ((read_congr h _).symm.trans hread) hdecode

theorem Askable.of_rearranged (h : Rearranged w w') (hask : Askable s template w) :
    Askable s template w' where
  fits_directory := hask.fits_directory
  fits_main := hask.fits_main
  fits_child names hlists name hname := by
    obtain ⟨names', hlists', hname'⟩ := (listed_congr h).1 ⟨names, hlists, hname⟩
    exact hask.fits_child names' hlists' name hname'

theorem ext {i j : Infrastructure} (hsource : i.source = j.source)
    (hresources : i.resources = j.resources) : i = j := by
  cases i
  cases j
  simp_all

/-- A directory that lists its names in another order is loaded alike. -/
theorem answer_load_of_rearranged {i : Infrastructure} (hask : Askable s template w)
    (h : Rearranged w w') (hload : (load s template).answer w = .ok i) :
    (load s template).answer w' = .ok i := by
  obtain ⟨j, hj, hsource, hdeclares⟩ := exists_answer_load hask
  obtain ⟨k, hk, hsource', hdeclares'⟩ := exists_answer_load (hask.of_rearranged h)
  obtain rfl := Except.ok.inj (hload.symm.trans hj)
  have hsame : k.source = i.source := (hsource'.of_rearranged h).unique hsource
  have hresources : k.resources = i.resources := by
    rw [hsame] at hdeclares'
    exact (hdeclares'.of_rearranged h).unique hdeclares
  rw [hk, ext hsame hresources]

/-! ## Failing -/

theorem run_firstName?_of_refusal {path : Path} {fault : FileFault}
    (h : refusal? path.toText = some fault) (ending : Text) (w : Workspace) :
    (firstName? path ending).run w = .error (.file fault path) w := by
  rw [firstName?, run_bind, run_names, (list_eq_refusal_iff (isRefusal_of_refusal? h)).2 h]

/-- The first name of a directory whose path is passed on is the name of a file, or the file system
itself is at fault. -/
theorem firstName?_cases {path : Path} (h : refusal? path.toText = none) (ending : Text)
    (w : Workspace) :
    (∃ found, (firstName? path ending).run w = .ok found w ∧ ∀ name, found = some name →
        ∃ bytes, w.store.read w.here (path.child name) = .ok bytes) ∨
      ∃ f, (firstName? path ending).run w = .error f w ∧ f.kind.isSystem = true := by
  rw [firstName?, run_bind, run_names]
  cases hlist : w.store.list w.here path with
  | error fault =>
    refine .inr ⟨_, rfl, FileFault.isSystem_file ?_ path⟩
    rw [← Bool.not_eq_true]
    intro hrefusal
    rw [(list_eq_refusal_iff hrefusal).1 hlist] at h
    cases h
  | ok entries =>
    have hasked : ∀ name : Text,
        (∃ b, (isFile (path.child name)).run w = .ok b w ∧
          (b = true → ∃ bytes, w.store.read w.here (path.child name) = .ok bytes)) ∨
        ∃ f, (isFile (path.child name)).run w = .error f w ∧ f.kind.isSystem = true := by
      intro name
      rcases run_isFile_cases (path.child name) w with ⟨b, hb, hfile⟩ | ⟨hlong, -⟩
      · exact .inl ⟨b, hb, fun htrue => isFile_eq_true_iff.1 (htrue ▸ hfile)⟩
      · exact .inr ⟨_, hlong, rfl⟩
    dsimp only
    rw [run_bind]
    rcases filterM_cases hasked (entries.map FileName.text) with
      ⟨files, hfiles, hall⟩ | ⟨f, hf, hsystem⟩
    · rw [hfiles]
      refine .inl ⟨_, rfl, fun name hname => ?_⟩
      exact hall name (List.mem_filter.1 (Text.of_head?_sort hname).1).1
    · rw [hf]
      exact .inr ⟨f, rfl, hsystem⟩

/-- Why loading fails: the main file is no file, and the path of the directory cannot be passed on,
so that the directory cannot be asked what it lists. -/
structure Unaskable (s : Settings) (template : Path) (w : Workspace) (fault : FileFault) :
    Prop where
  main : w.store.isFile w.here (mainPath s template) = .ok false
  refused : refusal? (directory s template).toText = some fault

theorem Unaskable.unique {fault other : FileFault} (h : Unaskable s template w fault)
    (hother : Unaskable s template w other) : fault = other :=
  Option.some.inj (h.refused.symm.trans hother.refused)

theorem Unaskable.answer_find {fault : FileFault} (h : Unaskable s template w fault) :
    (find s template).answer w = .error (.file fault (directory s template)) := by
  have hfile : (Session.isFile (mainPath s template)).run w = .ok false w := by
    rw [Session.isFile, run_ask, h.main]
  rw [find_eq, answer_recover, answer, run_bind, hfile]
  dsimp only
  rw [if_neg Bool.false_ne_true, run_bind, run_firstName?_of_refusal h.refused]
  exact if_neg (FileFault.not_isSystem_file (isRefusal_of_refusal? h.refused) _)

/-- In all other cases there is an answer, and what is found is a file. -/
theorem exists_answer_find_of_not_unaskable (h : ∀ fault, ¬Unaskable s template w fault) :
    ∃ source, (find s template).answer w = .ok source ∧ ∀ path, source = some path →
      ∃ bytes, w.store.read w.here path = .ok bytes := by
  rw [find_eq, answer_recover, answer, run_bind]
  rcases run_isFile_cases (mainPath s template) w with ⟨b, hb, hfile⟩ | ⟨hlong, -⟩
  · rw [hb]
    cases b with
    | true =>
      refine ⟨_, rfl, fun path hpath => ?_⟩
      obtain rfl := Option.some.inj hpath
      exact isFile_eq_true_iff.1 hfile
    | false =>
      have hpassed : refusal? (directory s template).toText = none := by
        rw [Option.eq_none_iff_forall_ne_some]
        exact fun fault hrefused => h fault ⟨hfile, hrefused⟩
      dsimp only
      rw [if_neg Bool.false_ne_true, run_bind]
      rcases firstName?_cases hpassed s.sourceSuffix w with ⟨found, hfound, hall⟩ | ⟨f, hf, hsystem⟩
      · rw [hfound]
        refine ⟨_, rfl, fun path hpath => ?_⟩
        obtain ⟨name, hname, rfl⟩ := Option.map_eq_some_iff.1 hpath
        exact hall name hname
      · rw [hf]
        dsimp only
        rw [if_pos hsystem]
        exact ⟨none, rfl, by simp⟩
  · rw [hlong]
    exact ⟨none, rfl, by simp⟩

/-- **Loading fails only for a directory that cannot be asked.** -/
theorem answer_load_eq_error_iff {f : Failure} : (load s template).answer w = .error f ↔
    ∃ fault, Unaskable s template w fault ∧ f = .file fault (directory s template) := by
  rw [load, answer_bind]
  by_cases hunaskable : ∃ fault, Unaskable s template w fault
  · obtain ⟨fault, hfault⟩ := hunaskable
    rw [hfault.answer_find]
    constructor
    · intro h
      exact ⟨fault, hfault, (Except.error.inj h).symm⟩
    · rintro ⟨other, hother, rfl⟩
      rw [hfault.unique hother]
  · have hfault := not_exists.1 hunaskable
    refine iff_of_false (fun h => ?_) (by
      rintro ⟨fault, h, -⟩
      exact hfault fault h)
    have hfiles := (reads_find s template w).1
    obtain ⟨source, hfind, hsource⟩ := exists_answer_find_of_not_unaskable hfault
    rw [hfind] at h
    cases source with
    | none => cases h
    | some source =>
      obtain ⟨bytes, hread⟩ := hsource source rfl
      dsimp only at h
      rw [answer_recover, answer_bind, answer_readText, hfiles.store, hfiles.here, hread] at h
      dsimp only at h
      cases hdecode : Utf8.decode bytes with
      | ok t =>
        rw [hdecode] at h
        cases h
      | error e =>
        rw [hdecode] at h
        cases h

/-- **When loading answers, and that the choice depends on names only.** Loading the infrastructure
of a template fails exactly if the main file is no file and the path of the directory cannot be
passed on to the file system, and with that. Where all paths fit, it answers. Its source is the main
file if that is there, else the first candidate by code points. There is no source exactly if there
is neither, as where the directory cannot be listed: a main file with an ordinary name cannot be
there then. The resources are those that the text of the source declares, and there are none without
a source or with bytes that are no text. Every order in which the directory may list its names gives
the same answer. -/
theorem load_answers (s : Settings) (template : Path) (w : Workspace) :
    (∀ f, (load s template).answer w = .error f ↔
      ∃ fault, Unaskable s template w fault ∧ f = .file fault (directory s template)) ∧
    (Askable s template w →
      ∃ i, (load s template).answer w = .ok i ∧ Source s template w i.source ∧
        Declares w i.source i.resources ∧
        (i.source = none ↔ ¬HasMain s template w ∧
          ((∀ name, ¬Candidate s template w name) ∨ ∀ names, ¬Lists s template w names)) ∧
        (↑ '/' ∉ s.mainFile → Path.isName s.mainFile = true → (i.source = none ↔
          (¬HasMain s template w ∧ ∀ name, ¬Candidate s template w name) ∨
            ∀ names, ¬Lists s template w names)) ∧
        (∀ w', Rearranged w w' → (load s template).answer w' = .ok i) ∧
        ∀ names order, Lists s template w names → order.Perm names →
          ∃ store, Rearranged w { w with store } ∧ Lists s template { w with store } order ∧
            (load s template).answer { w with store } = .ok i) := by
  refine ⟨fun f => answer_load_eq_error_iff, fun h => ?_⟩
  obtain ⟨i, hload, hsource, hdeclares⟩ := exists_answer_load h
  have hother : ∀ w', Rearranged w w' → (load s template).answer w' = .ok i :=
    fun w' hw => answer_load_of_rearranged h hw hload
  refine ⟨i, hload, hsource, hdeclares, hsource.eq_none_iff, ?_, hother, ?_⟩
  · intro hslash hname
    rw [hsource.eq_none_iff]
    constructor
    · rintro ⟨hmain, hnone | hunlisted⟩
      · exact .inl ⟨hmain, hnone⟩
      · exact .inr hunlisted
    · rintro (⟨hmain, hnone⟩ | hunlisted)
      · exact ⟨hmain, .inl hnone⟩
      · refine ⟨fun hmain => ?_, .inr hunlisted⟩
        obtain ⟨names, hlists⟩ := hmain.exists_lists hslash hname
        exact hunlisted names hlists
  · rintro names order ⟨entries, hlist, rfl⟩ horder
    rw [← List.filterMap_eq_map] at horder
    obtain ⟨entries', hperm, hmap⟩ := exists_perm_filterMap horder
    rw [List.filterMap_eq_map] at hmap
    obtain ⟨store, hagree, hlist'⟩ := exists_agree_list hlist hperm
    have hw : Rearranged w { w with store } := ⟨rfl, hagree⟩
    exact ⟨store, hw, ⟨entries', hlist', hmap.symm⟩, hother _ hw⟩

/-- A directory that lists a later file before the first one. In front of both come the names of a
directory and of a file with another ending. -/
def shelf : Workspace :=
  { (default : Workspace) with
    store := ⟨OrderedMap.ofList [(["infra"], .directory), (["infra", "zeta.bicep"], .file []),
      (["infra", "aaa.bicep"], .directory), (["infra", "alpha.bicep"], .file []),
      (["infra", "a.txt"], .file [])]⟩ }

theorem load_answers_shelf : Askable {} Path.here shelf ∧
    ∃ i, (load {} Path.here).answer shelf = .ok i ∧
      i.source = some (Path.ofText "infra/alpha.bicep") := by
  have hlists : Lists {} Path.here shelf ["zeta.bicep", "aaa.bicep", "alpha.bicep", "a.txt"] :=
    ⟨["zeta.bicep", "aaa.bicep", "alpha.bicep", "a.txt"], by decide +kernel, by decide +kernel⟩
  have hask : Askable {} Path.here shelf := by
    refine ⟨by decide, by decide, fun names hnames => ?_⟩
    obtain rfl := hlists.unique hnames
    decide
  have hmissing : ¬HasMain {} Path.here shelf := by
    rintro ⟨bytes, hread⟩
    cases hread
  have hcandidate : Candidate {} Path.here shelf "alpha.bicep" :=
    ⟨⟨_, hlists, by decide⟩, ⟨[], rfl⟩, by decide⟩
  have hfirst : ∀ other, Candidate {} Path.here shelf other →
      ¬Text.Before other "alpha.bicep" := by
    rintro other ⟨⟨names, hnames, hother⟩, ⟨bytes, hread⟩, hending⟩
    obtain rfl := hlists.unique hnames
    simp only [List.mem_cons, List.not_mem_nil, or_false] at hother
    refine Text.atMost_iff.1 ?_
    rcases hother with rfl | rfl | rfl | rfl
    · decide
    · cases hread
    · decide
    · exact absurd hending (by decide)
  obtain ⟨i, hload, hsource, -⟩ := (load_answers {} Path.here shelf).2 hask
  exact ⟨hask, i, hload, hsource.unique (.first hmissing ⟨hcandidate, hfirst⟩)⟩

/-- The settings accept a lone surrogate as the name of the directory, which is short and holds no
null character, but it cannot be encoded, and loading fails. -/
theorem load_fails_on_surrogate :
    ∃ s, ({} : Settings).override [(.text "infra_dir", .text [.surrogate 0])] = .ok s ∧
      ↑ '\x00' ∉ (directory s Path.here).toText ∧ (directory s Path.here).toText.length < 255 ∧
      (load s Path.here).answer shelf =
        .error (.file (.unencodable ⟨0, [.surrogate 0]⟩) (directory s Path.here)) := by
  refine ⟨{ infraDir := [.surrogate 0] }, rfl, by decide, by decide, ?_⟩
  refine answer_load_eq_error_iff.2 ⟨_, ⟨?_, ?_⟩, rfl⟩
  · decide +kernel
  · decide +kernel

end Infrastructure

end Groundplan

import Groundplan.Proofs.Template.Reading

/-!
# The services of a template

**The document.** The configuration of a template is the document under the first of the names for
it that a file has (`Template.Configures`). If that one cannot be read, no other is tried.

**Services.** A service is declared by a key of the mapping below `services`
(`Template.DeclaresService`).

Main result: `Template.mem_services_iff`.
-/

namespace Groundplan

open Session

namespace Session

variable {α : Type} {p : α → Session Bool} {l : List α} {w : Workspace}

/-- What stands behind elements with `r` is the head, or the head has `r` too. -/
theorem exists_split_cons_iff {r : α → Prop} {q : Prop} {a b : α} :
    (∃ front back, b :: l = front ++ a :: back ∧ (∀ c ∈ front, r c) ∧ q) ↔
      b = a ∧ q ∨ r b ∧ ∃ front back, l = front ++ a :: back ∧ (∀ c ∈ front, r c) ∧ q := by
  constructor
  · rintro ⟨_ | ⟨c, front⟩, back, hsplit, hfront, ha⟩
    · obtain ⟨rfl, -⟩ := List.cons.inj hsplit
      exact .inl ⟨rfl, ha⟩
    · obtain ⟨rfl, rfl⟩ := List.cons.inj hsplit
      obtain ⟨hb, hfront⟩ := List.forall_mem_cons.1 hfront
      exact .inr ⟨hb, front, back, rfl, hfront, ha⟩
  · rintro (⟨rfl, ha⟩ | ⟨hb, front, back, rfl, hfront, ha⟩)
    · exact ⟨[], l, rfl, by simp, ha⟩
    · exact ⟨b :: front, back, rfl, List.forall_mem_cons.2 ⟨hb, hfront⟩, ha⟩

/-- Asking one element after the other finds the first one with the answer yes. -/
theorem answer_findM?_eq_some_iff (h : ∀ a, Reads (p a)) {a : α} :
    (l.findM? p).answer w = .ok (some a) ↔ ∃ front back, l = front ++ a :: back ∧
      (∀ b ∈ front, (p b).answer w = .ok false) ∧ (p a).answer w = .ok true := by
  induction l with
  | nil =>
    refine iff_of_false (by rintro ⟨⟩) ?_
    rintro ⟨front, back, hnil, -⟩
    exact List.append_ne_nil_of_right_ne_nil front (List.cons_ne_nil a back) hnil.symm
  | cons b l ih =>
    have hrest := (reads_findM? h l w).2 _ (h b w).1
    rw [exists_split_cons_iff, ← ih, List.findM?, answer_bind]
    cases hb : (p b).answer w with
    | error e =>
      refine iff_of_false (by rintro ⟨⟩) ?_
      rintro (⟨rfl, ha⟩ | ⟨⟨⟩, -⟩)
      rw [hb] at ha
      cases ha
    | ok found =>
      cases found with
      | true =>
        constructor
        · intro hanswer
          obtain rfl := Option.some.inj (Except.ok.inj hanswer)
          exact .inl ⟨rfl, hb⟩
        · rintro (⟨rfl, -⟩ | ⟨⟨⟩, -⟩)
          rfl
      | false =>
        dsimp only
        rw [hrest]
        refine ⟨fun hfound => .inr ⟨rfl, hfound⟩, ?_⟩
        rintro (⟨rfl, ha⟩ | ⟨-, hfound⟩)
        · rw [hb] at ha
          cases ha
        · exact hfound

end Session

namespace Template

variable {template : Path} {w : Workspace} {entries : List (Value × Value)} {name : Text}

/-! ## The document -/

/-- The configuration of the template has these entries: they are those of the mapping under the
first of the names for it that a file has. -/
def Configures (template : Path) (w : Workspace) (entries : List (Value × Value)) : Prop :=
  ∃ front name back, configurationNames = front ++ name :: back ∧
    (∀ other ∈ front, w.store.isFile w.here (template.child other) = .ok false) ∧
    (readMapping (template.child name)).answer w = .ok entries

theorem configures_congr {w' : Workspace} (h : SameFiles w w') :
    Configures template w' entries ↔ Configures template w entries := by
  simp only [Configures, h.store, h.here, (reads_readMapping _ w).2 w' h]

/-- What is read as a mapping is a file. -/
theorem isFile_of_readMapping {path : Path} (h : (readMapping path).answer w = .ok entries) :
    (isFile path).answer w = .ok true := by
  rw [readMapping, answer_bind, answer_readText] at h
  cases hread : w.store.read w.here path with
  | error fault => simp [hread] at h
  | ok bytes => exact answer_ask_eq_ok_iff.2 (Store.isFile_of_read hread)

theorem answer_findConfiguration_eq_some_iff {path : Path} :
    (findConfiguration template).answer w = .ok (some path) ↔ ∃ front name back,
      configurationNames = front ++ name :: back ∧ path = template.child name ∧
      (∀ other ∈ front, w.store.isFile w.here (template.child other) = .ok false) ∧
      (isFile path).answer w = .ok true := by
  rw [findConfiguration, answer_findM?_eq_some_iff reads_isFile]
  constructor
  · rintro ⟨front, back, hsplit, hfront, hfile⟩
    obtain ⟨names, rest, hnames, rfl, hrest⟩ := List.map_eq_append_iff.1 hsplit
    obtain ⟨name, rest, rfl, rfl, rfl⟩ := List.map_eq_cons_iff.1 hrest
    refine ⟨names, name, rest, hnames, rfl, fun other hother => ?_, hfile⟩
    exact answer_ask_eq_ok_iff.1 (hfront _ (List.mem_map_of_mem hother))
  · rintro ⟨front, name, back, hnames, rfl, hfront, hfile⟩
    refine ⟨front.map template.child, back.map template.child, by simp [hnames], ?_, hfile⟩
    intro other hother
    obtain ⟨name, hname, rfl⟩ := List.mem_map.1 hother
    exact answer_ask_eq_ok_iff.2 (hfront name hname)

theorem answer_loadConfiguration_eq_some_iff :
    (loadConfiguration template).answer w = .ok (some entries) ↔ Configures template w entries := by
  have hfiles := (reads_findConfiguration template w).1
  constructor
  · intro h
    rw [loadConfiguration, answer_bind] at h
    cases hfind : (findConfiguration template).answer w with
    | error e => simp [hfind] at h
    | ok found =>
      rw [hfind] at h
      cases found with
      | none => cases h
      | some path =>
        obtain ⟨front, name, back, hnames, rfl, hfront, -⟩ :=
          answer_findConfiguration_eq_some_iff.1 hfind
        refine ⟨front, name, back, hnames, hfront, ?_⟩
        dsimp only at h
        rw [answer_recover, answer_map, (reads_readMapping (template.child name) w).2 _ hfiles] at h
        cases hread : (readMapping (template.child name)).answer w with
        | ok found =>
          rw [hread] at h
          obtain rfl := Option.some.inj (Except.ok.inj h)
          rfl
        | error e =>
          rw [hread] at h
          dsimp only [Except.map] at h
          split at h <;> cases h
  · rintro ⟨front, name, back, hnames, hfront, hread⟩
    have hfind := answer_findConfiguration_eq_some_iff.2
      ⟨front, name, back, hnames, rfl, hfront, isFile_of_readMapping hread⟩
    rw [loadConfiguration, answer_bind, hfind]
    dsimp only
    rw [answer_recover, answer_map, (reads_readMapping (template.child name) w).2 _ hfiles, hread]
    rfl

/-! ## Services -/

/-- The configuration of the template declares a service: its name is a text that is not empty, and
a key of the mapping below `services`. -/
def DeclaresService (template : Path) (w : Workspace) (name : Text) : Prop :=
  name ≠ [] ∧ ∃ entries inner value, Configures template w entries ∧
    Value.lookup? (.text "services") entries = some (.map inner) ∧ (.text name, value) ∈ inner

theorem declaresService_congr {w' : Workspace} (h : SameFiles w w') :
    DeclaresService template w' name ↔ DeclaresService template w name := by
  simp only [DeclaresService, configures_congr h]

theorem serviceName?_eq_some_iff {key : Value} :
    serviceName? key = some name ↔ key = .text name ∧ name ≠ [] := by
  unfold serviceName?
  split
  · next t =>
    cases t with
    | nil => simp +contextual [eq_comm]
    | cons c t => simp +contextual [eq_comm]
  · next hkey => simpa using fun h => absurd h (hkey name)

theorem mem_services_iff_lookup? : name ∈ services entries ↔ name ≠ [] ∧ ∃ inner value,
    Value.lookup? (.text "services") entries = some (.map inner) ∧ (.text name, value) ∈ inner := by
  unfold services
  split
  · next inner hlookup =>
    simp only [List.mem_filterMap, Prod.exists, serviceName?_eq_some_iff, hlookup,
      Option.some.injEq, Value.map.injEq]
    constructor
    · rintro ⟨key, value, hmem, rfl, hname⟩
      exact ⟨hname, inner, value, rfl, hmem⟩
    · rintro ⟨hname, other, value, hother, hmem⟩
      exact ⟨_, value, hother ▸ hmem, rfl, hname⟩
  · next hlookup =>
    refine iff_of_false List.not_mem_nil ?_
    rintro ⟨-, inner, value, hinner, -⟩
    exact hlookup inner hinner

/-- **The services of a loaded configuration are those that the template declares.** -/
theorem mem_services_iff {c : Option (List (Value × Value))}
    (h : (loadConfiguration template).answer w = .ok c) :
    name ∈ services (c.getD []) ↔ DeclaresService template w name := by
  cases c with
  | none =>
    refine iff_of_false List.not_mem_nil ?_
    rintro ⟨-, entries, -, -, hconfigures, -⟩
    rw [answer_loadConfiguration_eq_some_iff.2 hconfigures] at h
    cases h
  | some entries =>
    have hentries := answer_loadConfiguration_eq_some_iff.1 h
    rw [Option.getD_some, mem_services_iff_lookup?]
    refine and_congr_right fun _ => ⟨?_, ?_⟩
    · rintro ⟨inner, value, hlookup, hmem⟩
      exact ⟨entries, inner, value, hentries, hlookup, hmem⟩
    · rintro ⟨other, inner, value, hother, hlookup, hmem⟩
      rw [answer_loadConfiguration_eq_some_iff.2 hother] at h
      obtain rfl := Option.some.inj (Except.ok.inj h)
      exact ⟨inner, value, hlookup, hmem⟩

end Template

end Groundplan

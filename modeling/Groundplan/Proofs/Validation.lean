import Groundplan.Validation
import Groundplan.Proofs.Flowchart.Links
import Groundplan.Proofs.OrderedMap
import Groundplan.Proofs.Text.Quoted

/-!
# What validation finds

Nothing is found in a set of resources exactly when the set is sound (`findings_eq_nil_iff`): it has
a resource, every key can be an identifier, every resource has a body and is connected to resources
of the set only, and the tags are the declared services if there are any.

**Messages.** A key that cannot be an identifier is an error (`isId_of_errors_eq_nil`). Everything
that is found is an error or a warning, so a set without errors and warnings is sound
(`sound_of_validate_eq_nil`).
-/

namespace Groundplan

/-- An issue shows a key and another text when its path holds the key and its message quotes
both. -/
theorem Issue.shown_inj {key key' shown shown' path rest before middle after : Text}
    (hpath : path ++ key ++ rest = path ++ key' ++ rest)
    (hmessage : before ++ Text.quoted key ++ middle ++ Text.quoted shown ++ after =
      before ++ Text.quoted key' ++ middle ++ Text.quoted shown' ++ after) :
    key = key' ∧ shown = shown' := by
  have hkey : key = key' := List.append_cancel_left (List.append_cancel_right hpath)
  subst hkey
  exact ⟨rfl, Text.quoted_injective
    (List.append_cancel_left (List.append_cancel_right hmessage))⟩

namespace ResourceSet

variable {rs : ResourceSet} {services : List Text} {r : Resource} {key target tag : Text}
variable {issue : Issue}

/-! ## Connections and tags -/

theorem mem_unknownTargets :
    target ∈ rs.unknownTargets r ↔ target ∈ r.connections ∧ target ∉ rs.keys := by
  suffices haux : ∀ (l found : List Text), target ∈ l.foldl (fun found target =>
      if rs.contains target || found.contains target then found else found ++ [target]) found ↔
      target ∈ found ∨ target ∈ l ∧ target ∉ rs.keys by
    rw [unknownTargets, haux]
    exact or_iff_right List.not_mem_nil
  intro l
  induction l with
  | nil => simp
  | cons a l ih =>
    intro found
    rw [List.foldl_cons, ih]
    by_cases hknown : a ∈ rs.keys
    · have hcontains := OrderedMap.contains_iff_mem.2 hknown
      by_cases ha : target = a
      · simp [hcontains, ha, hknown]
      · simp [hcontains, ha]
    · have hcontains : rs.contains a = false := by
        rw [← Bool.not_eq_true, OrderedMap.contains_iff_mem]
        exact hknown
      by_cases hfound : a ∈ found
      · by_cases ha : target = a
        · simp [hcontains, ha, hfound]
        · simp [hcontains, ha, hfound]
      · by_cases ha : target = a
        · simp [hcontains, ha, hfound, hknown]
        · simp [hcontains, ha, hfound]

/-- A resource of the set is tagged with the service. -/
def HasTag (rs : ResourceSet) (tag : Text) : Prop := ∃ p ∈ rs.entries, p.2.service? = some tag

theorem mem_keys_serviceTags : tag ∈ rs.serviceTags.keys ↔ rs.HasTag tag := by
  rw [serviceTags, OrderedMap.mem_keys_ofList]
  simp only [List.mem_filterMap, Option.map_eq_some_iff, Prod.mk.injEq, HasTag]
  constructor
  · intro h
    obtain ⟨v, ⟨key, r⟩, hp, service, hservice, rfl, rfl⟩ := h
    exact ⟨(key, r), hp, hservice⟩
  · intro h
    obtain ⟨⟨key, r⟩, hp, hservice⟩ := h
    exact ⟨key, (key, r), hp, tag, hservice, rfl, rfl⟩

/-! ## What the findings are about -/

theorem mem_resourceFindings : issue ∈ rs.resourceFindings key r ↔
    (Flowchart.isId key = false ∧ issue = Issue.unsafeId key) ∨
      (r.body = none ∧ issue = Issue.noBody key) ∨
      ∃ target ∈ rs.unknownTargets r, issue = Issue.unknownConnection key target := by
  have hid : issue ∈ (if Flowchart.isId key then [] else [Issue.unsafeId key]) ↔
      Flowchart.isId key = false ∧ issue = Issue.unsafeId key := by
    cases Flowchart.isId key <;> simp
  have hbody : issue ∈ (if r.body.isNone then [Issue.noBody key] else []) ↔
      r.body = none ∧ issue = Issue.noBody key := by
    cases r.body <;> simp
  rw [resourceFindings, List.mem_append, List.mem_append, hid, hbody, or_assoc, List.mem_map]
  simp only [eq_comm]

theorem cases_of_mem_serviceFindings (h : issue ∈ rs.serviceFindings services) :
    (∃ service, issue = Issue.untaggedService service) ∨
      ∃ key tag, issue = Issue.unknownTag key tag := by
  rcases List.mem_append.1 h with h | h
  · obtain ⟨service, -, rfl⟩ := List.mem_map.1 h
    exact .inl ⟨service, rfl⟩
  · obtain ⟨p, -, rfl⟩ := List.mem_map.1 h
    exact .inr ⟨p.2, p.1, rfl⟩

/-! ## Soundness -/

/-- Nothing is wrong with the set. -/
structure Sound (rs : ResourceSet) (services : List Text) : Prop where
  nonempty : rs.entries ≠ []
  isId : ∀ key ∈ rs.keys, Flowchart.isId key = true
  hasBody : ∀ p ∈ rs.entries, p.2.body ≠ none
  connected : ∀ p ∈ rs.entries, ∀ target ∈ p.2.connections, target ∈ rs.keys
  tagged : services ≠ [] → ∀ tag, tag ∈ services ↔ rs.HasTag tag

theorem resourceFindings_eq_nil_iff : rs.resourceFindings key r = [] ↔
    Flowchart.isId key = true ∧ r.body ≠ none ∧ ∀ target ∈ r.connections, target ∈ rs.keys := by
  have htargets : rs.unknownTargets r = [] ↔ ∀ target ∈ r.connections, target ∈ rs.keys := by
    rw [List.eq_nil_iff_forall_not_mem]
    simp only [mem_unknownTargets, not_and, not_not]
  rw [resourceFindings, List.append_eq_nil_iff, List.append_eq_nil_iff, List.map_eq_nil_iff,
    htargets, and_assoc]
  cases Flowchart.isId key <;> cases r.body <;> simp

theorem serviceFindings_eq_nil_iff :
    rs.serviceFindings services = [] ↔ ∀ tag, tag ∈ services ↔ rs.HasTag tag := by
  have htagged : (services.filter fun service => !rs.serviceTags.contains service) = [] ↔
      ∀ service ∈ services, rs.HasTag service := by
    rw [List.filter_eq_nil_iff]
    refine forall₂_congr fun service _ => ?_
    rw [← mem_keys_serviceTags, ← OrderedMap.contains_iff_mem, Bool.not_eq_true',
      Bool.not_eq_false]
  have hdeclared : (rs.serviceTags.entries.filter fun p => !services.contains p.1) = [] ↔
      ∀ tag, rs.HasTag tag → tag ∈ services := by
    rw [List.filter_eq_nil_iff]
    simp only [← mem_keys_serviceTags, OrderedMap.keys, List.mem_map, Bool.not_eq_true',
      Bool.not_eq_false, List.contains_iff_mem]
    constructor
    · rintro h tag ⟨p, hp, rfl⟩
      exact h p hp
    · intro h p hp
      exact h p.1 ⟨p, hp, rfl⟩
  rw [serviceFindings, List.append_eq_nil_iff, List.map_eq_nil_iff, List.map_eq_nil_iff, htagged]
  refine (and_congr_right' hdeclared).trans ?_
  exact ⟨fun h tag => ⟨h.1 tag, h.2 tag⟩, fun h => ⟨fun tag => (h tag).1, fun tag => (h tag).2⟩⟩

/-- **Nothing is found in a set exactly when it is sound.** -/
theorem findings_eq_nil_iff : rs.findings services true = [] ↔ rs.Sound services := by
  have hservices : (if true && !services.isEmpty then rs.serviceFindings services else []) = [] ↔
      (services ≠ [] → ∀ tag, tag ∈ services ↔ rs.HasTag tag) := by
    cases services with
    | nil => simp
    | cons service services => simp [serviceFindings_eq_nil_iff]
  rw [findings, OrderedMap.isEmpty]
  split
  · next hempty =>
    refine ⟨fun h => absurd h (List.cons_ne_nil _ _), fun h => ?_⟩
    exact absurd (List.isEmpty_iff.1 hempty) h.nonempty
  · next hempty =>
    rw [List.append_eq_nil_iff, hservices, List.flatMap_eq_nil_iff]
    refine (and_congr_left' (forall₂_congr fun p _ => resourceFindings_eq_nil_iff)).trans ?_
    constructor
    · intro h
      obtain ⟨hentries, htags⟩ := h
      refine ⟨fun hnil => hempty (List.isEmpty_iff.2 hnil), ?_, fun p hp => (hentries p hp).2.1,
        fun p hp => (hentries p hp).2.2, htags⟩
      intro key hkey
      obtain ⟨p, hp, rfl⟩ := List.mem_map.1 hkey
      exact (hentries p hp).1
    · intro h
      exact ⟨fun p hp => ⟨h.isId p.1 (List.mem_map_of_mem hp), h.hasBody p hp, h.connected p hp⟩,
        h.tagged⟩

/-! ## Messages -/

theorem issues_default : ({} : Policy).issues rs services = rs.findings services true := by
  have hreport : ({} : Policy).report? = some := by
    funext issue
    simp [Policy.report?]
  rw [Policy.issues, hreport, List.filterMap_some]

theorem messages_eq_nil_iff {severity : Severity} {issues : List Issue} :
    Report.messages severity issues = [] ↔ ∀ issue ∈ issues, issue.severity ≠ severity := by
  simp only [Report.messages, List.map_eq_nil_iff, List.filter_eq_nil_iff, decide_eq_true_eq, ne_eq]

/-- A set without errors has identifiers for keys. -/
theorem isId_of_errors_eq_nil (h : (rs.validate services).errors = []) (hkey : key ∈ rs.keys) :
    Flowchart.isId key = true := by
  obtain ⟨p, hp, rfl⟩ := List.mem_map.1 hkey
  have hissues := messages_eq_nil_iff.1 h
  rw [issues_default, findings, OrderedMap.isEmpty, if_neg fun hempty => by
    rw [List.isEmpty_iff.1 hempty] at hp
    cases hp] at hissues
  rw [← Bool.not_eq_false]
  intro hid
  refine hissues (Issue.unsafeId p.1) (List.mem_append_left _ ?_) rfl
  exact List.mem_flatMap.2 ⟨p, hp, mem_resourceFindings.2 (.inl ⟨hid, rfl⟩)⟩

/-- **A set without errors and warnings is sound.** -/
theorem sound_of_validate_eq_nil (herrors : (rs.validate services).errors = [])
    (hwarnings : (rs.validate services).warnings = []) : rs.Sound services := by
  have herrors := messages_eq_nil_iff.1 herrors
  have hwarnings := messages_eq_nil_iff.1 hwarnings
  rw [issues_default] at herrors hwarnings
  refine findings_eq_nil_iff.1 (List.eq_nil_iff_forall_not_mem.2 fun issue hissue => ?_)
  cases hseverity : issue.severity with
  | error => exact herrors issue hissue hseverity
  | warning => exact hwarnings issue hissue hseverity

end ResourceSet

end Groundplan

import Mathlib.Data.List.Forall2
import Groundplan.Proofs.Validation

/-!
# Services and tags

**Tags.** The tags of a set are the service properties of its resources that are not empty
(`mem_tags_iff`), in the order of the resources and with repetition (`tags`). Validation
keeps each of them once, where it first occurs (`keys_serviceTags`), with the last resource that
carries it (`lastCarrier_of_mem`).

**Issues.** No resource on its own leads to an issue about services (`withCode_findings`). So the
issues about untagged services are the declared services that are no tag
(`withCode_untaggedService`), and those about unknown tags are the tags that are not declared
(`forall₂_withCode_unknownTag`).

Main result: `service_check_exact`.
-/

namespace Groundplan

/-! ## What an issue tells -/

namespace Issue

/-- An issue about an untagged service shows the service. -/
theorem untaggedService_inj {service service' : Text} :
    untaggedService service = untaggedService service' ↔ service = service' := by
  constructor
  · intro h
    exact List.append_cancel_left (congrArg Issue.path h)
  · rintro rfl
    rfl

/-- An issue about an unknown tag shows the resource and the tag. -/
theorem unknownTag_inj {key key' tag tag' : Text} :
    unknownTag key tag = unknownTag key' tag' ↔ key = key' ∧ tag = tag' := by
  constructor
  · exact fun h => shown_inj (congrArg Issue.path h) (congrArg Issue.message h)
  · rintro ⟨rfl, rfl⟩
    rfl

end Issue

namespace ResourceSet

variable {rs : ResourceSet} {services : List Text} {key tag : Text} {r : Resource} {issue : Issue}

/-! ## Tags -/

/-- The services that the resources are tagged with, in the order of the resources. -/
def tags (rs : ResourceSet) : List Text := rs.values.filterMap Resource.service?

/-- The resource under `key` carries the tag, and no later one does. -/
def LastCarrier (rs : ResourceSet) (tag key : Text) : Prop :=
  ∃ front r back, rs.entries = front ++ (key, r) :: back ∧ r.service? = some tag ∧
    ∀ p ∈ back, p.2.service? ≠ some tag

theorem mem_tags : tag ∈ rs.tags ↔ rs.HasTag tag := by
  simp only [tags, OrderedMap.values, List.filterMap_map, List.mem_filterMap, HasTag,
    Function.comp_apply]

/-- The tags are the service properties that are not empty. -/
theorem mem_tags_iff : tag ∈ rs.tags ↔
    tag ≠ [] ∧ ∃ p ∈ rs.entries, p.2.properties.get? "service" = some tag := by
  have hservice : ∀ r : Resource, r.service? = some tag ↔
      tag ≠ [] ∧ r.properties.get? "service" = some tag := by
    intro r
    rw [Resource.service?, Resource.property?, Option.filter_eq_some_iff, and_comm]
    exact and_congr_left' (by simp)
  rw [mem_tags, HasTag]
  constructor
  · rintro ⟨p, hp, htag⟩
    exact ⟨((hservice p.2).1 htag).1, p, hp, ((hservice p.2).1 htag).2⟩
  · rintro ⟨hne, p, hp, htag⟩
    exact ⟨p, hp, (hservice p.2).2 ⟨hne, htag⟩⟩

/-- Each tag is kept once, where it first occurs. -/
theorem keys_serviceTags (rs : ResourceSet) : rs.serviceTags.keys = rs.tags.eraseDups := by
  rw [serviceTags, OrderedMap.keys_ofList, List.map_filterMap, tags, OrderedMap.values,
    List.filterMap_map]
  refine congrArg List.eraseDups (List.filterMap_congr fun p _ => ?_)
  show Option.map Prod.fst (p.2.service?.map fun tag => (tag, p.1)) = p.2.service?
  rw [Option.map_map]
  exact Option.map_id'

/-- Each tag is kept with the last resource that carries it. -/
theorem lastCarrier_of_mem (h : (tag, key) ∈ rs.serviceTags.entries) : rs.LastCarrier tag key := by
  obtain ⟨front, back, hsplit, hlast⟩ := OrderedMap.mem_entries_ofList_iff.1 h
  obtain ⟨l, rest, hentries, -, hrest⟩ := List.filterMap_eq_append_iff.1 hsplit
  obtain ⟨skipped, p, rest', rfl, -, hp, rfl⟩ := List.filterMap_eq_cons_iff.1 hrest
  obtain ⟨service, hservice, hentry⟩ := Option.map_eq_some_iff.1 hp
  obtain ⟨rfl, rfl⟩ := Prod.mk.inj hentry
  refine ⟨l ++ skipped, p.2, rest', ?_, hservice, ?_⟩
  · rw [hentries, List.append_assoc]
  · intro q hq hcarries
    have hkept : q.2.service?.map (fun tag => (tag, q.1)) = some (service, q.1) := by
      rw [hcarries]
      rfl
    exact hlast (service, q.1) (List.mem_filterMap.2 ⟨q, hq, hkept⟩) rfl

/-! ## Issues about services -/

/-- The issues with a code. -/
def withCode (code : IssueCode) (issues : List Issue) : List Issue :=
  issues.filter fun issue => issue.code = code

theorem withCode_append (code : IssueCode) (l l' : List Issue) :
    withCode code (l ++ l') = withCode code l ++ withCode code l' :=
  List.filter_append ..

theorem withCode_map {α : Type} {f : α → Issue} {code : IssueCode} (h : ∀ a, (f a).code = code)
    (l : List α) : withCode code (l.map f) = l.map f := by
  rw [withCode, List.filter_eq_self]
  intro issue hissue
  obtain ⟨a, -, rfl⟩ := List.mem_map.1 hissue
  exact decide_eq_true (h a)

theorem withCode_map_of_ne {α : Type} {f : α → Issue} {code : IssueCode}
    (h : ∀ a, (f a).code ≠ code) (l : List α) : withCode code (l.map f) = [] := by
  rw [withCode, List.filter_eq_nil_iff]
  intro issue hissue
  obtain ⟨a, -, rfl⟩ := List.mem_map.1 hissue
  simpa using h a

theorem code_of_mem_resourceFindings (h : issue ∈ rs.resourceFindings key r) :
    issue.code ∈ [IssueCode.unsafeId, IssueCode.noBody, IssueCode.unknownConnection] := by
  rcases mem_resourceFindings.1 h with ⟨-, rfl⟩ | ⟨-, rfl⟩ | ⟨target, -, rfl⟩
  · exact List.mem_cons_self
  · exact List.mem_cons_of_mem _ List.mem_cons_self
  · exact List.mem_cons_of_mem _ (List.mem_cons_of_mem _ List.mem_cons_self)

/-- The issues about services come from comparing the services with the tags. -/
theorem withCode_findings {code : IssueCode} (hentries : rs.entries ≠ [])
    (hservices : services ≠ [])
    (hcode : code ∉ [IssueCode.unsafeId, IssueCode.noBody, IssueCode.unknownConnection]) :
    withCode code (rs.findings services true) = withCode code (rs.serviceFindings services) := by
  have hresources :
      withCode code (rs.entries.flatMap fun p => rs.resourceFindings p.1 p.2) = [] := by
    rw [withCode, List.filter_eq_nil_iff]
    intro issue hissue
    obtain ⟨p, -, hissue⟩ := List.mem_flatMap.1 hissue
    rw [decide_eq_true_eq]
    rintro rfl
    exact hcode (code_of_mem_resourceFindings hissue)
  have hfull : rs.isEmpty = false := by simpa [OrderedMap.isEmpty] using hentries
  have hdeclared : services.isEmpty = false := by simpa using hservices
  rw [findings, hfull, hdeclared, if_neg Bool.false_ne_true, if_pos (by rfl), withCode,
    List.filter_append]
  exact congrArg (· ++ _) hresources

/-- A comparison finds services first and then tags. -/
theorem withCode_serviceFindings (rs : ResourceSet) (services : List Text) :
    withCode .untaggedService (rs.serviceFindings services) = (services.filter fun service =>
      !rs.serviceTags.contains service).map Issue.untaggedService ∧
    withCode .unknownTag (rs.serviceFindings services) = (rs.serviceTags.entries.filter fun p =>
      !services.contains p.1).map fun p => Issue.unknownTag p.2 p.1 := by
  have hservice : ∀ service, (Issue.untaggedService service).code = .untaggedService :=
    fun _ => rfl
  have htag : ∀ p : Text × Text, (Issue.unknownTag p.2 p.1).code = .unknownTag := fun _ => rfl
  rw [serviceFindings]
  constructor
  · rw [withCode_append, withCode_map hservice, withCode_map_of_ne fun p => by simp [htag],
      List.append_nil]
  · rw [withCode_append, withCode_map_of_ne fun service => by simp [hservice],
      withCode_map htag, List.nil_append]

/-- The services that are no tag, in order and as often as they are declared. -/
theorem withCode_untaggedService (rs : ResourceSet) (services : List Text) :
    withCode .untaggedService (rs.serviceFindings services) =
      (services.filter fun service => service ∉ rs.tags).map Issue.untaggedService := by
  rw [(withCode_serviceFindings rs services).1]
  refine congrArg (List.map _) (List.filter_congr fun service _ => ?_)
  rw [Bool.eq_iff_iff, Bool.not_eq_true', ← Bool.not_eq_true, OrderedMap.contains_iff_mem,
    mem_keys_serviceTags, ← mem_tags, decide_eq_true_eq]

/-- The tags that are no service, each once and where it first occurs, with the last resource that
carries it. -/
theorem forall₂_withCode_unknownTag (rs : ResourceSet) (services : List Text) :
    List.Forall₂ (fun tag issue => ∃ key, rs.LastCarrier tag key ∧ issue = Issue.unknownTag key tag)
      (rs.tags.eraseDups.filter fun tag => tag ∉ services)
      (withCode .unknownTag (rs.serviceFindings services)) := by
  have htags : (rs.tags.eraseDups.filter fun tag => tag ∉ services) =
      (rs.serviceTags.entries.filter fun p => !services.contains p.1).map Prod.fst := by
    rw [← keys_serviceTags, OrderedMap.keys, List.filter_map]
    refine congrArg (List.map _) (List.filter_congr fun p _ => ?_)
    simp
  rw [(withCode_serviceFindings rs services).2, htags, List.forall₂_map_left_iff,
    List.forall₂_map_right_iff, List.forall₂_same]
  intro p hp
  exact ⟨p.2, lastCarrier_of_mem (List.mem_of_mem_filter hp), rfl⟩

/-- Nothing is said about services exactly when they are the tags. -/
theorem no_issue_about_services_iff (hentries : rs.entries ≠ []) (hservices : services ≠ []) :
    (∀ issue ∈ rs.findings services true,
      issue.code ≠ .untaggedService ∧ issue.code ≠ .unknownTag) ↔
      ∀ tag, tag ∈ services ↔ tag ∈ rs.tags := by
  have hnone : ∀ code, withCode code (rs.findings services true) = [] ↔
      ∀ issue ∈ rs.findings services true, issue.code ≠ code := by
    intro code
    simp only [withCode, List.filter_eq_nil_iff, decide_eq_true_eq, ne_eq]
  have hfound : withCode .untaggedService (rs.serviceFindings services) = [] ∧
      withCode .unknownTag (rs.serviceFindings services) = [] ↔
      rs.serviceFindings services = [] := by
    rw [(withCode_serviceFindings rs services).1, (withCode_serviceFindings rs services).2,
      serviceFindings, List.append_eq_nil_iff]
  simp only [mem_tags]
  rw [← serviceFindings_eq_nil_iff, ← hfound, ← withCode_findings hentries hservices (by decide),
    ← withCode_findings hentries hservices (by decide), hnone, hnone]
  exact forall₂_and

/-- **The comparison of services and tags is exact.** In a set that is not empty, with services
declared: the issues about untagged services are, in order and with repetition, the services that
are no tag; the issues about unknown tags are, in the order in which the tags first occur, one for
each tag that is no service, about the last resource that carries it; and there is no issue of
either kind exactly when the services and the tags are the same. The tags are the service properties
that are not empty. Each issue tells what it is about. -/
theorem service_check_exact (rs : ResourceSet) (services : List Text) (hentries : rs.entries ≠ [])
    (hservices : services ≠ []) :
    withCode .untaggedService (({} : Policy).issues rs services) =
        (services.filter fun service => service ∉ rs.tags).map Issue.untaggedService ∧
      List.Forall₂
        (fun tag issue => ∃ key, rs.LastCarrier tag key ∧ issue = Issue.unknownTag key tag)
        (rs.tags.eraseDups.filter fun tag => tag ∉ services)
        (withCode .unknownTag (({} : Policy).issues rs services)) ∧
      ((∀ issue ∈ ({} : Policy).issues rs services,
          issue.code ≠ .untaggedService ∧ issue.code ≠ .unknownTag) ↔
        ∀ tag, tag ∈ services ↔ tag ∈ rs.tags) ∧
      (∀ tag, tag ∈ rs.tags ↔
        tag ≠ [] ∧ ∃ p ∈ rs.entries, p.2.properties.get? "service" = some tag) ∧
      (∀ service service', Issue.untaggedService service = Issue.untaggedService service' →
        service = service') ∧
      ∀ key key' tag tag', Issue.unknownTag key tag = Issue.unknownTag key' tag' →
        key = key' ∧ tag = tag' := by
  rw [issues_default]
  refine ⟨?_, ?_, no_issue_about_services_iff hentries hservices, fun _ => mem_tags_iff,
    fun _ _ => Issue.untaggedService_inj.1, fun _ _ _ _ => Issue.unknownTag_inj.1⟩
  · rw [withCode_findings hentries hservices (by decide), withCode_untaggedService]
  · rw [withCode_findings hentries hservices (by decide)]
    exact forall₂_withCode_unknownTag rs services

/-- A resource with a tag. -/
def carrier (id tag : Text) : Resource where
  id := id
  type := "T"
  properties := OrderedMap.ofList [("service", tag)]

/-- Two resources with the same tag around one with another tag and one with an empty tag. -/
def staged : ResourceSet where
  entries := [("web", carrier "web" "ui"), ("db", carrier "db" ""), ("job", carrier "job" "batch"),
    ("slot", carrier "slot" "ui")]
  distinct := by decide

theorem service_check_exact_staged :
    staged.entries ≠ [] ∧ [("api" : Text), "batch", "api"] ≠ [] ∧
      withCode .untaggedService (({} : Policy).issues staged ["api", "batch", "api"]) =
        [Issue.untaggedService "api", Issue.untaggedService "api"] ∧
      (∃ key, staged.LastCarrier "ui" key ∧
        withCode .unknownTag (({} : Policy).issues staged ["api", "batch", "api"]) =
          [Issue.unknownTag key "ui"]) ∧
      staged.LastCarrier "ui" "slot" := by
  have hentries : staged.entries ≠ [] := List.cons_ne_nil _ _
  have hservices : [("api" : Text), "batch", "api"] ≠ [] := List.cons_ne_nil _ _
  obtain ⟨huntagged, hunknown, -⟩ :=
    service_check_exact staged ["api", "batch", "api"] hentries hservices
  have htags : (staged.tags.eraseDups.filter fun tag => tag ∉ [("api" : Text), "batch", "api"]) =
      [("ui" : Text)] := by decide
  rw [htags] at hunknown
  obtain ⟨issue, rest, ⟨key, hkey, rfl⟩, hrest, hissues⟩ := List.forall₂_cons_left_iff.1 hunknown
  rw [List.forall₂_nil_left_iff] at hrest
  refine ⟨hentries, hservices, huntagged.trans (by decide), ⟨key, hkey, ?_⟩, ?_⟩
  · rw [hissues, hrest]
  · exact ⟨staged.entries.take 3, carrier "slot" "ui", [], rfl, by decide, by simp⟩

end ResourceSet

end Groundplan

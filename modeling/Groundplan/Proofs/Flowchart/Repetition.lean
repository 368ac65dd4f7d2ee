import Mathlib.Logic.Function.Iterate
import Groundplan.Proofs.Flowchart.Locality
import Groundplan.Proofs.Validation.Connections

/-!
# Repeating inference changes nothing visible

Inference is not idempotent: each run appends the same connections again (`infer_iterate`). Its
name and its service a resource gets once (`Resource.infer_infer_properties`).

**Relisting.** To list connections again that a resource has already (`ResourceSet.relist`)
changes nothing that is drawn or reported. The view of the resource then shows the same texts, so
a pattern without punctuation is found in it as before (`Resource.infix_view_relist_iff`), and a
connection out of the set is reported where it first occurs (`unknownTargets_append`).

Main result: `infer_repeated`.
-/

namespace Groundplan

/-! ## Properties -/

namespace OrderedMap

variable {α β : Type} [DecidableEq α] {k : α} {v : β}

theorem insertEntry_eq_self {l : List (α × β)} (h : l.lookup k = some v) :
    insertEntry k v l = l := by
  induction l with
  | nil => cases h
  | cons e l ih =>
    obtain ⟨a, b⟩ := e
    rw [insertEntry]
    rw [List.lookup_cons] at h
    by_cases ha : a = k
    · subst ha
      rw [beq_self_eq_true] at h
      rw [if_pos rfl, Option.some.inj h]
    · rw [beq_false_of_ne (Ne.symm ha)] at h
      rw [if_neg ha, ih h]

/-- Inserting the value that a key has changes nothing. -/
theorem insert_eq_self {m : OrderedMap α β} (h : m.get? k = some v) : m.insert k v = m :=
  ext (insertEntry_eq_self h)

end OrderedMap

namespace Resource

variable {s : Settings} {r : Resource} {keys again : List Text} {target p : Text}

/-- A property that has been set is there. -/
theorem withProperty_eq_self {properties : OrderedMap Text Text} {name : Text} {value : Option Text}
    (h : ∀ t ∈ value, properties.get? name = some t) :
    withProperty properties name value = properties := by
  cases value with
  | none => rfl
  | some t => exact OrderedMap.insert_eq_self (h t rfl)

theorem get?_withProperty_self {properties : OrderedMap Text Text} {name : Text}
    {value : Option Text} :
    ∀ t ∈ value, (withProperty properties name value).get? name = some t := by
  rintro t ⟨⟩
  simp [withProperty]

theorem get?_withProperty_of_ne {properties : OrderedMap Text Text} {name other : Text}
    {value : Option Text} (h : other ≠ name) :
    (withProperty properties name value).get? other = properties.get? other := by
  cases value with
  | none => rfl
  | some t => simp [withProperty, h]

/-- The name and the service are set once. -/
theorem infer_infer_properties (s : Settings) (keys : List Text) (r : Resource) :
    ((r.infer s keys).infer s keys).properties = (r.infer s keys).properties := by
  cases hbody : r.body with
  | none => simp only [infer, hbody]
  | some body =>
    have hname : nameProperty ≠ serviceProperty := by decide
    simp only [infer, hbody, inferredProperties]
    have hset : ∀ t ∈ Body.name? body,
        (r.inferredProperties s body).get? nameProperty = some t := by
      intro t ht
      rw [inferredProperties, get?_withProperty_of_ne hname]
      exact get?_withProperty_self t ht
    rw [inferredProperties] at hset
    rw [withProperty_eq_self hset, withProperty_eq_self get?_withProperty_self]

/-! ## Connections -/

/-- What a run of inference appends to the connections of a resource. -/
def addedConnections (s : Settings) (keys : List Text) (r : Resource) : List Text :=
  match r.body with
  | none => []
  | some body => r.inferredConnections s keys body

theorem infer_connections (s : Settings) (keys : List Text) (r : Resource) :
    (r.infer s keys).connections = r.connections ++ r.addedConnections s keys := by
  cases hbody : r.body with
  | none => simp only [infer, addedConnections, hbody, List.append_nil]
  | some body => simp only [infer, addedConnections, hbody]

/-- The resource with connections listed at the end. -/
def relist (again : List Text) (r : Resource) : Resource :=
  { r with connections := r.connections ++ again }

/-- A resource that has been inferred only gets its added connections again. -/
theorem infer_relist_infer (s : Settings) (keys again : List Text) (r : Resource) :
    ((r.infer s keys).relist again).infer s keys =
      (r.infer s keys).relist (again ++ r.addedConnections s keys) := by
  have hproperties := infer_infer_properties s keys r
  cases hbody : r.body with
  | none => simp only [infer, hbody, relist, addedConnections, List.append_nil]
  | some body =>
    -- The second run looks at the properties that the first one has set.
    simp only [infer, hbody] at hproperties
    have hset : ∀ connections : List Text, inferredProperties s
        { r with properties := r.inferredProperties s body, connections, body := some body } body =
        r.inferredProperties s body := fun _ => hproperties
    simp only [infer, hbody, relist, addedConnections, List.append_assoc, hset]
    rfl

theorem infer_iterate (s : Settings) (keys : List Text) (r : Resource) (k : Nat) :
    (infer s keys)^[k + 1] r =
      (r.infer s keys).relist (List.replicate k (r.addedConnections s keys)).flatten := by
  induction k with
  | zero =>
    rw [List.replicate_zero, List.flatten_nil, relist, List.append_nil]
    rfl
  | succ k ih =>
    rw [Function.iterate_succ_apply', ih, infer_relist_infer, List.replicate_succ',
      List.flatten_append, List.flatten_singleton]

/-! ## What is shown -/

theorem mem_texts_relist {t : Text} (h : ∀ c ∈ again, c ∈ r.connections) :
    t ∈ (r.relist again).texts ↔ t ∈ r.texts := by
  have hconnections : t ∈ r.connections ++ again ↔ t ∈ r.connections := by
    rw [List.mem_append]
    exact or_iff_left_of_imp (h t)
  simp only [texts, relist, List.mem_cons, List.mem_append (s := _ ++ again), hconnections,
    List.mem_append]

/-- Where a pattern is found depends on the texts of a resource, not on how often it shows them. -/
theorem infix_view_relist_iff (hp : Json.IsInner p) (h : ∀ c ∈ again, c ∈ r.connections) :
    p <:+: (r.relist again).view ↔ p <:+: r.view := by
  rw [infix_view_iff hp, infix_view_iff hp]
  simp only [mem_texts_relist h]

theorem mentions_view_relist (htarget : Text.IsWord target) (h : ∀ c ∈ again, c ∈ r.connections) :
    Body.Mentions (r.relist again).view target ↔ Body.Mentions r.view target := by
  rw [mentions_view_iff htarget, mentions_view_iff htarget]
  simp only [mem_texts_relist h]

theorem planHosted_view_relist (hfarm : Text.IsWord s.serverFarmProperty)
    (h : ∀ c ∈ again, c ∈ r.connections) :
    (r.relist again).PlanHosted s (r.relist again).view ↔ r.PlanHosted s r.view := by
  refine or_congr Iff.rfl ?_
  by_cases hne : s.serverFarmProperty = []
  · rw [hne]
    exact iff_of_true (List.nil_infix) (List.nil_infix)
  · exact infix_view_relist_iff ((Json.isPath_of_isWord hfarm).isInner hne) h

theorem links_relist (hfarm : Text.IsWord s.serverFarmProperty) (htarget : Text.IsWord target)
    (h : ∀ c ∈ again, c ∈ r.connections) :
    (r.relist again).Links s target ↔ r.Links s target := by
  have hconnections : target ∈ r.connections ++ again ↔ target ∈ r.connections := by
    rw [List.mem_append]
    exact or_iff_left_of_imp (h target)
  exact or_congr hconnections (or_congr (mentions_view_relist htarget h)
    (and_congr_right' (planHosted_view_relist hfarm h)))

end Resource

/-! ## Sets of resources -/

namespace ResourceSet

variable {s : Settings} {rs : ResourceSet} {again : Text → List Text} {services : List Text}
variable {checkTags : Bool}

/-- The set in which each resource lists the connections given for its key at the end. -/
def relist (again : Text → List Text) (rs : ResourceSet) : ResourceSet :=
  rs.mapValues fun key r => r.relist (again key)

/-- Only connections that the resources have already are listed again. -/
def ListsAgain (again : Text → List Text) (rs : ResourceSet) : Prop :=
  ∀ p ∈ rs.entries, ∀ target ∈ again p.1, target ∈ p.2.connections

@[simp] theorem keys_relist : (rs.relist again).keys = rs.keys := OrderedMap.keys_mapValues _ _

theorem WordKeyed.relist (h : rs.WordKeyed) : (rs.relist again).WordKeyed := by
  intro p hp
  obtain ⟨q, hq, rfl⟩ := List.mem_map.1 hp
  exact h q hq

theorem linkedPairs_relist (h : rs.WordKeyed) (hfarm : Text.IsWord s.serverFarmProperty)
    (hagain : rs.ListsAgain again) : linkedPairs s (rs.relist again) = linkedPairs s rs := by
  rw [linkedPairs, linkedPairs, keys_relist]
  refine List.filter_congr fun p hp => ?_
  obtain ⟨a, b⟩ := p
  obtain ⟨ha, hb⟩ := List.mem_product.1 hp
  obtain ⟨r, hr⟩ := OrderedMap.mem_keys_iff.1 ha
  have hentry := OrderedMap.mem_entries_iff.2 hr
  have hentry' : (a, r.relist (again a)) ∈ (rs.relist again).entries :=
    List.mem_map.2 ⟨(a, r), hentry, rfl⟩
  rw [decide_eq_decide, linked_of_mem hentry, linked_of_mem hentry',
    Resource.links_relist hfarm (h.isWord hb) (hagain _ hentry)]

theorem findings_relist (hagain : rs.ListsAgain again) :
    (rs.relist again).findings services checkTags = rs.findings services checkTags := by
  have hempty : (rs.relist again).isEmpty = rs.isEmpty := List.isEmpty_map
  have htags : (rs.relist again).serviceTags = rs.serviceTags := by
    rw [serviceTags, relist, OrderedMap.entries_mapValues, List.filterMap_map]
    rfl
  have hresources : (rs.relist again).entries.flatMap
      (fun p => (rs.relist again).resourceFindings p.1 p.2) =
      rs.entries.flatMap fun p => rs.resourceFindings p.1 p.2 := by
    rw [relist, OrderedMap.entries_mapValues, List.flatMap_map]
    refine List.flatMap_congr fun p hp => ?_
    have htargets : (rs.relist again).unknownTargets (p.2.relist (again p.1)) =
        rs.unknownTargets p.2 := by
      rw [← unknownTargets_append rs p.2 (hagain p hp)]
      simp only [unknownTargets, OrderedMap.contains, keys_relist]
      rfl
    show (rs.relist again).resourceFindings p.1 (p.2.relist (again p.1)) = _
    rw [resourceFindings, htargets]
    rfl
  simp only [findings, hempty, hresources, serviceFindings, htags]

/-! ## Runs -/

/-- What a run of inference appends to the connections of the resource under a key. -/
def additions (s : Settings) (rs : ResourceSet) (key : Text) : List Text :=
  ((rs.get? key).map (Resource.addedConnections s rs.keys)).getD []

theorem additions_of_mem {p : Text × Resource} (hp : p ∈ rs.entries) :
    rs.additions s p.1 = p.2.addedConnections s rs.keys := by
  rw [additions, OrderedMap.mem_entries_iff.1 hp]
  rfl

theorem infer_iterate_eq_mapValues (s : Settings) (rs : ResourceSet) (k : Nat) :
    (infer s)^[k] rs = rs.mapValues fun _ r => (Resource.infer s rs.keys)^[k] r := by
  induction k with
  | zero => exact OrderedMap.ext (List.map_id' rs.entries).symm
  | succ k ih =>
    have hkeys : (rs.mapValues fun _ r => (Resource.infer s rs.keys)^[k] r).keys = rs.keys :=
      OrderedMap.keys_mapValues _ _
    rw [Function.iterate_succ_apply', ih, infer, hkeys]
    refine OrderedMap.ext ?_
    simp only [OrderedMap.entries_mapValues, List.map_map, Function.comp_def,
      Function.iterate_succ_apply']

/-- **Each run after the first only lists the same connections again.** -/
theorem infer_iterate (s : Settings) (rs : ResourceSet) (k : Nat) :
    (infer s)^[k + 1] rs =
      (rs.infer s).relist fun key => (List.replicate k (rs.additions s key)).flatten := by
  rw [infer_iterate_eq_mapValues]
  refine OrderedMap.ext ?_
  simp only [relist, infer, OrderedMap.entries_mapValues, List.map_map, Function.comp_def]
  refine List.map_congr_left fun p hp => ?_
  rw [Resource.infer_iterate, additions_of_mem hp]

theorem listsAgain_infer (s : Settings) (rs : ResourceSet) (k : Nat) :
    (rs.infer s).ListsAgain fun key => (List.replicate k (rs.additions s key)).flatten := by
  intro p hp target htarget
  obtain ⟨q, hq, rfl⟩ := List.mem_map.1 hp
  obtain ⟨added, hadded, hmem⟩ := List.mem_flatten.1 htarget
  rw [List.eq_of_mem_replicate hadded, additions_of_mem hq] at hmem
  rw [Resource.infer_connections]
  exact List.mem_append_right _ hmem

end ResourceSet

/-- Relisting draws the same text. -/
theorem Flowchart.draw_relist {s : Settings} {rs : ResourceSet} {again : Text → List Text}
    (h : rs.WordKeyed) (hfarm : Text.IsWord s.serverFarmProperty) (hagain : rs.ListsAgain again) :
    draw s (rs.relist again) = draw s rs := by
  have hnodes : (rs.relist again).entries.map (fun p => nodeLine p.1 p.2.label) =
      rs.entries.map fun p => nodeLine p.1 p.2.label := by
    rw [ResourceSet.relist, OrderedMap.entries_mapValues, List.map_map]
    rfl
  rw [draw, draw, lines, lines, edges_eq_linkedPairs h.relist.keyed, edges_eq_linkedPairs h.keyed,
    ResourceSet.linkedPairs_relist h hfarm hagain, hnodes]

namespace ResourceSet

open Flowchart (draw)

/-- **Repeating inference changes nothing visible.** After any number of runs, but at least one, the
drawing and the issues under every policy are those after one run. The set has the same keys, and
the connections of each resource are those that it had, followed by one copy of the same suffix for
each run. -/
theorem infer_repeated (s : Settings) (rs : ResourceSet) (h : rs.WordKeyed)
    (hfarm : Text.IsWord s.serverFarmProperty) (k : Nat) (hk : 1 ≤ k) :
    draw s ((infer s)^[k] rs) = draw s (rs.infer s) ∧
      (∀ (p : Policy) (services : List Text),
        p.issues ((infer s)^[k] rs) services = p.issues (rs.infer s) services) ∧
      ((infer s)^[k] rs).keys = rs.keys ∧
      ∀ q ∈ rs.entries, ∃ r, ((infer s)^[k] rs).get? q.1 = some r ∧
        r.connections = q.2.connections ++ (List.replicate k (rs.additions s q.1)).flatten := by
  obtain ⟨k, rfl⟩ : ∃ n, k = n + 1 := ⟨k - 1, by omega⟩
  have hagain := listsAgain_infer s rs k
  refine ⟨?_, ?_, ?_, ?_⟩
  · rw [infer_iterate, Flowchart.draw_relist h.infer hfarm hagain]
  · intro p services
    rw [infer_iterate, Policy.issues, Policy.issues, findings_relist hagain]
  · rw [infer_iterate, keys_relist, keys_infer]
  · intro q hq
    have hconnections : ∀ k, ((Resource.infer s rs.keys)^[k + 1] q.2).connections =
        q.2.connections ++ (List.replicate (k + 1) (rs.additions s q.1)).flatten := by
      intro k
      rw [Resource.infer_iterate, Resource.relist, Resource.infer_connections, additions_of_mem hq,
        List.replicate_succ, List.flatten_cons, List.append_assoc]
    refine ⟨_, ?_, hconnections k⟩
    rw [infer_iterate_eq_mapValues, OrderedMap.get?_mapValues, OrderedMap.mem_entries_iff.1 hq]
    rfl

/-- A job on the plan that depends on a queue, mentions it as well, and depends on something
unknown. -/
def queued : ResourceSet where
  entries := [
    ("job", {
      id := "job"
      type := "App/jobs"
      connections := ["queue"]
      body := some "name: 'Job' dependsOn: [queue, it's gone] queue.id serverFarmId" }),
    ("queue", { id := "queue", type := "Queues" }),
    ("appServicePlan", { id := "appServicePlan", type := "Web/plans" })]
  distinct := by decide

theorem infer_repeated_queued :
    queued.WordKeyed ∧ Text.IsWord (default : Settings).serverFarmProperty ∧ 1 ≤ 3 ∧
      draw default ((infer default)^[3] queued) = draw default (queued.infer default) ∧
      queued.additions default "job" =
        [("queue" : Text), ("it's gone" : Text), ("queue" : Text), ("appServicePlan" : Text)] := by
  have hkeys : queued.WordKeyed := by decide
  have hword : Text.IsWord (default : Settings).serverFarmProperty := by decide
  have hruns : 1 ≤ 3 := by decide
  exact ⟨hkeys, hword, hruns, (infer_repeated default queued hkeys hword 3 hruns).1,
    by decide +kernel⟩

end ResourceSet

end Groundplan

import Groundplan.Proofs.View

/-!
# What inference adds

A resource with a body gets connections and properties. Its other fields stay as they are, and its
properties do not depend on the other resources (`infer_properties`).

**Connections.** Besides what a resource says by itself, its connections become keys of the set:
those that its body mentions, and the plan (`Resource.FoundIn`, `mem_connections_infer`).
-/

namespace Groundplan

namespace Resource

variable {s : Settings} {r : Resource} {keys : List Text} {body target : Text}

/-! ## The plan convention -/

/-- A resource with the given body falls under the plan convention: it is of a hosted compute type,
or the body has the server-farm property. -/
def PlanHosted (s : Settings) (r : Resource) (body : Text) : Prop :=
  (∃ type ∈ s.hostedComputeTypes, type <:+: r.type) ∨ s.serverFarmProperty <:+: body

theorem needsPlan_iff : r.needsPlan s body = true ↔ r.PlanHosted s body := by
  simp only [needsPlan, Settings.isHostedCompute, Bool.or_eq_true, List.any_eq_true,
    Text.occursIn_iff, PlanHosted]

theorem PlanHosted.mono {text : Text} (h : r.PlanHosted s body)
    (hfarm : s.serverFarmProperty <:+: body → s.serverFarmProperty <:+: text) :
    r.PlanHosted s text :=
  h.imp_right hfarm

/-! ## Fields -/

@[simp] theorem infer_id (s : Settings) (keys : List Text) (r : Resource) :
    (r.infer s keys).id = r.id := by
  unfold infer
  split
  · rfl
  · rfl

@[simp] theorem infer_type (s : Settings) (keys : List Text) (r : Resource) :
    (r.infer s keys).type = r.type := by
  unfold infer
  split
  · rfl
  · rfl

@[simp] theorem infer_body (s : Settings) (keys : List Text) (r : Resource) :
    (r.infer s keys).body = r.body := by
  unfold infer
  split
  · rfl
  · rfl

theorem infer_of_body (hbody : r.body = some body) :
    r.infer s keys = { r with
      connections := r.connections ++ r.inferredConnections s keys body
      properties := r.inferredProperties s body } := by
  rw [infer, hbody]

/-- The inferred properties do not depend on the keys. -/
theorem infer_properties (s : Settings) (keys : List Text) (r : Resource) :
    (r.infer s keys).properties = (r.infer s []).properties := by
  unfold infer
  split
  · rfl
  · rfl

/-- What inference finds among the keys: a different key that the body mentions, or the plan. -/
def FoundIn (s : Settings) (keys : List Text) (r : Resource) (target : Text) : Prop :=
  ∃ body ∈ r.body, (target ∈ keys ∧ target ≠ r.id ∧ Body.Mentions body target) ∨
    (target = s.planId ∧ s.planId ∈ keys ∧ r.id ≠ s.planId ∧ r.PlanHosted s body)

theorem FoundIn.mem_keys (h : r.FoundIn s keys target) : target ∈ keys := by
  obtain ⟨body, -, ⟨hmem, -, -⟩ | ⟨rfl, hmem, -, -⟩⟩ := h
  · exact hmem
  · exact hmem

theorem mem_inferredConnections :
    target ∈ r.inferredConnections s keys body ↔
      target ∈ Body.dependsOn body ∨
        (target ∈ keys ∧ target ≠ r.id ∧ Body.Mentions body target) ∨
          (target = s.planId ∧ s.planId ∈ keys ∧ r.id ≠ s.planId ∧ r.PlanHosted s body) := by
  have hplan : target ∈ (if keys.contains s.planId && r.id != s.planId && r.needsPlan s body then
      [s.planId] else []) ↔
      target = s.planId ∧ s.planId ∈ keys ∧ r.id ≠ s.planId ∧ r.PlanHosted s body := by
    rw [List.mem_ite_nil_right, List.mem_singleton, Bool.and_eq_true, Bool.and_eq_true,
      List.contains_iff_mem, bne_iff_ne, needsPlan_iff, and_comm, and_assoc]
  rw [inferredConnections, List.mem_append, List.mem_append, hplan, List.mem_filter,
    Bool.and_eq_true, bne_iff_ne, Body.references_iff, or_assoc]

/-- The connections of a resource are those that it has without knowing any key, and what is found
among the keys. -/
theorem mem_connections_infer (keys : List Text) :
    target ∈ (r.infer s keys).connections ↔
      target ∈ (r.infer s []).connections ∨ r.FoundIn s keys target := by
  cases hbody : r.body with
  | none => simp [infer, hbody, FoundIn]
  | some body =>
    simp only [infer_of_body hbody, List.mem_append, mem_inferredConnections, FoundIn, hbody,
      Option.mem_some_iff, exists_eq_left', List.not_mem_nil, false_and, and_false, or_false,
      or_assoc]

end Resource

/-! ## Sets of resources -/

namespace ResourceSet

@[simp] theorem keys_infer (s : Settings) (rs : ResourceSet) : (rs.infer s).keys = rs.keys :=
  OrderedMap.keys_mapValues _ _

theorem get?_infer (s : Settings) (rs : ResourceSet) (id : Text) :
    (rs.infer s).get? id = (rs.get? id).map (Resource.infer s rs.keys) :=
  OrderedMap.get?_mapValues _ _ _

end ResourceSet

end Groundplan

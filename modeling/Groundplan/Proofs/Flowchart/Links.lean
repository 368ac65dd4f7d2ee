import Mathlib.Data.List.Nodup
import Mathlib.Data.List.ProdSigma
import Groundplan.Flowchart
import Groundplan.Proofs.Inference

/-!
# Which resources are linked

**Links.** `Resource.Links` says in words what `Resource.isConnectedTo` computes: the resource lists
the other one, its view mentions a field of it, or the other one is the plan and the resource falls
under the plan convention.

**Edges.** In a set whose keys are the identifiers of their resources, the edges of the flowchart
are the pairs of different keys that are linked, in the order of the product of the keys with
themselves (`edges_eq_linkedPairs`). So no pair is drawn twice (`nodup_linkedPairs`).
-/

namespace Groundplan

/-! ## Two resources -/

namespace Resource

variable {s : Settings} {r : Resource} {target : Text}

/-- The resource is linked to a different one with the identifier `target`. -/
def Links (s : Settings) (r : Resource) (target : Text) : Prop :=
  target ∈ r.connections ∨ Body.Mentions r.view target ∨
    (target = s.planId ∧ r.PlanHosted s r.view)

theorem isConnectedTo_iff : r.isConnectedTo s target = true ↔ r.Links s target := by
  simp only [isConnectedTo, connects, Bool.or_eq_true, Bool.and_eq_true, List.contains_iff_mem,
    beq_iff_eq, Body.references_iff, needsPlan_iff, Links, or_assoc]

instance (s : Settings) (r : Resource) (target : Text) : Decidable (r.Links s target) :=
  decidable_of_iff _ isConnectedTo_iff

end Resource

/-! ## Sets of resources -/

namespace ResourceSet

/-- The keys are the identifiers of their resources. -/
def Keyed (rs : ResourceSet) : Prop := ∀ p ∈ rs.entries, p.2.id = p.1

instance (rs : ResourceSet) : Decidable rs.Keyed :=
  inferInstanceAs (Decidable (∀ p ∈ rs.entries, p.2.id = p.1))

/-- The keys are words, and they are the identifiers of their resources. -/
def WordKeyed (rs : ResourceSet) : Prop := ∀ p ∈ rs.entries, p.2.id = p.1 ∧ Text.IsWord p.1

instance (rs : ResourceSet) : Decidable rs.WordKeyed :=
  inferInstanceAs (Decidable (∀ p ∈ rs.entries, p.2.id = p.1 ∧ Text.IsWord p.1))

/-- The resource under `a` is linked to the different key `b`. -/
def Linked (s : Settings) (rs : ResourceSet) (a b : Text) : Prop :=
  a ≠ b ∧ ∃ r ∈ rs.get? a, r.Links s b

instance (s : Settings) (rs : ResourceSet) (a b : Text) : Decidable (rs.Linked s a b) :=
  inferInstanceAs (Decidable (a ≠ b ∧ ∃ r ∈ rs.get? a, r.Links s b))

/-- The pairs of keys that are linked, by source and then by target, in the order of the keys. -/
def linkedPairs (s : Settings) (rs : ResourceSet) : List (Text × Text) :=
  (rs.keys ×ˢ rs.keys).filter fun (a, b) => rs.Linked s a b

variable {s : Settings} {rs : ResourceSet} {a b : Text}

theorem WordKeyed.keyed (h : rs.WordKeyed) : rs.Keyed := fun p hp => (h p hp).1

theorem WordKeyed.isWord (h : rs.WordKeyed) (ha : a ∈ rs.keys) : Text.IsWord a := by
  obtain ⟨p, hp, rfl⟩ := List.mem_map.1 ha
  exact (h p hp).2

theorem linked_of_mem {r : Resource} (h : (a, r) ∈ rs.entries) :
    rs.Linked s a b ↔ a ≠ b ∧ r.Links s b := by
  simp [Linked, OrderedMap.mem_entries_iff.1 h]

theorem mem_linkedPairs :
    (a, b) ∈ linkedPairs s rs ↔ a ∈ rs.keys ∧ b ∈ rs.keys ∧ rs.Linked s a b := by
  rw [linkedPairs, List.mem_filter, List.mem_product, decide_eq_true_eq, and_assoc]

theorem nodup_linkedPairs (s : Settings) (rs : ResourceSet) : (linkedPairs s rs).Nodup :=
  (rs.nodup_keys.product rs.nodup_keys).filter _

end ResourceSet

/-! ## Edges -/

/-- **The edges are the linked pairs.** -/
theorem Flowchart.edges_eq_linkedPairs {s : Settings} {rs : ResourceSet} (h : rs.Keyed) :
    edges s rs = rs.linkedPairs s := by
  have hpairs : (rs.keys ×ˢ rs.keys : List (Text × Text)) =
      rs.entries.flatMap fun p => rs.entries.map fun q => (p.1, q.1) := by
    show rs.keys.flatMap (fun a => rs.keys.map (Prod.mk a)) = _
    simp only [OrderedMap.keys, List.flatMap_map, List.map_map]
    rfl
  rw [ResourceSet.linkedPairs, hpairs, List.filter_flatMap, edges]
  refine List.flatMap_congr ?_
  intro p hp
  obtain ⟨a, r⟩ := p
  rw [List.filter_map]
  refine congrArg (List.map _) (List.filter_congr ?_)
  intro p hq
  obtain ⟨b, t⟩ := p
  obtain rfl : t.id = b := h _ hq
  rw [Bool.eq_iff_iff]
  simp only [Function.comp_apply, decide_eq_true_eq, ResourceSet.linked_of_mem hp, Bool.and_eq_true,
    bne_iff_ne, ← Resource.isConnectedTo_iff]
  exact and_congr_left' ne_comm

end Groundplan

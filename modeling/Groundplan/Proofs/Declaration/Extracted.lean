import Groundplan.Proofs.Declaration.Border
import Groundplan.Proofs.Flowchart.Locality

/-!
# Extracted resources

The resources of a source are known by identifiers, each under its own, and before inference nothing
but the type and the body is known of them (`of_mem_extract`). So their keys are words
(`wordKeyed_extract`), and what is drawn of them determines the graph.
-/

namespace Groundplan.ResourceSet

open Declaration (IsIdentifier)

variable {t id : Text} {r : Resource}

/-- What extraction says of a resource, besides its type and its body. -/
theorem of_mem_extract (h : (id, r) ∈ (extract t).entries) :
    IsIdentifier id ∧ r.id = id ∧ r.properties = ∅ ∧ r.connections = [] := by
  rw [OrderedMap.mem_entries_iff, get?_extract, Option.map_eq_some_iff] at h
  obtain ⟨d, hfind, rfl⟩ := h
  have hgives := List.find?_some hfind
  rw [Declaration.gives, Bool.and_eq_true, beq_iff_eq] at hgives
  exact ⟨Declaration.isIdentifier_of_find?_gives hfind, hgives.2, rfl, rfl⟩

theorem isIdentifier_of_mem_keys (h : id ∈ (extract t).keys) : IsIdentifier id := by
  obtain ⟨p, hp, rfl⟩ := List.mem_map.1 h
  exact (of_mem_extract hp).1

theorem wordKeyed_extract (t : Text) : (extract t).WordKeyed := by
  intro p hp
  obtain ⟨hid, hkey, -, -⟩ := of_mem_extract hp
  exact ⟨hkey, hid.2⟩

end Groundplan.ResourceSet

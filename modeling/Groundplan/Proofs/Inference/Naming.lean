import Groundplan.Proofs.Declaration.Scan
import Groundplan.Proofs.Flowchart.Links

/-!
# Which identifier a reference names

Inference asks whether `b.id`, `b.name` or `b.properties` occurs in a body. An occurrence need not
start where an identifier starts: it may be the end of a reference to a longer identifier.

**Names** (`Body.Names`). A body names an identifier when it has a field of it at a place where a
word can start, so that the identifier written there is the whole of it.

**Mentions.** A body mentions `b` exactly when it names an identifier that ends in `b`
(`mentions_iff_exists_names`): to the left of an occurrence the identifier goes on up to the last
character that is no word character.

Main result: `infer_adds_iff`. Besides the listed dependencies and the plan, a resource is connected
to every key in which a named identifier ends, which is more than the keys that are named
(`infer_adds_suffix`).
-/

namespace Groundplan

namespace Body

open Declaration (AtWordStart exists_lastWord)

variable {t id : Text}

/-- The text has a field of `name` where a word can start, so the identifier written there is `name`
and no longer one. -/
def Names (t name : Text) : Prop :=
  AtWordStart (fun u => ∃ field ∈ referenceFields, name ++ field <+: u) false t

instance (t name : Text) : Decidable (Names t name) :=
  inferInstanceAs (Decidable (AtWordStart _ false t))

theorem Names.mentions_suffix {front : Text} (h : Names t (front ++ id)) : Mentions t id := by
  obtain ⟨before, -, rfl, -, field, hfield, rest, rfl⟩ := h
  exact ⟨field, hfield, before ++ front, rest, by simp⟩

/-- The occurrence of a field is the end of a reference to one identifier, which goes back to where
a word can start. -/
theorem Mentions.exists_names (h : Mentions t id) :
    ∃ front, Text.IsWord front ∧ Names t (front ++ id) := by
  obtain ⟨field, hfield, before, rest, rfl⟩ := h
  obtain ⟨before, front, rfl, hfront, hstart⟩ := exists_lastWord before
  exact ⟨front, hfront, before, front ++ (id ++ (field ++ rest)), by simp, hstart, field, hfield,
    rest, by simp⟩

/-- **A body mentions the identifiers in which the identifiers that it names end.** -/
theorem mentions_iff_exists_names (hid : Text.IsWord id) :
    Mentions t id ↔ ∃ name, Text.IsWord name ∧ id <:+ name ∧ Names t name := by
  constructor
  · intro h
    obtain ⟨front, hfront, hnames⟩ := h.exists_names
    exact ⟨front ++ id, hfront.append hid, List.suffix_append front id, hnames⟩
  · intro h
    obtain ⟨name, -, ⟨front, rfl⟩, hnames⟩ := h
    exact hnames.mentions_suffix

end Body

namespace ResourceSet

variable {rs : ResourceSet} {r : Resource} {a b body : Text}

/-- **What inference appends.** A resource with a body gets connections behind those that it has. A
different key is among them exactly when the body lists it, it is the plan and the resource falls
under the plan convention, or the body names an identifier that ends in it. So in a body that names
no longer identifier with this end, a key is appended for itself only. -/
theorem infer_adds_iff (s : Settings) (h : rs.WordKeyed) (hr : rs.get? a = some r)
    (hbody : r.body = some body) (hb : b ∈ rs.keys) (hne : b ≠ a) :
    ∃ added, ((rs.infer s).get? a).map Resource.connections = some (r.connections ++ added) ∧
      (b ∈ added ↔
        b ∈ Body.dependsOn body ∨ (b = s.planId ∧ r.PlanHosted s body) ∨
          ∃ name, Text.IsWord name ∧ b <:+ name ∧ Body.Names body name) ∧
      ((∀ name, Text.IsWord name → b <:+ name → Body.Names body name → name = b) → b ∈ added →
        b ∈ Body.dependsOn body ∨ (b = s.planId ∧ r.PlanHosted s body) ∨ Body.Names body b) := by
  obtain ⟨hid, -⟩ := h _ (OrderedMap.mem_entries_iff.2 hr)
  obtain ⟨target, htarget⟩ := OrderedMap.mem_keys_iff.1 hb
  obtain ⟨-, hword⟩ := h _ (OrderedMap.mem_entries_iff.2 htarget)
  have hplan : (b = s.planId ∧ s.planId ∈ rs.keys ∧ a ≠ s.planId ∧ r.PlanHosted s body) ↔
      b = s.planId ∧ r.PlanHosted s body := by
    constructor
    · rintro ⟨heq, -, -, hhosted⟩
      exact ⟨heq, hhosted⟩
    · rintro ⟨rfl, hhosted⟩
      exact ⟨rfl, hb, hne.symm, hhosted⟩
  have hadded : b ∈ r.inferredConnections s rs.keys body ↔
      b ∈ Body.dependsOn body ∨ (b = s.planId ∧ r.PlanHosted s body) ∨
        ∃ name, Text.IsWord name ∧ b <:+ name ∧ Body.Names body name := by
    rw [Resource.mem_inferredConnections, hid, hplan, Body.mentions_iff_exists_names hword,
      and_iff_right hb, and_iff_right hne]
    exact or_congr_right or_comm
  refine ⟨r.inferredConnections s rs.keys body, ?_, hadded, ?_⟩
  · rw [get?_infer, hr, Option.map_some, Option.map_some, Resource.infer_of_body hbody]
  · intro honly hmem
    rcases hadded.1 hmem with hlisted | hplan | ⟨name, hword, hend, hnames⟩
    · exact .inl hlisted
    · exact .inr (.inl hplan)
    · exact .inr (.inr (honly name hword hend hnames ▸ hnames))

/-- A body that refers to `nb`, in a set that has `nb` and `b`. -/
def sharedEnding : ResourceSet where
  entries := [
    ("a", { id := "a", type := "T", body := some "x: nb.id" }),
    ("nb", { id := "nb", type := "T" }),
    ("b", { id := "b", type := "T" })]
  distinct := by decide

theorem infer_adds_iff_nb :
    sharedEnding.WordKeyed ∧
      sharedEnding.get? "a" = some { id := "a", type := "T", body := some "x: nb.id" } ∧
      ("nb" : Text) ∈ sharedEnding.keys ∧ ("nb" : Text) ≠ "a" ∧
      ∃ added, ((sharedEnding.infer default).get? "a").map Resource.connections = some added ∧
        ("nb" : Text) ∈ added := by
  have hkeys : sharedEnding.WordKeyed := by decide
  have hr : sharedEnding.get? "a" = some { id := "a", type := "T", body := some "x: nb.id" } := rfl
  have hb : ("nb" : Text) ∈ sharedEnding.keys := by decide
  have hne : ("nb" : Text) ≠ "a" := by decide
  obtain ⟨added, hadded, hiff, -⟩ := infer_adds_iff default hkeys hr rfl hb hne
  have hnames : ∃ name, Text.IsWord name ∧ ("nb" : Text) <:+ name ∧ Body.Names "x: nb.id" name :=
    ⟨"nb", by decide, List.suffix_rfl, by decide⟩
  exact ⟨hkeys, hr, hb, hne, added, hadded, hiff.2 (.inr (.inr hnames))⟩

/-- The body names `nb` and not `b`, but it is connected to both. -/
theorem infer_adds_suffix :
    sharedEnding.WordKeyed ∧ ("b" : Text) ∈ sharedEnding.keys ∧ ("b" : Text) ≠ "a" ∧
      (sharedEnding.get? "a").bind Resource.body = some ("x: nb.id" : Text) ∧
      ((sharedEnding.infer default).get? "a").map Resource.connections =
        some [("nb" : Text), ("b" : Text)] ∧
      ("b" : Text) ∉ Body.dependsOn "x: nb.id" ∧ ("b" : Text) ≠ (default : Settings).planId ∧
      ¬Body.Names "x: nb.id" "b" := by
  decide

end ResourceSet

end Groundplan

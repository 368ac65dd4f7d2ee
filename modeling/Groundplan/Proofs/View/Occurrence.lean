import Groundplan.Proofs.View

/-!
# Where a mention stands in the view of a resource

**Parts.** A view is written from parts (`Resource.parts`): marks of JSON, names of fields, and the
texts of the resource, each escaped between its own quotation marks. The parts written one after
the other are the view (`written_parts`), and the texts among them are the texts of the resource
(`text_mem_parts_iff`).

**Occurrences.** A pattern that has a dot and no punctuation of JSON fits neither into a name nor
over a mark, so that wherever it stands in the written parts, it stands between the quotation marks
of one text (`stands_of_written`). The proof walks along the parts: a mark cannot hold the start of
the pattern, and a quotation mark leaves it on one side (`Text.append_eq_append_cons`).

Main result: `references_view` says which texts decide whether the view refers to a resource, and
where each of the fields that it refers to stands.
-/

namespace Groundplan

/-! ## A pattern beside a character -/

namespace Text

variable {p before after : Text} {c : CodePoint}

/-- A pattern without `c` that stands somewhere around a `c` stands in front of it or behind it. -/
theorem append_eq_append_cons (hp : p ≠ []) (hc : c ∉ p) {a b : Text}
    (h : a ++ c :: b = before ++ (p ++ after)) :
    (∃ v, a = before ++ (p ++ v) ∧ after = v ++ c :: b) ∨
      ∃ u, b = u ++ (p ++ after) ∧ before = a ++ c :: u := by
  -- The pattern starts behind `a` or inside it, and in the second case it must end there too.
  rcases List.append_eq_append_iff.1 h with ⟨u, rfl, hu⟩ | ⟨w, rfl, hw⟩
  · cases u with
    | nil =>
      obtain ⟨d, q, rfl⟩ := List.exists_cons_of_ne_nil hp
      obtain ⟨rfl, -⟩ := List.cons.inj hu
      exact absurd List.mem_cons_self hc
    | cons d u =>
      obtain ⟨rfl, rfl⟩ := List.cons.inj hu
      exact .inr ⟨u, rfl, rfl⟩
  · rcases List.append_eq_append_iff.1 hw with ⟨v, rfl, hv⟩ | ⟨q, rfl, hq⟩
    · exact .inl ⟨v, rfl, hv⟩
    · cases q with
      | nil => exact .inl ⟨[], by simp, hq.symm⟩
      | cons d q =>
        obtain ⟨rfl, -⟩ := List.cons.inj hq
        exact absurd (List.mem_append_right w List.mem_cons_self) hc

/-- A pattern does not start among characters that it does not have. -/
theorem append_eq_append_of_notMem (hp : p ≠ []) {a b : Text} (ha : ∀ c ∈ a, c ∉ p)
    (h : a ++ b = before ++ (p ++ after)) : ∃ u, b = u ++ (p ++ after) ∧ before = a ++ u := by
  rcases List.append_eq_append_iff.1 h with ⟨u, rfl, hu⟩ | ⟨w, rfl, hw⟩
  · exact ⟨u, hu, rfl⟩
  · cases w with
    | nil => exact ⟨[], hw.symm, by simp⟩
    | cons d w =>
      obtain ⟨e, q, rfl⟩ := List.exists_cons_of_ne_nil hp
      obtain ⟨rfl, -⟩ := List.cons.inj hw
      exact absurd List.mem_cons_self (ha e (by simp))

end Text

/-! ## Parts -/

namespace Json

/-- A part of a JSON text on one line: marks of JSON, the name of a field, which has no dot, or a
text that is shown. -/
inductive Part where
  | marks (t : Text) (h : t.all punctuation.contains = true := by decide)
  | name (t : Text) (h : ↑ '.' ∉ escape t := by decide)
  | text (t : Text)

namespace Part

/-- What is written for a part. -/
def written : Part → Text
  | marks t _ => t
  | name t _ => string t
  | text t => string t

/-- Items with a comma between neighbours. -/
def join (items : List (List Part)) : List Part := [marks [',', ' ']].intercalate items

/-- An array. -/
def array (items : List (List Part)) : List Part := [marks ['[']] ++ join items ++ [marks [']']]

/-- A member of an object. -/
def member (key : Part) (value : List Part) : List Part := key :: marks [':', ' '] :: value

/-- An object. -/
def object (members : List (List Part)) : List Part :=
  [marks ['\x7b']] ++ join members ++ [marks ['\x7d']]

end Part

/-- What is written for parts, one after the other. -/
def written (parts : List Part) : Text := parts.flatMap Part.written

@[simp] theorem written_nil : written [] = [] := rfl

@[simp] theorem written_cons (part : Part) (parts : List Part) :
    written (part :: parts) = part.written ++ written parts := List.flatMap_cons

@[simp] theorem written_append (a b : List Part) : written (a ++ b) = written a ++ written b :=
  List.flatMap_append

@[simp] theorem written_join (items : List (List Part)) :
    written (Part.join items) = Text.join ", " (items.map written) := by
  induction items with
  | nil => rfl
  | cons a items ih =>
    cases items with
    | nil => simp [Part.join]
    | cons b items =>
      rw [List.map_cons, List.map_cons, Text.join_cons_cons, ← List.map_cons, ← ih, Part.join,
        List.intercalate_cons_cons, written_append, written_append]
      rfl

theorem written_array (items : List (List Part)) :
    written (Part.array items) = array (items.map written) := by
  simp [Part.array, Part.written, array, Text.ofString, Text.ofChars]

theorem written_member (key : Part) (value : List Part) :
    written (Part.member key value) = key.written ++ ": " ++ written value := by
  simp [Part.member, Part.written, Text.ofString, Text.ofChars]

theorem written_object (members : List (List Part)) :
    written (Part.object members) = "\x7b" ++ Text.join ", " (members.map written) ++ "\x7d" := by
  simp [Part.object, Part.written, Text.ofString, Text.ofChars]

theorem text_mem_join_iff {t : Text} {items : List (List Part)} :
    .text t ∈ Part.join items ↔ ∃ item ∈ items, .text t ∈ item := by
  induction items with
  | nil => simp [Part.join]
  | cons a items ih =>
    cases items with
    | nil => simp [Part.join]
    | cons b items =>
      rw [Part.join, List.intercalate_cons_cons, ← Part.join]
      simp [ih]

theorem text_mem_array_iff {t : Text} {items : List (List Part)} :
    .text t ∈ Part.array items ↔ ∃ item ∈ items, .text t ∈ item := by
  simp [Part.array, text_mem_join_iff]

theorem text_mem_member_iff {t : Text} {key : Part} {value : List Part} :
    .text t ∈ Part.member key value ↔ .text t = key ∨ .text t ∈ value := by
  simp [Part.member]

theorem text_mem_object_iff {t : Text} {members : List (List Part)} :
    .text t ∈ Part.object members ↔ ∃ m ∈ members, .text t ∈ m := by
  simp [Part.object, text_mem_join_iff]

/-! ## Occurrences -/

/-- The pattern `p` behind `before` and in front of `after` stands between the quotation marks of
one text of the parts. -/
def Stands (parts : List Part) (before p after : Text) : Prop :=
  ∃ left t right u v, parts = left ++ Part.text t :: right ∧ escape t = u ++ (p ++ v) ∧
    before = written left ++ ↑ '"' :: u ∧ after = v ++ ↑ '"' :: written right

variable {p before after : Text}

theorem Stands.cons {parts : List Part} (h : Stands parts before p after) (part : Part) :
    Stands (part :: parts) (part.written ++ before) p after := by
  obtain ⟨left, t, right, u, v, rfl, ht, rfl, rfl⟩ := h
  exact ⟨part :: left, t, right, u, v, rfl, ht, by simp, rfl⟩

/-- A pattern without punctuation that stands in a JSON string and what follows it stands between
the quotation marks of the string or behind it. -/
theorem string_append_cases (hp : IsInner p) {t rest : Text}
    (h : string t ++ rest = before ++ (p ++ after)) :
    (∃ u v, escape t = u ++ (p ++ v) ∧ before = ↑ '"' :: u ∧ after = v ++ ↑ '"' :: rest) ∨
      ∃ u, rest = u ++ (p ++ after) ∧ before = string t ++ u := by
  have hquote : ↑ '"' ∉ p := hp.2 '"' (by decide)
  have hopen : (['"'] : Text) ++ (escape t ++ ↑ '"' :: rest) = before ++ (p ++ after) := by
    rw [← h]
    simp [string, Text.ofString, Text.ofChars]
  obtain ⟨b, hb, rfl⟩ := Text.append_eq_append_of_notMem hp.1 (by simpa using hquote) hopen
  rcases Text.append_eq_append_cons hp.1 hquote hb with ⟨v, hv, hafter⟩ | ⟨u, hu, rfl⟩
  · exact .inl ⟨b, v, hv, rfl, hafter⟩
  · exact .inr ⟨u, hu, by simp [string, Text.ofString, Text.ofChars]⟩

/-- **A pattern stands inside one text**: it has a dot, so that no name holds it, and no
punctuation. -/
theorem stands_of_written (hp : IsInner p) (hdot : ↑ '.' ∈ p) {parts : List Part}
    (h : written parts = before ++ (p ++ after)) : Stands parts before p after := by
  induction parts generalizing before with
  | nil =>
    obtain ⟨-, hend⟩ := List.append_eq_nil_iff.1 h.symm
    exact absurd (List.append_eq_nil_iff.1 hend).1 hp.1
  | cons part parts ih =>
    rw [written_cons] at h
    cases part with
    | marks m hm =>
      -- No mark is a character of the pattern, so it starts behind the marks.
      have hfree : ∀ c ∈ m, c ∉ p := fun c hc =>
        hp.2 c (List.contains_iff_mem.1 (List.all_eq_true.1 hm c hc))
      obtain ⟨u, hu, rfl⟩ := Text.append_eq_append_of_notMem hp.1 hfree h
      exact (ih hu).cons (.marks m hm)
    | name t ht =>
      -- The dot of the pattern would be one of the name.
      rcases string_append_cases hp h with ⟨u, v, hin, -, -⟩ | ⟨u, hu, rfl⟩
      · have hmem : ↑ '.' ∈ escape t := by simp [hin, hdot]
        exact absurd hmem ht
      · exact (ih hu).cons (.name t ht)
    | text t =>
      rcases string_append_cases hp h with ⟨u, v, hin, rfl, rfl⟩ | ⟨u, hu, rfl⟩
      · exact ⟨[], t, parts, u, v, rfl, hin, rfl, rfl⟩
      · exact (ih hu).cons (.text t)

end Json

/-! ## The view -/

namespace Resource

open Json (Part Stands written escape)

/-- The parts of a view. -/
def parts (r : Resource) : List Part :=
  Part.object [
    Part.member (.name "body") [.text (r.body.getD [])],
    Part.member (.name "connections") (Part.array (r.connections.map fun t => [.text t])),
    Part.member (.name "id") [.text r.id],
    Part.member (.name "properties") (Part.object (r.sortedProperties.map fun (key, value) =>
      Part.member (.text key) [.text value])),
    Part.member (.name "type") [.text r.type]]

/-- The view is its parts, one after the other. -/
theorem written_parts (r : Resource) : written r.parts = r.view := by
  have hconnections : written (Part.array (r.connections.map fun t => [.text t])) =
      Json.array (r.connections.map Json.string) := by
    rw [Json.written_array, List.map_map]
    simp [Function.comp_def, Part.written]
  have hproperties : written (Part.object (r.sortedProperties.map fun (key, value) =>
      Part.member (.text key) [.text value])) =
      Json.object (r.sortedProperties.map fun (name, value) => (name, Json.string value)) := by
    rw [Json.written_object, List.map_map, Json.object, List.map_map]
    simp [Function.comp_def, Json.written_member, Json.member, Part.written]
  rw [parts, Json.written_object, view, Json.object]
  simp [Json.written_member, hconnections, hproperties, Json.member, Part.written]

/-- The texts among the parts are the texts of the resource. -/
theorem text_mem_parts_iff {r : Resource} {t : Text} : .text t ∈ r.parts ↔ t ∈ r.texts := by
  have hconnections : Part.text t ∈ Part.array (r.connections.map fun t => [.text t]) ↔
      t ∈ r.connections := by
    simp [Json.text_mem_array_iff]
  have hproperties : Part.text t ∈ Part.object (r.sortedProperties.map fun (key, value) =>
      Part.member (.text key) [.text value]) ↔
      ∃ q ∈ r.properties.entries, t = q.1 ∨ t = q.2 := by
    simp [Json.text_mem_object_iff, Json.text_mem_member_iff, mem_sortedProperties]
  have htexts : t ∈ r.texts ↔ ∃ u ∈ r.texts, t = u := by simp
  rw [htexts, exists_mem_texts, parts, Json.text_mem_object_iff]
  simp only [List.exists_mem_cons_iff, Json.text_mem_member_iff, hconnections, hproperties,
    List.mem_singleton, Part.text.injEq, reduceCtorEq, false_or, exists_eq_left]
  grind

/-- **Mentions stay inside one text.** The view of a resource refers to `id` exactly when one of the
texts of the resource does in its escaped form, a text refers to nothing that the view does not
refer to, and wherever a field of `id` stands in the view, it stands between the quotation marks of
one text. -/
theorem references_view (r : Resource) {id : Text} (hid : Text.IsWord id) :
    (Body.references r.view id = true ↔ ∃ t ∈ r.texts, Body.references (escape t) id = true) ∧
      (∀ t ∈ r.texts, Body.references t id = true → Body.references r.view id = true) ∧
      written r.parts = r.view ∧ (∀ t, .text t ∈ r.parts ↔ t ∈ r.texts) ∧
      ∀ field ∈ Body.referenceFields, ∀ before after, r.view = before ++ ((id ++ field) ++ after) →
        Stands r.parts before (id ++ field) after := by
  have hiff : Body.references r.view id = true ↔
      ∃ t ∈ r.texts, Body.references (escape t) id = true := by
    simp only [Body.references_iff]
    exact mentions_view_iff hid
  refine ⟨hiff, ?_, written_parts r, fun t => text_mem_parts_iff, ?_⟩
  · intro t ht h
    have hescaped := (Body.references_iff.1 h).escape hid
    exact hiff.2 ⟨t, ht, Body.references_iff.2 hescaped⟩
  · intro field hfield before after h
    obtain ⟨hdot, hpath⟩ := Body.isPath_field hid hfield
    have hinner := hpath.isInner (List.ne_nil_of_mem hdot)
    exact Json.stands_of_written hinner hdot ((written_parts r).trans h)

/-- A key and a value that would refer to `b` if they stood together, and a tab whose escape ends in
the letter in front of a reference. -/
def dotted : Resource where
  id := "a"
  type := "T"
  properties := OrderedMap.ofList [("b", ".id")]
  connections := ["b", ".properties"]
  body := some "b\tc.id"

theorem references_view_dotted :
    (Text.IsWord "tc" ∧ Body.references dotted.view "tc" = true) ∧
      Text.IsWord "b" ∧ Body.references dotted.view "b" = false := by
  have htc : Text.IsWord "tc" := Text.forall_mem_of_all (by decide)
  have hb : Text.IsWord "b" := Text.forall_mem_of_all (by decide)
  refine ⟨⟨htc, ?_⟩, hb, ?_⟩
  · exact (references_view dotted htc).1.2 ⟨"b\tc.id", by decide, by decide⟩
  · have hnone : ¬∃ t ∈ dotted.texts, Body.references (escape t) "b" = true := by decide
    rw [← (references_view dotted hb).1] at hnone
    exact Bool.eq_false_iff.2 hnone

end Resource

end Groundplan

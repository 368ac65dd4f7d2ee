import Mathlib.Data.List.Basic
import Groundplan.Inference
import Groundplan.Proofs.Text.Run
import Groundplan.Proofs.Text.Search

/-!
# Searching the view of a resource

**Escaping.** Escaping goes character by character, so what occurs in a text occurs, escaped, in the
escaped text (`escape_infix_escape`), and word characters and dots stand for themselves
(`escape_of_isPath`).

**Fields stay apart.** A pattern without the punctuation of JSON is found in an object, an array or
a text exactly when it is found in one of its parts (`infix_object_iff`, `infix_array_iff`,
`infix_string_iff`): no match reaches from one part into another.

**Mentions.** A view mentions a field of a resource exactly when one of the texts that it shows does
(`mentions_view_iff`).

Main result: `infix_view_iff` says where a pattern can be found in the view of a resource.
-/

namespace Groundplan

/-! ## Escaping -/

namespace Json

theorem isWord_control : ∀ n < 0x20, isWord (CodePoint.ofNat n) = false := by
  decide

theorem escapeChar_of_isWord {c : CodePoint} (h : isWord c = true) : escapeChar c = [c] := by
  have hne : ∀ d, isWord d = false → c ≠ d := by
    rintro d hd rfl
    rw [hd] at h
    exact Bool.false_ne_true h
  have hprintable : ¬c.toNat < 0x20 := by
    intro hc
    have hcontrol := isWord_control c.toNat hc
    rw [CodePoint.ofNat_toNat, h] at hcontrol
    exact Bool.noConfusion hcontrol
  rw [escapeChar, if_neg (hne _ (by decide)), if_neg (hne _ (by decide)),
    if_neg (hne _ (by decide)), if_neg (hne _ (by decide)), if_neg (hne _ (by decide)),
    if_neg (hne _ (by decide)), if_neg (hne _ (by decide)), if_neg hprintable]

/-- The text consists of word characters and dots. -/
def IsPath (t : Text) : Prop := ∀ c ∈ t, isWord c = true ∨ c = '.'

instance (t : Text) : Decidable (IsPath t) := List.decidableBAll _ t

theorem isPath_of_isWord {t : Text} (h : Text.IsWord t) : IsPath t := fun c hc => .inl (h c hc)

theorem IsPath.append {a b : Text} (ha : IsPath a) (hb : IsPath b) : IsPath (a ++ b) := by
  intro c hc
  rcases List.mem_append.1 hc with hc | hc
  · exact ha c hc
  · exact hb c hc

/-- Word characters and dots stand for themselves. -/
theorem escape_of_isPath {t : Text} (h : IsPath t) : escape t = t := by
  induction t with
  | nil => rfl
  | cons c t ih =>
    have hc : escapeChar c = [c] := by
      rcases h c (by simp) with hc | rfl
      · exact escapeChar_of_isWord hc
      · decide
    have ht := ih fun a ha => h a (List.mem_cons_of_mem c ha)
    rw [escape, List.flatMap_cons, hc]
    exact congrArg (c :: ·) ht

theorem escape_append (a b : Text) : escape (a ++ b) = escape a ++ escape b := List.flatMap_append

theorem escape_infix_escape {p t : Text} (h : p <:+: t) : escape p <:+: escape t := by
  obtain ⟨a, b, rfl⟩ := h
  rw [escape_append, escape_append]
  exact ⟨escape a, escape b, rfl⟩

/-! ## Parts -/

/-- The characters that JSON puts around and between the parts of a text on one line. -/
def punctuation : Text := (['\x7b', '\x7d', '[', ']', '"', ':', ',', ' '] : Text)

/-- A pattern that can only be found inside a part: it has a character, and no punctuation. -/
def IsInner (p : Text) : Prop := p ≠ [] ∧ ∀ c ∈ punctuation, c ∉ p

theorem IsPath.isInner {p : Text} (hne : p ≠ []) (h : IsPath p) : IsInner p := by
  have hpunct : ∀ c ∈ punctuation, isWord c = false ∧ c ≠ '.' := Text.forall_mem_of_all (by decide)
  refine ⟨hne, ?_⟩
  intro c hc hp
  obtain ⟨hword, hdot⟩ := hpunct c hc
  rcases h c hp with hc | hc
  · rw [hword] at hc
    exact Bool.false_ne_true hc
  · exact hdot hc

variable {p : Text}

/-- A pattern is found between two characters of punctuation exactly when it is found in the text
that they enclose. -/
theorem infix_enclosed_iff (h : IsInner p) {o c : CodePoint} (ho : o ∈ punctuation)
    (hc : c ∈ punctuation) {t : Text} : p <:+: [o] ++ t ++ [c] ↔ p <:+: t := by
  have hnil : ¬p <:+: [] := fun hp => h.1 (List.infix_nil.1 hp)
  rw [List.append_assoc, List.singleton_append, Text.infix_cons_iff_of_notMem h.1 (h.2 o ho),
    Text.infix_append_cons_iff h.1 (h.2 c hc), or_iff_left hnil]

theorem infix_string_iff (h : IsInner p) {t : Text} : p <:+: string t ↔ p <:+: escape t :=
  infix_enclosed_iff h (by decide) (by decide)

theorem infix_join_iff (h : IsInner p) {parts : List Text} :
    p <:+: Text.join ", " parts ↔ ∃ part ∈ parts, p <:+: part := by
  have hsep : ∀ c ∈ (", " : Text), c ∈ punctuation := Text.forall_mem_of_all (by decide)
  exact Text.infix_join_iff h.1 (by decide) fun c hc => h.2 c (hsep c hc)

theorem infix_array_iff (h : IsInner p) {items : List Text} :
    p <:+: array items ↔ ∃ item ∈ items, p <:+: item :=
  (infix_enclosed_iff h (o := '[') (c := ']') (by decide) (by decide)).trans (infix_join_iff h)

theorem infix_member_iff (h : IsInner p) {name value : Text} :
    p <:+: member name value ↔ p <:+: escape name ∨ p <:+: value := by
  have hsep : ∀ c ∈ (": " : Text), c ∈ punctuation := Text.forall_mem_of_all (by decide)
  rw [member, List.append_assoc,
    Text.infix_append_append_iff h.1 (by decide) fun c hc => h.2 c (hsep c hc), infix_string_iff h]

theorem infix_object_iff (h : IsInner p) {members : List (Text × Text)} :
    p <:+: object members ↔ ∃ m ∈ members, p <:+: escape m.1 ∨ p <:+: m.2 := by
  have hparts : p <:+: Text.join ", " (members.map fun m => member m.1 m.2) ↔
      ∃ m ∈ members, p <:+: escape m.1 ∨ p <:+: m.2 := by
    simp only [infix_join_iff h, List.mem_map, exists_exists_and_eq_and, infix_member_iff h]
  exact (infix_enclosed_iff h (o := '\x7b') (c := '\x7d') (by decide) (by decide)).trans hparts

end Json

/-! ## Mentions -/

namespace Body

/-- The text mentions a field of the resource `id`. -/
def Mentions (t id : Text) : Prop :=
  ∃ field ∈ ([".id", ".name", ".properties"] : List Text), (id ++ field) <:+: t

theorem references_iff {t id : Text} : references t id = true ↔ Mentions t id := by
  simp only [references, List.any_eq_true, Text.occursIn_iff]
  rfl

instance (t id : Text) : Decidable (Mentions t id) := decidable_of_iff _ references_iff

/-- A field of a resource is written with word characters and at least one dot. -/
theorem isPath_field {id field : Text} (hid : Text.IsWord id)
    (h : field ∈ ([".id", ".name", ".properties"] : List Text)) :
    ↑ '.' ∈ id ++ field ∧ Json.IsPath (id ++ field) := by
  have hfields : ∀ field ∈ ([".id", ".name", ".properties"] : List Text),
      ↑ '.' ∈ field ∧ Json.IsPath field := by decide
  obtain ⟨hdot, hpath⟩ := hfields field h
  exact ⟨List.mem_append_right id hdot, (Json.isPath_of_isWord hid).append hpath⟩

/-- Escaping hides no mention. -/
theorem Mentions.escape {t id : Text} (h : Mentions t id) (hid : Text.IsWord id) :
    Mentions (Json.escape t) id := by
  obtain ⟨field, hfield, hin⟩ := h
  have hescaped := Json.escape_infix_escape hin
  rw [Json.escape_of_isPath (isPath_field hid hfield).2] at hescaped
  exact ⟨field, hfield, hescaped⟩

/-- A word mentions nothing. -/
theorem not_mentions_of_isWord {t id : Text} (ht : Text.IsWord t) : ¬Mentions t id := by
  intro h
  obtain ⟨field, hfield, h⟩ := h
  have hdot : ∀ field ∈ ([".id", ".name", ".properties"] : List Text), ↑ '.' ∈ field := by decide
  have hmem : ↑ '.' ∈ id ++ field := List.mem_append_right id (hdot field hfield)
  exact ht.notMem (by decide) (h.subset hmem)

end Body

/-! ## The view -/

namespace Resource

open Json (IsInner IsPath escape)

/-- The names of the fields in a view. -/
def fieldNames : List Text := ["body", "connections", "id", "properties", "type"]

/-- The texts that a view shows. -/
def texts (r : Resource) : List Text :=
  r.body.getD [] :: r.id :: r.type ::
    (r.connections ++ r.properties.entries.flatMap fun (name, value) => [name, value])

theorem mem_sortedProperties {r : Resource} {p : Text × Text} :
    p ∈ r.sortedProperties ↔ p ∈ r.properties.entries :=
  List.mem_mergeSort

theorem exists_mem_texts {r : Resource} {P : Text → Prop} :
    (∃ t ∈ r.texts, P t) ↔ P (r.body.getD []) ∨ P r.id ∨ P r.type ∨ (∃ t ∈ r.connections, P t) ∨
      ∃ q ∈ r.properties.entries, P q.1 ∨ P q.2 := by
  have hpairs : (∃ t, (∃ q ∈ r.properties.entries, t ∈ [q.1, q.2]) ∧ P t) ↔
      ∃ q ∈ r.properties.entries, P q.1 ∨ P q.2 := by
    constructor
    · intro h
      obtain ⟨t, ⟨q, hq, ht⟩, hP⟩ := h
      rw [List.mem_pair] at ht
      rcases ht with rfl | rfl
      · exact ⟨q, hq, .inl hP⟩
      · exact ⟨q, hq, .inr hP⟩
    · intro h
      obtain ⟨q, hq, hP | hP⟩ := h
      · exact ⟨q.1, ⟨q, hq, by simp⟩, hP⟩
      · exact ⟨q.2, ⟨q, hq, by simp⟩, hP⟩
  simp only [texts, List.exists_mem_cons_iff, List.mem_append, List.mem_flatMap, or_and_right,
    exists_or, hpairs]

/-- **Fields stay apart**: a pattern without punctuation is found in the view of a resource exactly
when it is found in the name of a field or in one of the texts of the resource. -/
theorem infix_view_iff {r : Resource} {p : Text} (h : IsInner p) :
    p <:+: r.view ↔
      (∃ name ∈ fieldNames, p <:+: escape name) ∨ ∃ t ∈ r.texts, p <:+: escape t := by
  have hproperties : p <:+: Json.object (r.sortedProperties.map fun (name, value) =>
      (name, Json.string value)) ↔
      ∃ q ∈ r.properties.entries, p <:+: escape q.1 ∨ p <:+: escape q.2 := by
    simp only [Json.infix_object_iff h, List.mem_map, exists_exists_and_eq_and,
      Json.infix_string_iff h, mem_sortedProperties]
  have hconnections : p <:+: Json.array (r.connections.map Json.string) ↔
      ∃ t ∈ r.connections, p <:+: escape t := by
    simp only [Json.infix_array_iff h, List.mem_map, exists_exists_and_eq_and,
      Json.infix_string_iff h]
  rw [view, Json.infix_object_iff h, exists_mem_texts]
  simp only [fieldNames, List.exists_mem_cons_iff, hproperties, hconnections,
    Json.infix_string_iff h, List.not_mem_nil, false_and, exists_false, or_false]
  grind

/-- What occurs in a text of a resource and needs no escaping occurs in its view. -/
theorem infix_view_of_mem_texts {r : Resource} {p t : Text} (hp : IsPath p) (ht : t ∈ r.texts)
    (h : p <:+: t) : p <:+: r.view := by
  by_cases hne : p = []
  · rw [hne]
    exact List.nil_infix
  · have hescaped := Json.escape_infix_escape h
    rw [Json.escape_of_isPath hp] at hescaped
    exact (infix_view_iff (hp.isInner hne)).2 (.inr ⟨t, ht, hescaped⟩)

/-- A view mentions a resource exactly when one of the texts that it shows does. -/
theorem mentions_view_iff {r : Resource} {id : Text} (hid : Text.IsWord id) :
    Body.Mentions r.view id ↔ ∃ t ∈ r.texts, Body.Mentions (escape t) id := by
  have hnames : ∀ name ∈ fieldNames, ↑ '.' ∉ escape name := by decide
  constructor
  · intro h
    obtain ⟨field, hfield, h⟩ := h
    obtain ⟨hdot, hpath⟩ := Body.isPath_field hid hfield
    rcases (infix_view_iff (hpath.isInner (List.ne_nil_of_mem hdot))).1 h with
      ⟨name, hname, hin⟩ | ⟨t, ht, hin⟩
    · exact absurd (hin.subset hdot) (hnames name hname)
    · exact ⟨t, ht, field, hfield, hin⟩
  · intro h
    obtain ⟨t, ht, field, hfield, h⟩ := h
    obtain ⟨hdot, hpath⟩ := Body.isPath_field hid hfield
    exact ⟨field, hfield, (infix_view_iff (hpath.isInner (List.ne_nil_of_mem hdot))).2
      (.inr ⟨t, ht, h⟩)⟩

end Resource

end Groundplan

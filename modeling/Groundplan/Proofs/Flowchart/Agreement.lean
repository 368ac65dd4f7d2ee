import Groundplan.Proofs.Declaration.Extracted
import Groundplan.Proofs.Text.Escape

/-!
# Where inference and drawing agree

Inference searches the body of a resource for the resources it depends on; the drawing searches the
view of the resource, in which everything else that is known of it stands as well. Both find the
same, up to two things.

**Said elsewhere.** The view also shows the identifier, the type and the listed dependencies. A
reference in one of them is drawn, although inference does not record it (`SaidElsewhere`). The
name and the service that the view shows stand in the body (`infix_of_mem_inferredProperties`), and
the keys that inference has added are words.

**Escapes.** In the view, the last letters of an escape and what stands behind the escaped character
may read as a reference (`CompletedByEscape`). Nothing else is found there that the texts do not say
(`mentions_escape_cases`).

Main result: `inference_and_drawing_agree`.
-/

namespace Groundplan

namespace Body

variable {α : Type} {f : Text → Option α} {a : α} {t v key : Text}

/-! ## Values stand in the body -/

theorem exists_suffix_of_findFirst? (h : findFirst? f t = some a) :
    ∃ u, u <:+ t ∧ f u = some a := by
  induction t with
  | nil => exact ⟨[], List.suffix_rfl, h⟩
  | cons c t ih =>
    rw [findFirst?, Option.orElse_eq_orElse, Option.orElse_eq_or, Option.or_eq_some_iff] at h
    rcases h with h | ⟨-, h⟩
    · exact ⟨c :: t, List.suffix_rfl, h⟩
    · obtain ⟨u, hu, hf⟩ := ih h
      exact ⟨u, hu.trans (List.suffix_cons c t), hf⟩

theorem infix_of_untilQuote? (h : untilQuote? t = some v) : v <:+: t := by
  unfold untilQuote? at h
  obtain ⟨-, h⟩ := Option.ite_none_left_eq_some.1 h
  rw [← Option.some.inj h]
  exact (List.takeWhile_prefix _).isInfix

theorem infix_of_quotedValue? (h : quotedValue? t = some v) : v <:+: t := by
  have htrim : Text.trimStart t <:+ t := List.dropWhile_suffix _
  unfold quotedValue? at h
  split at h
  · next c r heq =>
    obtain ⟨-, h⟩ := Option.ite_none_right_eq_some.1 h
    rw [heq] at htrim
    exact (infix_of_untilQuote? h).trans ((List.suffix_cons c r).trans htrim).isInfix
  · cases h

/-- The name stands in the body. -/
theorem infix_of_name? (h : name? t = some v) : v <:+: t := by
  obtain ⟨u, hu, h⟩ := exists_suffix_of_findFirst? h
  obtain ⟨r, hr, h⟩ := Option.bind_eq_some_iff.1 h
  exact (infix_of_quotedValue? h).trans ((Text.suffix_of_after? hr).trans hu).isInfix

theorem suffix_skipQuote (t : Text) : skipQuote t <:+ t := by
  cases t with
  | nil => exact List.suffix_rfl
  | cons c t =>
    rw [skipQuote]
    split
    · exact List.suffix_cons c t
    · exact List.suffix_rfl

theorem infix_of_valueAfterKey? (h : valueAfterKey? key t = some v) : v <:+: t := by
  obtain ⟨r, hr, h⟩ := Option.bind_eq_some_iff.1 h
  obtain ⟨u, hu, h⟩ := Option.bind_eq_some_iff.1 h
  have htrim : Text.trimStart (skipQuote r) <:+ r :=
    (List.dropWhile_suffix _).trans (suffix_skipQuote r)
  exact (infix_of_quotedValue? h).trans
    (((Text.suffix_of_after? hu).trans htrim).trans (Text.suffix_of_after? hr)).isInfix

theorem infix_of_tag? (h : tag? key t = some v) : v <:+: t := by
  unfold tag? at h
  rw [Option.orElse_eq_orElse, Option.orElse_eq_or, Option.or_eq_some_iff] at h
  rcases h with h | ⟨-, h⟩
  · cases t with
    | nil => cases h
    | cons c t =>
      obtain ⟨-, h⟩ := Option.ite_none_right_eq_some.1 h
      exact (infix_of_valueAfterKey? h).trans (List.suffix_cons c t).isInfix
  · exact infix_of_valueAfterKey? h

/-- The service stands in the body. -/
theorem infix_of_serviceTag? (h : serviceTag? key t = some v) : v <:+: t := by
  obtain ⟨u, hu, h⟩ := exists_suffix_of_findFirst? h
  obtain ⟨r, hr, h⟩ := Option.bind_eq_some_iff.1 h
  obtain ⟨w, hw, h⟩ := exists_suffix_of_findFirst? h
  exact (infix_of_tag? h).trans ((hw.trans (Text.suffix_of_after? hr)).trans hu).isInfix

/-! ## References that an escape completes -/

/-- The last letters of an escape and what stands in the text behind the escaped character read as a
field of the resource `id`. -/
def CompletedByEscape (t id : Text) : Prop :=
  ∃ field ∈ ([".id", ".name", ".properties"] : List Text), ∃ c x y,
    x ≠ [] ∧ id ++ field = x ++ y ∧ x <:+ (Json.escapeChar c).tail ∧ c :: y <:+: t

theorem CompletedByEscape.mono {u id : Text} (h : CompletedByEscape t id) (htu : t <:+: u) :
    CompletedByEscape u id := by
  obtain ⟨field, hfield, c, x, y, hx, hxy, hsuffix, hin⟩ := h
  exact ⟨field, hfield, c, x, y, hx, hxy, hsuffix, hin.trans htu⟩

theorem Mentions.mono {u id : Text} (h : Mentions t id) (htu : t <:+: u) : Mentions u id := by
  obtain ⟨field, hfield, hin⟩ := h
  exact ⟨field, hfield, hin.trans htu⟩

/-- What an escaped text mentions, the text mentions, or an escape has completed it. -/
theorem mentions_escape_cases {id : Text} (hid : Text.IsWord id) (h : Mentions (Json.escape t) id) :
    Mentions t id ∨ CompletedByEscape t id := by
  obtain ⟨field, hfield, hin⟩ := h
  obtain ⟨hdot, hpath⟩ := isPath_field hid hfield
  rcases Json.infix_escape_cases (List.ne_nil_of_mem hdot) hpath hin with
    h | ⟨c, h⟩ | ⟨c, x, y, hx, hxy, hsuffix, hin⟩
  · exact .inl ⟨field, hfield, h⟩
  · exact absurd (Json.mem_escapeLetters (h.subset hdot)) (by decide)
  · exact .inr ⟨field, hfield, c, x, y, hx, hxy, hsuffix, hin⟩

end Body

namespace Settings

/-- The server-farm property is a word that stands in no name of a view, and it starts with a
character that stands in no escape. -/
def FarmApart (s : Settings) : Prop :=
  Text.IsWord s.serverFarmProperty ∧ (∀ c ∈ s.serverFarmProperty.head?, c ∉ Json.escapeLetters) ∧
    ∀ name ∈ [] :: Resource.fieldNames ++ [Resource.nameProperty, Resource.serviceProperty],
      ¬s.serverFarmProperty <:+: name

/-- The server-farm property is a path: it is found inside the parts of a view. -/
theorem FarmApart.isInner {s : Settings} (h : s.FarmApart) : Json.IsInner s.serverFarmProperty :=
  (Json.isPath_of_isWord h.1).isInner fun hnil =>
    h.2.2 [] List.mem_cons_self (hnil ▸ List.infix_rfl)

/-- No escape takes part in the server-farm property: it starts with none of their letters. -/
theorem FarmApart.infix_escape_iff {s : Settings} (h : s.FarmApart) {t : Text} :
    s.serverFarmProperty <:+: Json.escape t ↔ s.serverFarmProperty <:+: t := by
  have hpath := Json.isPath_of_isWord h.1
  constructor
  · intro hin
    obtain ⟨d, p, hd⟩ := List.exists_cons_of_ne_nil h.isInner.1
    have hletter := h.2.1 d (by rw [hd]; rfl)
    rw [hd] at hin hpath ⊢
    exact Json.infix_of_infix_escape hpath hletter hin
  · intro hin
    have hescaped := Json.escape_infix_escape hin
    rwa [Json.escape_of_isPath hpath] at hescaped

/-- The server-farm property stands in no name of a view. -/
theorem FarmApart.not_infix_name {s : Settings} (h : s.FarmApart) {name : Text}
    (hname : name ∈ Resource.fieldNames ++ [Resource.nameProperty, Resource.serviceProperty]) :
    ¬s.serverFarmProperty <:+: name :=
  h.2.2 name (List.mem_cons_of_mem _ hname)

theorem farmApart_default : FarmApart {} := by
  have hhead : ('s' : CodePoint) ∉ Json.escapeLetters := by decide
  refine ⟨by decide, fun c hc => Option.mem_some.1 hc ▸ hhead, ?_⟩
  simp only [← Text.occursIn_eq_false_iff]
  decide

end Settings

namespace Resource

open Body (Mentions CompletedByEscape dependsOn)

variable {s : Settings} {keys : List Text} {r : Resource} {body target : Text}

/-! ## Properties -/

theorem mem_entries_withProperty {properties : OrderedMap Text Text} {name : Text}
    {value : Option Text} {p : Text × Text}
    (h : p ∈ (withProperty properties name value).entries) :
    p ∈ properties.entries ∨ p.1 = name ∧ value = some p.2 := by
  obtain ⟨k, v⟩ := p
  cases value with
  | none => exact .inl h
  | some value =>
    rw [OrderedMap.mem_entries_iff, withProperty, OrderedMap.get?_insert] at h
    split at h
    · next hk => exact .inr ⟨hk, h⟩
    · exact .inl (OrderedMap.mem_entries_iff.2 h)

/-- A resource without properties gets only such as stand in its body. -/
theorem infix_of_mem_inferredProperties (hnone : r.properties = ∅) {p : Text × Text}
    (h : p ∈ (r.inferredProperties s body).entries) :
    p.1 ∈ [nameProperty, serviceProperty] ∧ p.2 <:+: body := by
  rw [inferredProperties, hnone] at h
  rcases mem_entries_withProperty h with h | ⟨hname, hvalue⟩
  · rcases mem_entries_withProperty h with h | ⟨hname, hvalue⟩
    · cases h
    · exact ⟨by simp [hname], Body.infix_of_name? hvalue⟩
  · exact ⟨by simp [hname], Body.infix_of_serviceTag? hvalue⟩

/-! ## The texts of a resource -/

/-- The texts that the view shows of a resource of which nothing else was known before inference. -/
theorem mem_texts_infer_cases (hconnections : r.connections = []) (hproperties : r.properties = ∅)
    (hbody : r.body = some body) {t : Text} (h : t ∈ (r.infer s keys).texts) :
    t <:+: body ∨ t = r.id ∨ t ∈ r.type :: dependsOn body ∨ r.FoundIn s keys t ∨
      t ∈ [nameProperty, serviceProperty] := by
  rw [infer_of_body hbody, texts, hconnections, List.nil_append] at h
  simp only [List.mem_cons, List.mem_append, List.mem_flatMap] at h
  rcases h with rfl | rfl | rfl | hconnection | ⟨q, hq, ht⟩
  · rw [hbody]
    exact .inl List.infix_rfl
  · exact .inr (.inl rfl)
  · exact .inr (.inr (.inl List.mem_cons_self))
  · rcases mem_inferredConnections.1 hconnection with hlisted | hfound
    · exact .inr (.inr (.inl (List.mem_cons_of_mem _ hlisted)))
    · exact .inr (.inr (.inr (.inl ⟨body, hbody, hfound⟩)))
  · obtain ⟨hname, hvalue⟩ := infix_of_mem_inferredProperties hproperties hq
    rcases ht with rfl | rfl | ht
    · exact .inr (.inr (.inr (.inr hname)))
    · exact .inl hvalue
    · cases ht

/-! ## Said elsewhere -/

/-- A reference that the view shows outside the body, the name and the service: a field of the
resource `target` in the type or in a listed dependency, or the server-farm property there or in the
identifier when `target` is the plan. -/
def SaidElsewhere (s : Settings) (r : Resource) (body target : Text) : Prop :=
  (∃ t ∈ r.type :: dependsOn body, Mentions t target) ∨
    (target = s.planId ∧ ∃ t ∈ r.id :: r.type :: dependsOn body, s.serverFarmProperty <:+: t)

theorem mem_texts_of_saidElsewhere (s : Settings) (keys : List Text) (hbody : r.body = some body)
    {t : Text} (h : t ∈ r.id :: r.type :: dependsOn body) : t ∈ (r.infer s keys).texts := by
  rw [infer_of_body hbody, texts]
  simp only [List.mem_cons, List.mem_append] at h ⊢
  rcases h with rfl | rfl | hlisted
  · exact .inr (.inl rfl)
  · exact .inr (.inr (.inl rfl))
  · exact .inr (.inr (.inr (.inl (.inr (mem_inferredConnections.2 (.inl hlisted))))))

/-- What is said elsewhere is drawn. -/
theorem links_of_saidElsewhere (hbody : r.body = some body) (htarget : Text.IsWord target)
    (hfarm : s.FarmApart) (h : r.SaidElsewhere s body target) :
    (r.infer s keys).Links s target := by
  rcases h with ⟨t, ht, hmention⟩ | ⟨hplan, t, ht, hin⟩
  · have htexts := mem_texts_of_saidElsewhere s keys hbody (List.mem_cons_of_mem _ ht)
    exact .inr (.inl ((mentions_view_iff htarget).2 ⟨t, htexts, hmention.escape htarget⟩))
  · have htexts := mem_texts_of_saidElsewhere s keys hbody ht
    exact .inr (.inr ⟨hplan,
      .inr (infix_view_of_mem_texts (Json.isPath_of_isWord hfarm.1) htexts hin)⟩)

/-! ## What is drawn -/

/-- What inference finds among the keys it records. -/
theorem mem_connections_of_foundIn (h : r.FoundIn s keys target) :
    target ∈ (r.infer s keys).connections :=
  (mem_connections_infer keys).2 (.inr h)

/-- A mention in the view is recorded, or said elsewhere, or completed by an escape. -/
theorem cases_of_mentions_view (hconnections : r.connections = []) (hproperties : r.properties = ∅)
    (hbody : r.body = some body) (hid : Text.IsWord r.id) (hkeys : ∀ k ∈ keys, Text.IsWord k)
    (htarget : target ∈ keys) (hne : target ≠ r.id)
    (h : Mentions (r.infer s keys).view target) :
    target ∈ (r.infer s keys).connections ∨ r.SaidElsewhere s body target ∨
      ∃ t ∈ body :: r.type :: dependsOn body, CompletedByEscape t target := by
  obtain ⟨t, ht, hmention⟩ := (mentions_view_iff (hkeys target htarget)).1 h
  have hcases := Body.mentions_escape_cases (hkeys target htarget) hmention
  have hword : ∀ {u : Text}, Text.IsWord u → t ≠ u := by
    rintro u hu rfl
    rw [Json.escape_of_isPath (Json.isPath_of_isWord hu)] at hmention
    exact Body.not_mentions_of_isWord hu hmention
  rcases mem_texts_infer_cases hconnections hproperties hbody ht with
    hin | rfl | hlisted | hfound | hname
  · rcases hcases with hmention | hcompleted
    · exact .inl (mem_connections_of_foundIn
        ⟨body, hbody, .inl ⟨htarget, hne, hmention.mono hin⟩⟩)
    · exact .inr (.inr ⟨body, List.mem_cons_self, hcompleted.mono hin⟩)
  · exact absurd rfl (hword hid)
  · rcases hcases with hmention | hcompleted
    · exact .inr (.inl (.inl ⟨t, hlisted, hmention⟩))
    · exact .inr (.inr ⟨t, List.mem_cons_of_mem _ hlisted, hcompleted⟩)
  · exact absurd rfl (hword (hkeys t hfound.mem_keys))
  · have hnames : ∀ name ∈ [nameProperty, serviceProperty], Text.IsWord name := by decide
    exact absurd rfl (hword (hnames t hname))

/-- The server-farm property in the view stands in the body, or is said elsewhere, unless the plan
is recorded anyway. -/
theorem cases_of_farm_infix_view (hconnections : r.connections = [])
    (hproperties : r.properties = ∅) (hbody : r.body = some body) (hfarm : s.FarmApart)
    (h : s.serverFarmProperty <:+: (r.infer s keys).view) :
    r.PlanHosted s body ∨ ∃ t ∈ r.id :: r.type :: dependsOn body, s.serverFarmProperty <:+: t := by
  rcases (infix_view_iff hfarm.isInner).1 h with ⟨name, hname, hin⟩ | ⟨t, ht, hin⟩
  · exact absurd (hfarm.infix_escape_iff.1 hin)
      (hfarm.not_infix_name (List.mem_append_left _ hname))
  · have hin := hfarm.infix_escape_iff.1 hin
    rcases mem_texts_infer_cases hconnections hproperties hbody ht with
      hbodyIn | rfl | hlisted | ⟨body', hbody', hfound⟩ | hname
    · exact .inl (.inr (hin.trans hbodyIn))
    · exact .inr ⟨_, List.mem_cons_self, hin⟩
    · exact .inr ⟨t, List.mem_cons_of_mem _ hlisted, hin⟩
    · obtain rfl : body = body' := Option.some.inj (hbody.symm.trans hbody')
      rcases hfound with ⟨-, -, field, -, hfield⟩ | ⟨-, -, -, hhosted⟩
      · exact .inl (.inr ((hin.trans (List.prefix_append t field).isInfix).trans hfield))
      · exact .inl hhosted
    · exact absurd hin (hfarm.not_infix_name (List.mem_append_right _ hname))

/-- **What is drawn** from a resource of which nothing else was known before inference: what
inference has recorded, what is said elsewhere, and what an escape has completed. -/
theorem cases_of_links (hconnections : r.connections = []) (hproperties : r.properties = ∅)
    (hbody : r.body = some body) (hid : Text.IsWord r.id) (hkeys : ∀ k ∈ keys, Text.IsWord k)
    (hfarm : s.FarmApart) (htarget : target ∈ keys) (hne : target ≠ r.id)
    (h : (r.infer s keys).Links s target) :
    target ∈ (r.infer s keys).connections ∨ r.SaidElsewhere s body target ∨
      ∃ t ∈ body :: r.type :: dependsOn body, CompletedByEscape t target := by
  rcases h with hrecorded | hmention | ⟨rfl, hhosted⟩
  · exact .inl hrecorded
  · exact cases_of_mentions_view hconnections hproperties hbody hid hkeys htarget hne hmention
  · suffices hplan : r.PlanHosted s body ∨
        ∃ t ∈ r.id :: r.type :: dependsOn body, s.serverFarmProperty <:+: t by
      rcases hplan with hhosted | helsewhere
      · exact .inl (mem_connections_of_foundIn
          ⟨body, hbody, .inr ⟨rfl, htarget, hne.symm, hhosted⟩⟩)
      · exact .inr (.inl (.inr ⟨rfl, helsewhere⟩))
    rcases planHosted_infer.1 hhosted with htype | hin
    · exact .inl (.inl htype)
    · exact cases_of_farm_infix_view hconnections hproperties hbody hfarm hin

end Resource

/-! ## Sources -/

namespace Flowchart

open Body (dependsOn CompletedByEscape)
open ResourceSet (extract)

/-- **Where inference and drawing agree.** Of two different resources of a source, of which the
first one has a body, the edge from the first to the second is drawn when inference has recorded it
and when it is said elsewhere. And when it is drawn, inference has recorded it, or it is said
elsewhere, or an escape in the view has completed it. -/
theorem inference_and_drawing_agree (t a b : Text) (r : Resource) (body : Text)
    (ha : ((extract t).infer {}).get? a = some r) (hbody : r.body = some body)
    (hb : b ∈ ((extract t).infer {}).keys) (hne : a ≠ b) :
    (b ∈ r.connections ∨ r.SaidElsewhere {} body b →
        edgeLine a b ∈ Text.lines (draw {} ((extract t).infer {}))) ∧
      (edgeLine a b ∈ Text.lines (draw {} ((extract t).infer {})) →
        b ∈ r.connections ∨ r.SaidElsewhere {} body b ∨
          ∃ u ∈ body :: r.type :: dependsOn body, CompletedByEscape u b) := by
  have hword : ((extract t).infer {}).WordKeyed := (ResourceSet.wordKeyed_extract t).infer
  have hkey : a ∈ ((extract t).infer {}).keys := OrderedMap.mem_keys_iff.2 ⟨r, ha⟩
  have hdrawn : edgeLine a b ∈ Text.lines (draw {} ((extract t).infer {})) ↔ r.Links {} b := by
    rw [edgeLine_mem_lines_draw hword (hword.isWord hkey), ResourceSet.mem_linkedPairs]
    constructor
    · intro h
      obtain ⟨-, -, -, r', hr', hlinks⟩ := h
      obtain rfl := Option.some.inj (ha.symm.trans hr')
      exact hlinks
    · intro h
      exact ⟨hkey, hb, hne, r, ha, h⟩
  rw [hdrawn]
  rw [ResourceSet.get?_infer, Option.map_eq_some_iff] at ha
  obtain ⟨r, hr, rfl⟩ := ha
  obtain ⟨hid, rfl, hproperties, hconnections⟩ :=
    ResourceSet.of_mem_extract (OrderedMap.mem_entries_iff.2 hr)
  rw [Resource.infer_body] at hbody
  rw [ResourceSet.keys_infer] at hb
  have hkeys : ∀ k ∈ (extract t).keys, Text.IsWord k := fun k hk =>
    (ResourceSet.isIdentifier_of_mem_keys hk).2
  have helsewhere : (r.infer {} (extract t).keys).SaidElsewhere {} body b ↔
      r.SaidElsewhere {} body b := by
    rw [Resource.SaidElsewhere, Resource.infer_id, Resource.infer_type]
    rfl
  rw [helsewhere, Resource.infer_type]
  constructor
  · intro h
    rcases h with hrecorded | hsaid
    · exact .inl hrecorded
    · exact Resource.links_of_saidElsewhere hbody (hkeys b hb) Settings.farmApart_default hsaid
  · exact Resource.cases_of_links hconnections hproperties hbody hid.2 hkeys
      Settings.farmApart_default hb (Ne.symm hne)

/-! ## Drawn without being recorded -/

/-- The resource `a` has a body, and the edge from it to the different resource `b` is drawn, but
inference has not recorded it. -/
def OnlyDrawn (t a b : Text) : Prop :=
  ∃ r ∈ ((extract t).infer {}).get? a, r.body ≠ none ∧ b ∈ ((extract t).infer {}).keys ∧ a ≠ b ∧
    edgeLine a b ∈ Text.lines (draw {} ((extract t).infer {})) ∧ b ∉ r.connections

instance (t a b : Text) : Decidable (OnlyDrawn t a b) :=
  inferInstanceAs (Decidable (∃ r ∈ ((extract t).infer {}).get? a, _))

/-- A type that refers to another resource. -/
def typeSource : Text := "resource a 'b.id' = \x7b\n\x7d\nresource b 'Store' = \x7b\n\x7d\n"

/-- A listed dependency that refers to another resource only without its comment. -/
def listSource : Text :=
  "resource a 'Web' = \x7b\n  dependsOn: [b/**/.id]\n\x7d\nresource b 'Store' = \x7b\n\x7d\n"

/-- An identifier that is the server-farm property. -/
def farmSource : Text :=
  "resource serverFarmId 'Web' = \x7b\n\x7d\nresource appServicePlan 'Web' = \x7b\n\x7d\n"

/-- A newline in front of a reference: in the view, the letter of its escape goes with the
reference. -/
def newlineSource : Text :=
  "resource a 'Web' = \x7b\nb.id\x7d\nresource nb 'Store' = \x7b\n\x7d\n"

/-- Each of the ways in which more is drawn than inference has recorded. -/
theorem onlyDrawn_sources :
    OnlyDrawn typeSource "a" "b" ∧ OnlyDrawn listSource "a" "b" ∧
      OnlyDrawn farmSource "serverFarmId" "appServicePlan" ∧ OnlyDrawn newlineSource "a" "nb" := by
  decide +kernel

theorem inference_and_drawing_agree_type :
    ∃ r body, ((extract typeSource).infer {}).get? ("a" : Text) = some r ∧ r.body = some body ∧
      ("b" : Text) ∈ ((extract typeSource).infer {}).keys ∧ ("a" : Text) ≠ ("b" : Text) ∧
      r.SaidElsewhere {} body "b" ∧
      edgeLine "a" "b" ∈ Text.lines (draw {} ((extract typeSource).infer {})) := by
  have hsaid : ∃ r ∈ ((extract typeSource).infer {}).get? ("a" : Text), ∃ body ∈ r.body,
      ∃ t ∈ r.type :: dependsOn body, Body.Mentions t "b" := by decide +kernel
  obtain ⟨r, hr, body, hbody, hmention⟩ := hsaid
  have hkey : ("b" : Text) ∈ ((extract typeSource).infer {}).keys := by decide +kernel
  have hne : ("a" : Text) ≠ ("b" : Text) := by decide
  exact ⟨r, body, hr, hbody, hkey, hne, .inl hmention,
    (inference_and_drawing_agree typeSource "a" "b" r body hr hbody hkey hne).1
      (.inr (.inl hmention))⟩

end Flowchart

end Groundplan

import Groundplan.Proofs.Flowchart.Drawing

/-!
# Edges are local to their endpoints

Inference writes the keys of other resources into a resource, and the drawing then searches a view
that shows them. No third resource decides over an edge all the same.

**Why it does not matter.** A key that inference adds is a word, so it mentions nothing
(`Body.not_mentions_of_isWord`). It is added for a mention, or for a convention, that the drawing
finds in the body as well. And a key that holds the server-farm property stands in the body, so the
property does. So a resource is linked to the same keys, whichever other keys the set has
(`Resource.links_infer_iff`).

Main result: `draw_infer_local`.
-/

namespace Groundplan

namespace Resource

open Json (IsPath isPath_of_isWord)

variable {s : Settings} {r : Resource} {keys : List Text} {target t : Text}

/-! ## One resource -/

theorem label_infer (s : Settings) (keys : List Text) (r : Resource) :
    (r.infer s keys).label = (r.infer s []).label := by
  simp only [label, displayName, service?, property?, shortType, infer_id, infer_type,
    infer_properties s keys]

theorem mem_texts_infer (keys : List Text) :
    t ∈ (r.infer s keys).texts ↔ t ∈ (r.infer s []).texts ∨ r.FoundIn s keys t := by
  simp only [texts, List.mem_cons, List.mem_append, infer_body, infer_id, infer_type,
    infer_properties s keys, mem_connections_infer keys]
  grind

/-- The keys of a set add to a view what is found among them, and nothing else. -/
theorem infix_view_infer_iff {p : Text} (hp : Json.IsInner p) (hkeys : ∀ k ∈ keys, Text.IsWord k) :
    p <:+: (r.infer s keys).view ↔
      p <:+: (r.infer s []).view ∨ ∃ t, r.FoundIn s keys t ∧ p <:+: t := by
  have hfound : (∃ t, r.FoundIn s keys t ∧ p <:+: Json.escape t) ↔
      ∃ t, r.FoundIn s keys t ∧ p <:+: t := by
    refine exists_congr fun t => and_congr_right fun h => ?_
    rw [Json.escape_of_isPath (isPath_of_isWord (hkeys t h.mem_keys))]
  rw [infix_view_iff hp, infix_view_iff hp, or_assoc, ← hfound]
  simp only [mem_texts_infer keys, or_and_right, exists_or]

theorem body_mem_texts_infer {body : Text} (h : body ∈ r.body) : body ∈ (r.infer s keys).texts := by
  rw [texts, infer_body, Option.mem_def.1 h]
  exact List.mem_cons_self

/-- What the body of a resource has and needs no escaping is found in every view of it. -/
theorem infix_view_infer_of_body {p body : Text} (hp : IsPath p) (hbody : body ∈ r.body)
    (h : p <:+: body) : p <:+: (r.infer s keys).view :=
  infix_view_of_mem_texts hp (body_mem_texts_infer hbody) h

theorem planHosted_infer :
    (r.infer s keys).PlanHosted s t ↔ r.PlanHosted s t := by
  simp only [PlanHosted, infer_type]

/-- The keys of a set do not decide whether a resource falls under the plan convention: where an
added key holds the server-farm property, the body does. -/
theorem planHosted_view_infer (hkeys : ∀ k ∈ keys, Text.IsWord k)
    (hfarm : Text.IsWord s.serverFarmProperty) :
    r.PlanHosted s (r.infer s keys).view ↔ r.PlanHosted s (r.infer s []).view := by
  have hpath := isPath_of_isWord hfarm
  by_cases hne : s.serverFarmProperty = []
  · have hnil : ∀ text, s.serverFarmProperty <:+: text := fun text => hne ▸ List.nil_infix
    exact ⟨fun _ => .inr (hnil _), fun _ => .inr (hnil _)⟩
  have hview := infix_view_infer_iff (r := r) (s := s) (hpath.isInner hne) hkeys
  constructor
  · intro h
    rcases h with htype | hfarmIn
    · exact .inl htype
    · rcases hview.1 hfarmIn with hfarmIn | ⟨t, ⟨body, hb, hfound⟩, hin⟩
      · exact .inr hfarmIn
      · rcases hfound with ⟨-, -, field, -, hfield⟩ | ⟨-, -, -, hhosted⟩
        · have hkey : t <:+: t ++ field := (List.prefix_append t field).isInfix
          exact .inr (infix_view_infer_of_body hpath hb ((hin.trans hkey).trans hfield))
        · exact hhosted.mono (infix_view_infer_of_body hpath hb)
  · intro h
    exact h.mono fun hfarmIn => hview.2 (.inl hfarmIn)

/-- The keys of a set do not decide what the view of a resource mentions. -/
theorem mentions_view_infer (hkeys : ∀ k ∈ keys, Text.IsWord k) (htarget : Text.IsWord target) :
    Body.Mentions (r.infer s keys).view target ↔ Body.Mentions (r.infer s []).view target := by
  refine exists_congr fun field => and_congr_right fun hfield => ?_
  obtain ⟨hdot, hpath⟩ := Body.isPath_field htarget hfield
  rw [infix_view_infer_iff (hpath.isInner (List.ne_nil_of_mem hdot)) hkeys, or_iff_left]
  intro h
  obtain ⟨t, hfound, hin⟩ := h
  exact Body.not_mentions_of_isWord (hkeys t hfound.mem_keys) ⟨field, hfield, hin⟩

/-- **The keys of a set do not decide whether two resources are linked.** -/
theorem links_infer_iff (hkeys : ∀ k ∈ keys, Text.IsWord k)
    (hfarm : Text.IsWord s.serverFarmProperty) (htarget : Text.IsWord target) :
    (r.infer s keys).Links s target ↔ (r.infer s []).Links s target := by
  rw [Links, Links, mentions_view_infer hkeys htarget, planHosted_infer, planHosted_infer,
    planHosted_view_infer hkeys hfarm]
  refine ⟨?_, Or.imp_left fun h => (mem_connections_infer keys).2 (.inl h)⟩
  intro h
  rcases h with hmem | hrest
  · rcases (mem_connections_infer keys).1 hmem with hmem | ⟨body, hb, hfound⟩
    · exact .inl hmem
    · -- The drawing finds in the body what inference found there.
      rcases hfound with ⟨-, -, hmention⟩ | ⟨hplan, -, -, hhosted⟩
      · exact .inr (.inl ((mentions_view_iff htarget).2
          ⟨body, body_mem_texts_infer hb, hmention.escape htarget⟩))
      · have hpath := isPath_of_isWord hfarm
        exact .inr (.inr ⟨hplan, hhosted.mono (infix_view_infer_of_body hpath hb)⟩)
  · exact .inr hrest

end Resource

/-! ## Sets of resources -/

namespace ResourceSet

variable {s : Settings} {rs rs' : ResourceSet} {a b : Text}

theorem WordKeyed.infer (h : rs.WordKeyed) : (rs.infer s).WordKeyed := by
  intro p hp
  obtain ⟨⟨key, r⟩, hr, rfl⟩ := List.mem_map.1 hp
  exact ⟨(Resource.infer_id s rs.keys r).trans (h _ hr).1, (h _ hr).2⟩

theorem WordKeyed.filter (h : rs.WordKeyed) (p : Text → Resource → Bool) :
    WordKeyed (OrderedMap.filter p rs) :=
  fun q hq => h q (List.mem_filter.1 hq).1

/-- After inference, the links of `a` depend on the resource under `a` only. -/
theorem linked_infer_iff (h : rs.WordKeyed) (hfarm : Text.IsWord s.serverFarmProperty)
    (hb : Text.IsWord b) :
    (rs.infer s).Linked s a b ↔ a ≠ b ∧ ∃ r ∈ rs.get? a, (r.infer s []).Links s b := by
  have hlinks : ∀ r : Resource, (r.infer s rs.keys).Links s b ↔ (r.infer s []).Links s b :=
    fun r => Resource.links_infer_iff (fun k hk => h.isWord hk) hfarm hb
  simp only [Linked, get?_infer, Option.mem_def, Option.map_eq_some_iff, exists_exists_and_eq_and,
    hlinks]

/-- **No third resource decides over a link.** -/
theorem linked_infer_congr (h : rs.WordKeyed) (h' : rs'.WordKeyed)
    (hfarm : Text.IsWord s.serverFarmProperty) (ha : rs.get? a = rs'.get? a) (hb : Text.IsWord b) :
    (rs.infer s).Linked s a b ↔ (rs'.infer s).Linked s a b := by
  rw [linked_infer_iff h hfarm hb, linked_infer_iff h' hfarm hb, ha]

/-- Reordering a set keeps its links. -/
theorem perm_linkedPairs_infer (h : rs.WordKeyed) (hfarm : Text.IsWord s.serverFarmProperty)
    (hperm : rs.entries.Perm rs'.entries) :
    (linkedPairs s (rs.infer s)).Perm (linkedPairs s (rs'.infer s)) := by
  have h' : rs'.WordKeyed := fun p hp => h p (hperm.mem_iff.2 hp)
  have hkeys : ∀ a, a ∈ rs.keys ↔ a ∈ rs'.keys := fun a => (hperm.map Prod.fst).mem_iff
  have hget : ∀ a, rs.get? a = rs'.get? a := by
    intro a
    refine Option.ext fun r => ?_
    rw [← OrderedMap.mem_entries_iff, ← OrderedMap.mem_entries_iff]
    exact hperm.mem_iff
  rw [List.perm_ext_iff_of_nodup (nodup_linkedPairs s _) (nodup_linkedPairs s _)]
  intro h
  obtain ⟨a, b⟩ := h
  rw [mem_linkedPairs, mem_linkedPairs, keys_infer, keys_infer, hkeys a, hkeys b]
  refine and_congr_right fun _ => and_congr_right fun hb => ?_
  exact linked_infer_congr h h' hfarm (hget a) (h'.isWord hb)

/-- The pairs from parts of two lists are the pairs whose sides are in the parts. -/
theorem product_filter {α β : Type} (p : α → Bool) (q : β → Bool) (l : List α) (m : List β) :
    (l.filter p ×ˢ m.filter q : List (α × β)) = (l ×ˢ m).filter fun (a, b) => p a && q b := by
  induction l with
  | nil => rfl
  | cons a l ih =>
    have hrow : (m.map fun b => (a, b)).filter (fun (a, b) => p a && q b) =
        if p a then (m.filter q).map fun b => (a, b) else [] := by
      rw [List.filter_map]
      cases h : p a with
      | false => simp [Function.comp_def, h]
      | true => simp [Function.comp_def, h]
    rw [List.product_cons, List.filter_append, hrow, ← ih, List.filter_cons]
    split
    · exact List.product_cons a _ _
    · rfl

/-- Removing resources leaves the links between those that are kept. -/
theorem linkedPairs_infer_filter (h : rs.WordKeyed) (hfarm : Text.IsWord s.serverFarmProperty)
    (keep : Text → Bool) :
    linkedPairs s (infer s (OrderedMap.filter (fun key _ => keep key) rs)) =
      (linkedPairs s (rs.infer s)).filter fun (a, b) => keep a && keep b := by
  have h' := h.filter fun key _ => keep key
  rw [linkedPairs, linkedPairs, keys_infer, keys_infer, OrderedMap.keys_filter_keys, product_filter,
    List.filter_filter, List.filter_filter]
  refine List.filter_congr ?_
  intro p hp
  obtain ⟨a, b⟩ := p
  have hb := h.isWord (List.mem_product.1 hp).2
  cases ha : keep a with
  | false => simp [ha]
  | true =>
    have hget : (OrderedMap.filter (fun key _ => keep key) rs).get? a = rs.get? a := by
      rw [OrderedMap.get?_filter_keys, if_pos ha]
    have hlinked := linked_infer_congr h' h hfarm hget hb
    simp only [ha, hlinked, Bool.true_and, Bool.and_comm]

end ResourceSet

/-! ## Drawings -/

namespace Flowchart

open ResourceSet (WordKeyed)

variable {s : Settings} {rs rs' : ResourceSet}

theorem nodeLines_infer (s : Settings) (rs : ResourceSet) :
    nodeLines (rs.infer s) =
      rs.entries.map fun (key, r) => nodeLine key (r.infer s []).label := by
  rw [nodeLines, ResourceSet.infer, OrderedMap.entries_mapValues, List.map_map]
  refine List.map_congr_left ?_
  intro p hp
  show nodeLine p.1 (p.2.infer s rs.keys).label = _
  rw [Resource.label_infer]

/-- Reordering the resources reorders the lines. -/
theorem perm_lines_draw_infer (h : rs.WordKeyed) (h' : rs'.WordKeyed)
    (hfarm : Text.IsWord s.serverFarmProperty) (hperm : rs.entries.Perm rs'.entries) :
    (Text.lines (draw s (rs.infer s))).Perm (Text.lines (draw s (rs'.infer s))) := by
  have hnodes : (nodeLines (rs.infer s)).Perm (nodeLines (rs'.infer s)) := by
    rw [nodeLines_infer, nodeLines_infer]
    exact hperm.map _
  have hedges : (edgeLines s (rs.infer s)).Perm (edgeLines s (rs'.infer s)) :=
    (ResourceSet.perm_linkedPairs_infer h hfarm hperm).map _
  rw [lines_draw h.infer, lines_draw h'.infer]
  exact ((hnodes.append hedges).cons header).append_right [[]]

/-- Removing resources adds no line. -/
theorem lines_draw_infer_filter (h : rs.WordKeyed) (hfarm : Text.IsWord s.serverFarmProperty)
    (keep : Text → Bool) :
    (Text.lines (draw s (ResourceSet.infer s (rs.filter fun key _ => keep key)))).Sublist
      (Text.lines (draw s (rs.infer s))) := by
  have hnodes : (nodeLines (ResourceSet.infer s (rs.filter fun key _ => keep key))).Sublist
      (nodeLines (rs.infer s)) := by
    rw [nodeLines_infer, nodeLines_infer, OrderedMap.entries_filter]
    exact List.filter_sublist.map _
  have hedges : (edgeLines s (ResourceSet.infer s (rs.filter fun key _ => keep key))).Sublist
      (edgeLines s (rs.infer s)) := by
    rw [edgeLines, edgeLines, ResourceSet.linkedPairs_infer_filter h hfarm]
    exact List.filter_sublist.map _
  rw [lines_draw h.infer, lines_draw (h.filter _).infer]
  exact ((hnodes.append hedges).cons_cons header).append (List.Sublist.refl [[]])

/-- **Edges are local to their endpoints.** Let two sets be drawn after inference. An edge from `a`
to `b` stands in both drawings or in none, if `a` and `b` are in both sets and `a` is the same
resource in them. Reordering a set reorders the lines of its drawing. Removing resources leaves
exactly the nodes and the edges between the resources that are kept, in their order, and no line
that was not there before. -/
theorem draw_infer_local (s : Settings) (rs rs' : ResourceSet) (h : rs.WordKeyed)
    (h' : rs'.WordKeyed) (hfarm : Text.IsWord s.serverFarmProperty) :
    (∀ a b r, (a, r) ∈ rs.entries → (a, r) ∈ rs'.entries → b ∈ rs.keys → b ∈ rs'.keys →
      (edgeLine a b ∈ Text.lines (draw s (rs.infer s)) ↔
        edgeLine a b ∈ Text.lines (draw s (rs'.infer s)))) ∧
    (rs.entries.Perm rs'.entries →
      (Text.lines (draw s (rs.infer s))).Perm (Text.lines (draw s (rs'.infer s)))) ∧
    ∀ keep : Text → Bool,
      let part : ResourceSet := rs.filter fun key _ => keep key
      readKeys (draw s (part.infer s)) = (readKeys (draw s (rs.infer s))).filter keep ∧
        readEdges (draw s (part.infer s)) =
          (readEdges (draw s (rs.infer s))).filter (fun (a, b) => keep a && keep b) ∧
        (Text.lines (draw s (part.infer s))).Sublist (Text.lines (draw s (rs.infer s))) := by
  refine ⟨?_, perm_lines_draw_infer h h' hfarm, ?_⟩
  · intro a b r ha ha' hb hb'
    have hword := (h _ ha).2
    have hget : rs.get? a = rs'.get? a := by
      rw [OrderedMap.mem_entries_iff.1 ha, OrderedMap.mem_entries_iff.1 ha']
    have hkey : a ∈ rs.keys := List.mem_map_of_mem ha
    have hkey' : a ∈ rs'.keys := List.mem_map_of_mem ha'
    rw [edgeLine_mem_lines_draw h.infer hword, edgeLine_mem_lines_draw h'.infer hword,
      ResourceSet.mem_linkedPairs, ResourceSet.mem_linkedPairs,
      ResourceSet.linked_infer_congr h h' hfarm hget (h.isWord hb)]
    simp only [ResourceSet.keys_infer, hkey, hkey', hb, hb', true_and]
  · intro keep part
    have hpart : part.WordKeyed := h.filter _
    refine ⟨?_, ?_, lines_draw_infer_filter h hfarm keep⟩
    · rw [readKeys_draw hpart.infer, readKeys_draw h.infer, ResourceSet.keys_infer,
        ResourceSet.keys_infer]
      exact OrderedMap.keys_filter_keys keep rs
    · rw [readEdges_draw hpart.infer, readEdges_draw h.infer]
      exact ResourceSet.linkedPairs_infer_filter h hfarm keep

/-- A job that mentions a resource whose key is the server-farm property. -/
def job : Resource := { id := "job", type := "App/jobs", body := some "serverFarmId.id" }

/-- The plan that a resource with the server-farm property runs on. -/
def plan : Resource := { id := "appServicePlan", type := "Web/plans" }

/-- The resource that the job mentions. -/
def farm : Resource := { id := "serverFarmId", type := "Web/farms" }

/-- The job, what it mentions, and the plan. -/
def jobFirst : ResourceSet where
  entries := [("job", job), ("serverFarmId", farm), ("appServicePlan", plan)]
  distinct := by decide

/-- The same resources in another order. -/
def planFirst : ResourceSet where
  entries := [("appServicePlan", plan), ("job", job), ("serverFarmId", farm)]
  distinct := by decide

theorem draw_infer_local_jobFirst_planFirst :
    jobFirst.WordKeyed ∧ planFirst.WordKeyed ∧
      Text.IsWord (default : Settings).serverFarmProperty ∧
      (edgeLine "job" "appServicePlan" ∈ Text.lines (draw default (jobFirst.infer default)) ↔
        edgeLine "job" "appServicePlan" ∈ Text.lines (draw default (planFirst.infer default))) ∧
      (Text.lines (draw default (jobFirst.infer default))).Perm
        (Text.lines (draw default (planFirst.infer default))) := by
  have hjob : jobFirst.WordKeyed := by decide
  have hplan : planFirst.WordKeyed := by decide
  have hword : Text.IsWord (default : Settings).serverFarmProperty := by decide
  obtain ⟨hedge, hperm, -⟩ := draw_infer_local default jobFirst planFirst hjob hplan hword
  have hline := hedge "job" "appServicePlan" job (by simp [jobFirst]) (by simp [planFirst])
    (by decide) (by decide)
  have hturn : jobFirst.entries.Perm planFirst.entries := by
    show ([(("job" : Text), job), (("serverFarmId" : Text), farm)] ++
      [(("appServicePlan" : Text), plan)]).Perm _
    exact List.perm_append_comm
  exact ⟨hjob, hplan, hword, hline, hperm hturn⟩

end Flowchart

end Groundplan

import Groundplan.Proofs.Flowchart.Agreement

/-!
# What inference adds to a drawing

The resources of a source can be drawn as they were extracted, or after inference. Extraction knows
nothing of a resource but its type and its body; inference adds connections, a name and a service.

**What is drawn anyway.** The drawing searches the body itself. So it finds every key and the plan
that inference finds there (`FoundIn.links`), and the name and the service, which stand in the body,
show it nothing new.

**What is added.** Only the listed dependencies are new texts in the view: their comments have been
taken out. One of them may be the identifier of another resource, or have a field of it or the
server-farm property (`Body.Says`). It may also have a tab or another character that the view writes
with an escape, and the letters of the escape may complete a field (`Body.CompletedByEscape`), which
then stands neither in the dependency nor in the body (`drawn_without_being_said`).

Main result: `draw_infer_adds_listed`.
-/

namespace Groundplan

namespace Body

variable {s : Settings} {token target : Text}

/-- A listed dependency says that the resource `target` is needed: it is its identifier, or it has a
field of it, or it has the server-farm property and `target` is the plan. -/
def Says (s : Settings) (token target : Text) : Prop :=
  token = target ∨ Mentions token target ∨
    (target = s.planId ∧ Text.occursIn s.serverFarmProperty token = true)

instance (s : Settings) (token target : Text) : Decidable (Says s token target) :=
  inferInstanceAs (Decidable (_ ∨ _ ∨ _))

/-- What an escape completes, the escaped text mentions. -/
theorem CompletedByEscape.mentions_escape (htarget : Text.IsWord target)
    (h : CompletedByEscape token target) : Mentions (Json.escape token) target := by
  obtain ⟨field, hfield, c, x, y, -, hxy, hsuffix, hin⟩ := h
  have hpath : Json.IsPath y := fun d hd =>
    (isPath_field htarget hfield).2 d (hxy ▸ List.mem_append_right x hd)
  have hescaped := Json.escape_infix_escape hin
  rw [Json.escape_cons, Json.escape_of_isPath hpath] at hescaped
  obtain ⟨front, hfront⟩ := hsuffix.trans (List.tail_suffix _)
  refine ⟨field, hfield, List.IsInfix.trans ?_ hescaped⟩
  rw [hxy, ← hfront, List.append_assoc]
  exact (List.suffix_append front (x ++ y)).isInfix

theorem mentions_escape_iff (htarget : Text.IsWord target) :
    Mentions (Json.escape token) target ↔
      Mentions token target ∨ CompletedByEscape token target := by
  constructor
  · exact mentions_escape_cases htarget
  · intro h
    rcases h with h | h
    · exact h.escape htarget
    · exact h.mentions_escape htarget

end Body

namespace Resource

open Body (Mentions Says CompletedByEscape dependsOn)

variable {s : Settings} {keys : List Text} {r : Resource} {body target p : Text}

/-! ## What is drawn anyway -/

theorem body_mem_texts (hbody : r.body = some body) : body ∈ r.texts := by
  rw [texts, hbody]
  exact List.mem_cons_self

/-- The server-farm property stands in the view where it stands in the body. -/
theorem PlanHosted.view (hfarm : Text.IsWord s.serverFarmProperty) (hbody : r.body = some body)
    (h : r.PlanHosted s body) : r.PlanHosted s r.view :=
  h.mono (infix_view_of_mem_texts (Json.isPath_of_isWord hfarm) (body_mem_texts hbody))

/-- What inference finds among the keys is drawn without it. -/
theorem FoundIn.links (hfarm : Text.IsWord s.serverFarmProperty) (hkeys : ∀ k ∈ keys, Text.IsWord k)
    (h : r.FoundIn s keys target) : r.Links s target := by
  have hword := hkeys target h.mem_keys
  obtain ⟨body, hbody, ⟨-, -, hmention⟩ | ⟨hplan, -, -, hhosted⟩⟩ := h
  · exact .inr (.inl ((mentions_view_iff hword).2
      ⟨body, body_mem_texts hbody, hmention.escape hword⟩))
  · exact .inr (.inr ⟨hplan, hhosted.view hfarm hbody⟩)

theorem FoundIn.ne_id (h : r.FoundIn s keys target) : target ≠ r.id := by
  obtain ⟨-, -, ⟨-, hne, -⟩ | ⟨rfl, -, hne, -⟩⟩ := h
  · exact hne
  · exact hne.symm

/-- Inference appends what it finds among the keys behind the listed dependencies. -/
theorem foundIn_of_mem_drop (hbody : r.body = some body)
    (h : target ∈ (r.inferredConnections s keys body).drop (dependsOn body).length) :
    r.FoundIn s keys target := by
  rw [inferredConnections, List.append_assoc, List.drop_left, List.mem_append, List.mem_filter,
    Bool.and_eq_true, bne_iff_ne, Body.references_iff, List.mem_ite_nil_right, List.mem_singleton,
    Bool.and_eq_true, Bool.and_eq_true, List.contains_iff_mem, bne_iff_ne, needsPlan_iff] at h
  rcases h with hmention | ⟨⟨⟨hkey, hne⟩, hhosted⟩, hplan⟩
  · exact ⟨body, hbody, .inl hmention⟩
  · exact ⟨body, hbody, .inr ⟨hplan, hkey, hne, hhosted⟩⟩

/-! ## What is added -/

section Extracted

variable (hconnections : r.connections = []) (hproperties : r.properties = ∅)
  (hbody : r.body = some body)

include hconnections hproperties hbody

/-- Where nothing but the type and the body was known, the view shows what it has shown before, and
the listed dependencies. -/
theorem infix_view_infer_nil_iff (hp : Json.IsInner p)
    (hnames : ∀ name ∈ [nameProperty, serviceProperty], ¬p <:+: Json.escape name) :
    p <:+: (r.infer s []).view ↔
      p <:+: r.view ∨ ∃ token ∈ dependsOn body, p <:+: Json.escape token := by
  have hbefore : r.texts = [body, r.id, r.type] := by
    rw [texts, hbody, hconnections, hproperties]
    rfl
  suffices htexts : (∃ t ∈ (r.infer s []).texts, p <:+: Json.escape t) ↔
      (∃ t ∈ r.texts, p <:+: Json.escape t) ∨ ∃ token ∈ dependsOn body, p <:+: Json.escape token by
    rw [infix_view_iff hp, infix_view_iff hp, htexts, or_assoc]
  constructor
  · rintro ⟨t, ht, hin⟩
    rcases mem_texts_infer_cases hconnections hproperties hbody ht with
      hslice | rfl | hlisted | hfound | hname
    · exact .inl ⟨body, body_mem_texts hbody, hin.trans (Json.escape_infix_escape hslice)⟩
    · exact .inl ⟨r.id, by simp [hbefore], hin⟩
    · rcases List.mem_cons.1 hlisted with rfl | hlisted
      · exact .inl ⟨r.type, by simp [hbefore], hin⟩
      · exact .inr ⟨t, hlisted, hin⟩
    · exact absurd hfound.mem_keys List.not_mem_nil
    · exact absurd hin (hnames t hname)
  · rintro (⟨t, ht, hin⟩ | ⟨token, htoken, hin⟩)
    · rw [hbefore, List.mem_cons] at ht
      rcases ht with rfl | ht
      · exact ⟨t, body_mem_texts_infer hbody, hin⟩
      · exact ⟨t, mem_texts_of_saidElsewhere s [] hbody
          (List.mem_append_left (dependsOn body) ht), hin⟩
    · exact ⟨token, mem_texts_of_saidElsewhere s [] hbody (by simp [htoken]), hin⟩

/-- A field is mentioned by the view of before, or by a listed dependency. -/
theorem mentions_view_infer_nil_iff (htarget : Text.IsWord target) :
    Mentions (r.infer s []).view target ↔
      Mentions r.view target ∨ ∃ token ∈ dependsOn body, Mentions (Json.escape token) target := by
  have hfield : ∀ field ∈ ([".id", ".name", ".properties"] : List Text),
      (target ++ field <:+: (r.infer s []).view ↔ target ++ field <:+: r.view ∨
        ∃ token ∈ dependsOn body, target ++ field <:+: Json.escape token) := by
    intro field hmem
    obtain ⟨hdot, hpath⟩ := Body.isPath_field htarget hmem
    have hnames : ∀ name ∈ [nameProperty, serviceProperty], ↑ '.' ∉ Json.escape name := by decide
    exact infix_view_infer_nil_iff hconnections hproperties hbody
      (hpath.isInner (List.ne_nil_of_mem hdot)) fun name hname hin =>
        hnames name hname (hin.subset hdot)
  constructor
  · rintro ⟨field, hmem, hin⟩
    rcases (hfield field hmem).1 hin with hin | ⟨token, htoken, hin⟩
    · exact .inl ⟨field, hmem, hin⟩
    · exact .inr ⟨token, htoken, field, hmem, hin⟩
  · rintro (⟨field, hmem, hin⟩ | ⟨token, htoken, field, hmem, hin⟩)
    · exact ⟨field, hmem, (hfield field hmem).2 (.inl hin)⟩
    · exact ⟨field, hmem, (hfield field hmem).2 (.inr ⟨token, htoken, hin⟩)⟩

/-- The plan convention is met by the view of before, or by a listed dependency. -/
theorem planHosted_view_infer_nil_iff (hfarm : s.FarmApart) :
    r.PlanHosted s (r.infer s []).view ↔
      r.PlanHosted s r.view ∨ ∃ token ∈ dependsOn body, s.serverFarmProperty <:+: token := by
  have hnames : ∀ name ∈ [nameProperty, serviceProperty],
      ¬s.serverFarmProperty <:+: Json.escape name := fun name hname hin =>
    hfarm.not_infix_name (List.mem_append_right _ hname) (hfarm.infix_escape_iff.1 hin)
  rw [PlanHosted, infix_view_infer_nil_iff hconnections hproperties hbody hfarm.isInner hnames,
    ← or_assoc]
  simp only [hfarm.infix_escape_iff]
  rfl

/-- **What inference adds to the links of a resource** of which only the type and the body was
known: what a listed dependency says, and what an escape completes in one. -/
theorem links_infer_iff_links (hkeys : ∀ k ∈ keys, Text.IsWord k) (hfarm : s.FarmApart)
    (htarget : Text.IsWord target) :
    (r.infer s keys).Links s target ↔ r.Links s target ∨
      ∃ token ∈ dependsOn body, Says s token target ∨ CompletedByEscape token target := by
  have hlisted : target ∈ (r.infer s []).connections ↔ target ∈ dependsOn body := by
    rw [infer_of_body hbody, hconnections, List.nil_append, mem_inferredConnections]
    simp
  rw [links_infer_iff hkeys hfarm.1 htarget, Links, Links, hlisted, hconnections, planHosted_infer,
    mentions_view_infer_nil_iff hconnections hproperties hbody htarget,
    planHosted_view_infer_nil_iff hconnections hproperties hbody hfarm]
  simp only [Says, Body.mentions_escape_iff htarget, Text.occursIn_iff]
  constructor
  · rintro (htoken | (hmention | ⟨token, htoken, hmention | hcompleted⟩) |
      ⟨hplan, hhosted | ⟨token, htoken, hin⟩⟩)
    · exact .inr ⟨target, htoken, .inl (.inl rfl)⟩
    · exact .inl (.inr (.inl hmention))
    · exact .inr ⟨token, htoken, .inl (.inr (.inl hmention))⟩
    · exact .inr ⟨token, htoken, .inr hcompleted⟩
    · exact .inl (.inr (.inr ⟨hplan, hhosted⟩))
    · exact .inr ⟨token, htoken, .inl (.inr (.inr ⟨hplan, hin⟩))⟩
  · rintro ((hnone | hmention | hhosted) |
      ⟨token, htoken, (rfl | hmention | ⟨hplan, hin⟩) | hcompleted⟩)
    · exact absurd hnone List.not_mem_nil
    · exact .inr (.inl (.inl hmention))
    · exact .inr (.inr ⟨hhosted.1, .inl hhosted.2⟩)
    · exact .inl htoken
    · exact .inr (.inl (.inr ⟨token, htoken, .inl hmention⟩))
    · exact .inr (.inr ⟨hplan, .inr ⟨token, htoken, hin⟩⟩)
    · exact .inr (.inl (.inr ⟨token, htoken, .inr hcompleted⟩))

end Extracted

/-- Without a body nothing is added. -/
theorem links_infer_iff_exists (hconnections : r.connections = []) (hproperties : r.properties = ∅)
    (hkeys : ∀ k ∈ keys, Text.IsWord k) (hfarm : s.FarmApart) (htarget : Text.IsWord target) :
    (r.infer s keys).Links s target ↔ r.Links s target ∨
      ∃ body ∈ r.body, ∃ token ∈ dependsOn body,
        Says s token target ∨ CompletedByEscape token target := by
  cases hbody : r.body with
  | none => simp [infer, hbody]
  | some body =>
    rw [links_infer_iff_links hconnections hproperties hbody hkeys hfarm htarget]
    simp

end Resource

/-! ## Sources -/

namespace Flowchart

open Body (Says CompletedByEscape dependsOn)
open ResourceSet (extract linkedPairs mem_linkedPairs)

variable {t a b : Text}

/-- An edge drawn from the resources of a source joins two different ones of which the first is
linked to the second. -/
theorem mem_readEdges_extract_iff :
    (a, b) ∈ readEdges (draw {} (extract t)) ↔
      ∃ r, (extract t).get? a = some r ∧ b ∈ (extract t).keys ∧ a ≠ b ∧ r.Links {} b := by
  rw [readEdges_draw (ResourceSet.wordKeyed_extract t), mem_linkedPairs]
  constructor
  · rintro ⟨-, hb, hne, r, hr, hlinks⟩
    exact ⟨r, hr, hb, hne, hlinks⟩
  · rintro ⟨r, hr, hb, hne, hlinks⟩
    exact ⟨OrderedMap.mem_keys_iff.2 ⟨r, hr⟩, hb, hne, r, hr, hlinks⟩

/-- The same after inference. -/
theorem mem_readEdges_infer_iff :
    (a, b) ∈ readEdges (draw {} ((extract t).infer {})) ↔
      ∃ r, (extract t).get? a = some r ∧ b ∈ (extract t).keys ∧ a ≠ b ∧
        (r.infer {} (extract t).keys).Links {} b := by
  rw [readEdges_draw (ResourceSet.wordKeyed_extract t).infer, mem_linkedPairs,
    ResourceSet.keys_infer]
  constructor
  · rintro ⟨-, hb, hne, r', hr', hlinks⟩
    rw [ResourceSet.get?_infer, Option.mem_def, Option.map_eq_some_iff] at hr'
    obtain ⟨r, hr, rfl⟩ := hr'
    exact ⟨r, hr, hb, hne, hlinks⟩
  · rintro ⟨r, hr, hb, hne, hlinks⟩
    refine ⟨OrderedMap.mem_keys_iff.2 ⟨r, hr⟩, hb, hne, r.infer {} (extract t).keys, ?_, hlinks⟩
    rw [ResourceSet.get?_infer, hr]
    rfl

/-- **What inference adds to the drawing of a source.** After inference every edge is drawn that was
drawn before, and one more from `a` to another resource `b` exactly when a dependency that the body
of `a` lists says `b`, or an escape in such a dependency completes a field of `b`. What inference
appends to the connections behind the listed dependencies adds no edge: it was drawn before. -/
theorem draw_infer_adds_listed (t : Text) :
    (∀ a b, (a, b) ∈ readEdges (draw {} ((extract t).infer {})) ↔
      (a, b) ∈ readEdges (draw {} (extract t)) ∨
        ∃ r ∈ (extract t).get? a, ∃ body ∈ r.body, b ∈ (extract t).keys ∧ a ≠ b ∧
          ∃ token ∈ dependsOn body, Says {} token b ∨ CompletedByEscape token b) ∧
      ∀ a, ∀ r ∈ ((extract t).infer {}).get? a, ∀ body ∈ r.body,
        ∀ b ∈ r.connections.drop (dependsOn body).length,
          (a, b) ∈ readEdges (draw {} (extract t)) := by
  have hkeys : ∀ k ∈ (extract t).keys, Text.IsWord k := fun k hk =>
    (ResourceSet.isIdentifier_of_mem_keys hk).2
  constructor
  · intro a b
    have hlinks : ∀ r, (extract t).get? a = some r → b ∈ (extract t).keys →
        ((r.infer {} (extract t).keys).Links {} b ↔ r.Links {} b ∨ ∃ body ∈ r.body,
          ∃ token ∈ dependsOn body, Says {} token b ∨ CompletedByEscape token b) := by
      intro r hr hb
      obtain ⟨-, -, hproperties, hconnections⟩ :=
        ResourceSet.of_mem_extract (OrderedMap.mem_entries_iff.2 hr)
      exact Resource.links_infer_iff_exists hconnections hproperties hkeys
        Settings.farmApart_default (hkeys b hb)
    rw [mem_readEdges_extract_iff, mem_readEdges_infer_iff]
    constructor
    · rintro ⟨r, hr, hb, hne, hafter⟩
      rcases (hlinks r hr hb).1 hafter with hbefore | ⟨body, hbody, hlisted⟩
      · exact .inl ⟨r, hr, hb, hne, hbefore⟩
      · exact .inr ⟨r, hr, body, hbody, hb, hne, hlisted⟩
    · rintro (⟨r, hr, hb, hne, hbefore⟩ | ⟨r, hr, body, hbody, hb, hne, hlisted⟩)
      · exact ⟨r, hr, hb, hne, (hlinks r hr hb).2 (.inl hbefore)⟩
      · exact ⟨r, hr, hb, hne, (hlinks r hr hb).2 (.inr ⟨body, hbody, hlisted⟩)⟩
  · intro a r' hr' body hbody b hb
    rw [ResourceSet.get?_infer, Option.mem_def, Option.map_eq_some_iff] at hr'
    obtain ⟨r, hr, rfl⟩ := hr'
    obtain ⟨hid, rfl, -, hconnections⟩ :=
      ResourceSet.of_mem_extract (OrderedMap.mem_entries_iff.2 hr)
    rw [Resource.infer_body] at hbody
    rw [Resource.infer_of_body hbody, hconnections, List.nil_append] at hb
    have hfound := Resource.foundIn_of_mem_drop hbody hb
    exact mem_readEdges_extract_iff.2 ⟨r, hr, hfound.mem_keys, hfound.ne_id.symm,
      hfound.links Settings.farmApart_default.1 hkeys⟩

/-- A resource that lists one resource and refers to another. -/
def listedSource : Text :=
  "resource a 'Web' = \x7b\n  dependsOn: [b]\n  x: c.id\n\x7d\n" ++
    "resource b 'Store' = \x7b\n\x7d\nresource c 'Store' = \x7b\n\x7d\n"

theorem draw_infer_adds_listed_source :
    ∃ r body, ((extract listedSource).infer {}).get? "a" = some r ∧ r.body = some body ∧
      r.connections = [("b" : Text), ("c" : Text)] ∧ dependsOn body = [("b" : Text)] ∧
      (("a" : Text), ("c" : Text)) ∈ readEdges (draw {} (extract listedSource)) ∧
      (("a" : Text), ("b" : Text)) ∉ readEdges (draw {} (extract listedSource)) ∧
      (("a" : Text), ("b" : Text)) ∈ readEdges (draw {} ((extract listedSource).infer {})) := by
  obtain ⟨hadds, happended⟩ := draw_infer_adds_listed listedSource
  have hconnected : ∃ r ∈ ((extract listedSource).infer {}).get? "a", ∃ body ∈ r.body,
      r.connections = [("b" : Text), ("c" : Text)] ∧ dependsOn body = [("b" : Text)] := by
    decide +kernel
  have hextracted : ∃ r ∈ (extract listedSource).get? "a", ∃ body ∈ r.body,
      ("b" : Text) ∈ (extract listedSource).keys ∧ ("a" : Text) ≠ ("b" : Text) ∧
        ∃ token ∈ dependsOn body, Says {} token "b" := by
    decide +kernel
  obtain ⟨r, hr, body, hbody, hconnections, hlisted⟩ := hconnected
  obtain ⟨r', hr', body', hbody', hkey, hne, token, htoken, hsays⟩ := hextracted
  have hlast : ("c" : Text) ∈ r.connections.drop (dependsOn body).length := by
    rw [hconnections, hlisted]
    exact List.mem_singleton.2 rfl
  exact ⟨r, body, hr, hbody, hconnections, hlisted, happended "a" r hr body hbody "c" hlast,
    by decide +kernel,
    (hadds "a" "b").2 (.inr ⟨r', hr', body', hbody', hkey, hne, token, htoken, .inl hsays⟩)⟩

/-- A listed dependency in which a comment parts a tab from a field. -/
def tabSource : Text :=
  "resource a 'Web' = \x7b\n  dependsOn: [x\t/**/b.id]\n\x7d\nresource tb 'Store' = \x7b\n\x7d\n"

/-- In the view of the dependency, the letter of the tab's escape goes with the field: an edge is
added to a resource that no dependency says. -/
theorem drawn_without_being_said :
    (("a" : Text), ("tb" : Text)) ∈ readEdges (draw {} ((extract tabSource).infer {})) ∧
      (("a" : Text), ("tb" : Text)) ∉ readEdges (draw {} (extract tabSource)) ∧
      ∀ r ∈ (extract tabSource).get? "a", ∀ body ∈ r.body, ∀ token ∈ dependsOn body,
        ¬Says {} token "tb" := by
  decide +kernel

end Flowchart

end Groundplan

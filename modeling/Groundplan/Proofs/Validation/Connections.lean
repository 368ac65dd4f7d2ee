import Groundplan.Proofs.Flowchart.Drawing
import Groundplan.Proofs.Validation

/-!
# What becomes of a connection

The drawing and the validation never ask each other, yet each connection of a resource is in the
hands of exactly one of them.

**Issues.** The issues about unknown connections are, in order, the connections that lead out of the
set, each once for its resource (`filter_unknownConnection_findings`). Such an issue tells which
resource and which connection it is about, whatever they are called
(`Issue.unknownConnection_inj`), so no two of them are equal (`nodup_connectionIssues`).

**Fates.** A connection to another resource is drawn, one that leads out of the set is reported, and
one to the resource itself is dropped (`Fate`).

Main result: `exists_unique_fate`.
-/

namespace Groundplan

/-- An issue about an unknown connection shows the resource and the connection. -/
theorem Issue.unknownConnection_inj {key key' target target' : Text} :
    unknownConnection key target = unknownConnection key' target' ↔
      key = key' ∧ target = target' := by
  constructor
  · exact fun h => shown_inj (congrArg Issue.path h) (congrArg Issue.message h)
  · rintro ⟨rfl, rfl⟩
    rfl

namespace ResourceSet

variable {rs : ResourceSet} {services : List Text} {checkTags : Bool} {r : Resource}
variable {key target : Text} {issue : Issue}

/-! ## Connections that lead out of the set -/

/-- Each connection that leads out of the set is found once. -/
theorem nodup_unknownTargets (rs : ResourceSet) (r : Resource) : (rs.unknownTargets r).Nodup := by
  suffices haux : ∀ l found : List Text, found.Nodup → (l.foldl (fun found target =>
      if rs.contains target || found.contains target then found else found ++ [target])
      found).Nodup from haux r.connections [] List.nodup_nil
  intro l
  induction l with
  | nil => exact fun found hfound => hfound
  | cons a l ih =>
    intro found hfound
    refine ih _ ?_
    dsimp only
    split
    · exact hfound
    · next hnew =>
      rw [Bool.or_eq_true, not_or, List.contains_iff_mem] at hnew
      exact List.nodup_append.2 ⟨hfound, List.nodup_singleton a, fun b hb c hc hbc =>
        hnew.2 (List.mem_singleton.1 hc ▸ hbc ▸ hb)⟩

/-- Connections that a resource has already change nothing when they are listed again. -/
theorem unknownTargets_append (rs : ResourceSet) (r : Resource) {again : List Text}
    (h : ∀ target ∈ again, target ∈ r.connections) :
    rs.unknownTargets { r with connections := r.connections ++ again } = rs.unknownTargets r := by
  have hknown : ∀ target ∈ again,
      (rs.contains target || (rs.unknownTargets r).contains target) = true := by
    intro target htarget
    rw [Bool.or_eq_true, OrderedMap.contains_iff_mem, List.contains_iff_mem, mem_unknownTargets]
    exact or_iff_not_imp_left.2 fun hout => ⟨h target htarget, hout⟩
  unfold unknownTargets at hknown ⊢
  rw [List.foldl_append]
  generalize List.foldl _ _ r.connections = found at hknown ⊢
  induction again with
  | nil => rfl
  | cons a again ih =>
    rw [List.foldl_cons, if_pos (hknown a List.mem_cons_self)]
    exact ih (fun target ht => h target (List.mem_cons_of_mem a ht))
      fun target ht => hknown target (List.mem_cons_of_mem a ht)

/-! ## Issues about connections -/

/-- The issues about connections that lead out of the set. -/
def connectionIssues (rs : ResourceSet) : List Issue :=
  rs.entries.flatMap fun (key, r) => (rs.unknownTargets r).map (Issue.unknownConnection key)

theorem mem_connectionIssues : issue ∈ rs.connectionIssues ↔
    ∃ p ∈ rs.entries, ∃ target ∈ p.2.connections,
      target ∉ rs.keys ∧ issue = Issue.unknownConnection p.1 target := by
  simp only [connectionIssues, List.mem_flatMap, List.mem_map, mem_unknownTargets, and_assoc,
    eq_comm]

theorem nodup_connectionIssues (rs : ResourceSet) : rs.connectionIssues.Nodup := by
  rw [connectionIssues, List.nodup_flatMap]
  constructor
  · intro p _
    exact (rs.nodup_unknownTargets p.2).map fun a b h => (Issue.unknownConnection_inj.1 h).2
  · have hkeys : rs.entries.Pairwise fun p q => p.1 ≠ q.1 := List.pairwise_map.1 rs.distinct
    refine hkeys.imp fun {p q} hne issue hp hq => ?_
    obtain ⟨a, -, rfl⟩ := List.mem_map.1 hp
    obtain ⟨b, -, hb⟩ := List.mem_map.1 hq
    exact hne (Issue.unknownConnection_inj.1 hb).1.symm

/-- The issue is about an unknown connection. -/
def isAboutConnection (issue : Issue) : Bool := issue.code = .unknownConnection

theorem filter_resourceFindings (key : Text) (r : Resource) :
    (rs.resourceFindings key r).filter isAboutConnection =
      (rs.unknownTargets r).map (Issue.unknownConnection key) := by
  have hid : (if Flowchart.isId key then [] else [Issue.unsafeId key]).filter isAboutConnection =
      [] := by
    split
    · rfl
    · rfl
  have hbody : (if r.body.isNone then [Issue.noBody key] else []).filter isAboutConnection =
      [] := by
    split
    · rfl
    · rfl
  have htargets : ((rs.unknownTargets r).map (Issue.unknownConnection key)).filter
      isAboutConnection = (rs.unknownTargets r).map (Issue.unknownConnection key) := by
    rw [List.filter_eq_self]
    intro issue hissue
    obtain ⟨target, -, rfl⟩ := List.mem_map.1 hissue
    rfl
  rw [resourceFindings, List.filter_append, List.filter_append, hid, hbody, htargets]
  rfl

theorem filter_serviceFindings : (rs.serviceFindings services).filter isAboutConnection = [] := by
  rw [List.filter_eq_nil_iff]
  intro issue hissue
  rcases cases_of_mem_serviceFindings hissue with ⟨service, rfl⟩ | ⟨key, tag, rfl⟩
  · exact Bool.false_ne_true
  · exact Bool.false_ne_true

/-- The findings about unknown connections are the connections that lead out of the set. -/
theorem filter_unknownConnection_findings :
    (rs.findings services checkTags).filter isAboutConnection = rs.connectionIssues := by
  rw [findings]
  split
  · next hempty =>
    rw [connectionIssues, List.isEmpty_iff.1 hempty]
    rfl
  · have hservices : (if checkTags && !services.isEmpty then rs.serviceFindings services
        else []).filter isAboutConnection = [] := by
      split
      · exact filter_serviceFindings
      · rfl
    rw [List.filter_append, hservices, List.append_nil, List.filter_flatMap, connectionIssues]
    exact List.flatMap_congr fun p _ => filter_resourceFindings p.1 p.2

/-- An issue about a connection is found once or not at all. -/
theorem count_unknownConnection_findings :
    (rs.findings services checkTags).count (Issue.unknownConnection key target) =
      if Issue.unknownConnection key target ∈ rs.connectionIssues then 1 else 0 := by
  have habout : isAboutConnection (Issue.unknownConnection key target) = true := rfl
  rw [← List.count_filter habout, filter_unknownConnection_findings,
    rs.nodup_connectionIssues.count]

theorem unknownConnection_mem_connectionIssues (h : (key, r) ∈ rs.entries)
    (htarget : target ∈ r.connections) :
    Issue.unknownConnection key target ∈ rs.connectionIssues ↔ target ∉ rs.keys := by
  rw [mem_connectionIssues]
  constructor
  · rintro ⟨p, -, a, -, hout, heq⟩
    rw [(Issue.unknownConnection_inj.1 heq).2]
    exact hout
  · exact fun hout => ⟨(key, r), h, target, htarget, hout, rfl⟩

end ResourceSet

/-! ## Edges -/

/-- The line of an edge stands in a drawing once or not at all. -/
theorem Flowchart.count_edgeLine_draw {s : Settings} {rs : ResourceSet} {source target : Text}
    (h : rs.WordKeyed) (hsource : Text.IsWord source) :
    (Text.lines (draw s rs)).count (edgeLine source target) =
      if (source, target) ∈ rs.linkedPairs s then 1 else 0 := by
  have harrow : Text.occursIn arrow (edgeLine source target) = true :=
    Text.occursIn_iff.2 (arrow_infix_edgeLine source target)
  have hmem : edgeLine source target ∈ edgeLines s rs ↔ (source, target) ∈ rs.linkedPairs s := by
    rw [← edgeLine_mem_lines_draw h hsource, ← filter_arrow_lines_draw h, List.mem_filter,
      and_iff_left harrow]
  rw [← List.count_filter harrow, filter_arrow_lines_draw h, (nodup_edgeLines h).count]
  simp only [hmem]

/-! ## Fates -/

/-- What becomes of a connection: it is drawn, it is reported, or nothing is said about it. -/
inductive Fate where
  | drawn
  | reported
  | dropped
deriving DecidableEq, Repr

namespace Fate

open Flowchart (draw edgeLine)

/-- When a connection from the resource under `key` to `target` meets a fate, by the lines of the
drawing and the issues of the validation. -/
def Befalls (s : Settings) (rs : ResourceSet) (services : List Text) (key target : Text) :
    Fate → Prop
  | drawn => target ∈ rs.keys ∧ target ≠ key ∧
      (Text.lines (draw s rs)).count (edgeLine key target) = 1 ∧
      (({} : Policy).issues rs services).count (Issue.unknownConnection key target) = 0
  | reported => target ∉ rs.keys ∧ edgeLine key target ∉ Text.lines (draw s rs) ∧
      (({} : Policy).issues rs services).count (Issue.unknownConnection key target) = 1
  | dropped => target = key ∧ edgeLine key target ∉ Text.lines (draw s rs) ∧
      Issue.unknownConnection key target ∉ ({} : Policy).issues rs services

variable {s : Settings} {rs : ResourceSet} {services : List Text} {key target : Text} {r : Resource}

/-- A connection to another resource is drawn. -/
theorem befalls_drawn (h : rs.WordKeyed) (hr : (key, r) ∈ rs.entries)
    (htarget : target ∈ r.connections) (hin : target ∈ rs.keys) (hne : target ≠ key) :
    drawn.Befalls s rs services key target := by
  have hlinked : (key, target) ∈ rs.linkedPairs s :=
    ResourceSet.mem_linkedPairs.2 ⟨List.mem_map_of_mem hr, hin,
      (ResourceSet.linked_of_mem hr).2 ⟨hne.symm, .inl htarget⟩⟩
  refine ⟨hin, hne, ?_, ?_⟩
  · rw [Flowchart.count_edgeLine_draw h (h _ hr).2, if_pos hlinked]
  · rw [ResourceSet.issues_default, ResourceSet.count_unknownConnection_findings, if_neg]
    rw [ResourceSet.unknownConnection_mem_connectionIssues hr htarget]
    exact not_not_intro hin

/-- A connection that leads out of the set is reported. -/
theorem befalls_reported (h : rs.WordKeyed) (hr : (key, r) ∈ rs.entries)
    (htarget : target ∈ r.connections) (hout : target ∉ rs.keys) :
    reported.Befalls s rs services key target := by
  refine ⟨hout, ?_, ?_⟩
  · rw [Flowchart.edgeLine_mem_lines_draw h (h _ hr).2, ResourceSet.mem_linkedPairs]
    exact fun hlinked => hout hlinked.2.1
  · rw [ResourceSet.issues_default, ResourceSet.count_unknownConnection_findings,
      if_pos ((ResourceSet.unknownConnection_mem_connectionIssues hr htarget).2 hout)]

/-- A connection of a resource to itself is dropped. -/
theorem befalls_dropped (h : rs.WordKeyed) (hr : (key, r) ∈ rs.entries)
    (htarget : key ∈ r.connections) : dropped.Befalls s rs services key key := by
  refine ⟨rfl, ?_, ?_⟩
  · rw [Flowchart.edgeLine_mem_lines_draw h (h _ hr).2, ResourceSet.mem_linkedPairs]
    exact fun hlinked => hlinked.2.2.1 rfl
  · rw [ResourceSet.issues_default, ← List.count_eq_zero,
      ResourceSet.count_unknownConnection_findings, if_neg]
    rw [ResourceSet.unknownConnection_mem_connectionIssues hr htarget]
    exact not_not_intro (List.mem_map_of_mem hr)

/-- No connection meets two fates. -/
theorem eq_of_befalls (hkey : key ∈ rs.keys) {fate fate' : Fate}
    (h : fate.Befalls s rs services key target) (h' : fate'.Befalls s rs services key target) :
    fate = fate' := by
  cases fate with
  | drawn =>
    cases fate' with
    | drawn => rfl
    | reported => exact absurd h.1 h'.1
    | dropped => exact absurd h'.1 h.2.1
  | reported =>
    cases fate' with
    | drawn => exact absurd h'.1 h.1
    | reported => rfl
    | dropped => exact absurd (h'.1 ▸ hkey) h.1
  | dropped =>
    cases fate' with
    | drawn => exact absurd h.1 h'.2.1
    | reported => exact absurd (h.1 ▸ hkey) h'.1
    | dropped => rfl

/-- **No connection is lost silently.** Each connection of a resource meets exactly one fate: to
another resource of the set it is drawn as one line; out of the set it has no line and is reported
in one issue; to the resource itself it has neither. Every issue about an unknown connection comes
from such a connection, and tells which one. -/
theorem exists_unique_fate (s : Settings) (rs : ResourceSet) (services : List Text)
    (h : rs.WordKeyed) :
    (∀ p ∈ rs.entries, ∀ target ∈ p.2.connections,
      ∃! fate : Fate, fate.Befalls s rs services p.1 target) ∧
    (∀ issue ∈ ({} : Policy).issues rs services, issue.code = .unknownConnection →
      ∃ p ∈ rs.entries, ∃ target ∈ p.2.connections, target ∉ rs.keys ∧
        issue = Issue.unknownConnection p.1 target) ∧
    ∀ key key' target target' : Text,
      Issue.unknownConnection key target = Issue.unknownConnection key' target' →
        key = key' ∧ target = target' := by
  refine ⟨?_, ?_, fun _ _ _ _ => Issue.unknownConnection_inj.1⟩
  · intro p hp target htarget
    obtain ⟨key, r⟩ := p
    have hkey : key ∈ rs.keys := List.mem_map_of_mem hp
    have hunique : ∀ fate : Fate, fate.Befalls s rs services key target →
        ∃! fate : Fate, fate.Befalls s rs services key target :=
      fun fate hfate => ⟨fate, hfate, fun _ hother => eq_of_befalls hkey hother hfate⟩
    by_cases hin : target ∈ rs.keys
    · by_cases hself : target = key
      · subst hself
        exact hunique dropped (befalls_dropped h hp htarget)
      · exact hunique drawn (befalls_drawn h hp htarget hin hself)
    · exact hunique reported (befalls_reported h hp htarget hin)
  · intro issue hissue hcode
    rw [ResourceSet.issues_default] at hissue
    refine ResourceSet.mem_connectionIssues.1 ?_
    have hfiltered : issue ∈ (rs.findings services true).filter ResourceSet.isAboutConnection :=
      List.mem_filter.2 ⟨hissue, decide_eq_true hcode⟩
    rwa [ResourceSet.filter_unknownConnection_findings] at hfiltered

/-- A connection that is called like a line of a drawing. -/
def stray : Text := "it's\n    site --> store"

/-- A site that lists the store twice, itself, and the stray connection twice. -/
def site : Resource where
  id := "site"
  type := "Web/sites"
  connections := ["store", stray, "site", "store", stray]

/-- The site and the store. -/
def tangled : ResourceSet where
  entries := [("site", site), ("store", { id := "store", type := "Store" })]
  distinct := by decide

theorem exists_unique_fate_tangled :
    tangled.WordKeyed ∧
      (∃! fate : Fate, fate.Befalls {} tangled ["shop"] "site" "store") ∧
      (∃! fate : Fate, fate.Befalls {} tangled ["shop"] "site" stray) ∧
      (∃! fate : Fate, fate.Befalls {} tangled ["shop"] "site" "site") ∧
      (({} : Policy).issues tangled ["shop"]).length = 4 := by
  have hkeys : tangled.WordKeyed := by decide
  have hsite : (("site", site) : Text × Resource) ∈ tangled.entries := by simp [tangled]
  obtain ⟨hfate, -, -⟩ := exists_unique_fate {} tangled ["shop"] hkeys
  have hstore := hfate _ hsite "store" (by decide)
  have hstray := hfate _ hsite stray (by decide)
  have hself := hfate _ hsite "site" (by decide)
  exact ⟨hkeys, hstore, hstray, hself, by decide +kernel⟩

end Fate

end Groundplan

import Groundplan.Proofs.Flowchart.Label
import Groundplan.Proofs.Flowchart.Links

/-!
# The drawing determines the graph

**Lines.** No line of a flowchart holds a newline, whatever its resources are called, so the lines
of a drawing are the lines it was made from (`lines_draw`).

**Arrows.** An arrow stands in every line of an edge and in no other line, also not in a label
(`arrow_infix_edgeLine`, `not_arrow_infix_nodeLine`).

**Reading.** `readKeys` and `readEdges` read a drawing without knowing what was drawn, and find the
keys and the linked pairs again (`readKeys_draw`, `readEdges_draw`).

Main result: `draw_determines`.
-/

namespace Groundplan.Flowchart

open Label (lineBreak IsPlain isMarkup)
open ResourceSet (WordKeyed linkedPairs)

/-- What every line of an edge holds. -/
def arrow : Text := "-->"

/-- The key in the line of a node. -/
def readKey (line : Text) : Text := (line.drop 4).takeWhile isWord

/-- The source and the target in the line of an edge. -/
def readEdge (line : Text) : Text × Text :=
  let rest := line.drop 4
  (rest.takeWhile isWord, (rest.dropWhile isWord).drop 5)

/-- The keys of the nodes of a drawing. -/
def readKeys (drawing : Text) : List Text :=
  (((Text.lines drawing).drop 1).filter fun line =>
    !line.isEmpty && !Text.occursIn arrow line).map readKey

/-- The edges of a drawing. -/
def readEdges (drawing : Text) : List (Text × Text) :=
  ((Text.lines drawing).filter (Text.occursIn arrow)).map readEdge

/-! ## One line -/

variable {key label source target : Text}

theorem nodeLine_eq (key label : Text) :
    nodeLine key label =
      ([' ', ' ', ' ', ' '] : Text) ++
        (key ++ ↑ '[' :: ↑ '"' :: (label ++ (['"', ']'] : Text))) := by
  show ([' ', ' ', ' ', ' '] : Text) ++ key ++ (['[', '"'] : Text) ++ label ++
    (['"', ']'] : Text) = _
  simp

theorem edgeLine_eq (source target : Text) :
    edgeLine source target =
      ([' ', ' ', ' ', ' '] : Text) ++
        (source ++ ↑ ' ' :: (↑ '-' :: ↑ '-' :: ↑ '>' :: ↑ ' ' :: target)) := by
  show ([' ', ' ', ' ', ' '] : Text) ++ source ++ ([' ', '-', '-', '>', ' '] : Text) ++ target = _
  simp

theorem readKey_nodeLine (h : Text.IsWord key) (label : Text) :
    readKey (nodeLine key label) = key := by
  rw [nodeLine_eq]
  exact Text.takeWhile_append_startsNo h (Text.startsNo_cons.2 (by decide))

theorem readEdge_edgeLine (h : Text.IsWord source) (target : Text) :
    readEdge (edgeLine source target) = (source, target) := by
  have hstop : Text.StartsNo isWord (↑ ' ' :: ↑ '-' :: ↑ '-' :: ↑ '>' :: ↑ ' ' :: target) :=
    Text.startsNo_cons.2 (by decide)
  have hdrop : (edgeLine source target).drop 4 =
      source ++ ↑ ' ' :: ↑ '-' :: ↑ '-' :: ↑ '>' :: ↑ ' ' :: target := by
    rw [edgeLine_eq]
    rfl
  rw [readEdge, hdrop, Text.takeWhile_append_startsNo h hstop,
    Text.dropWhile_append_startsNo h hstop]
  rfl

theorem newline_notMem_nodeLine (hkey : ↑ '\n' ∉ key) (hlabel : ↑ '\n' ∉ label) :
    ↑ '\n' ∉ nodeLine key label := by
  simp [nodeLine_eq, hkey, hlabel]

theorem newline_notMem_edgeLine (hsource : ↑ '\n' ∉ source) (htarget : ↑ '\n' ∉ target) :
    ↑ '\n' ∉ edgeLine source target := by
  simp [edgeLine_eq, hsource, htarget]

theorem arrow_infix_edgeLine (source target : Text) : arrow <:+: edgeLine source target := by
  refine ⟨([' ', ' ', ' ', ' '] : Text) ++ (source ++ ([' '] : Text)), ↑ ' ' :: target, ?_⟩
  rw [edgeLine_eq]
  simp [arrow, Text.ofString, Text.ofChars]

/-- What stands around the key and the label of a node is no part of an arrow. -/
theorem not_arrow_infix_nodeLine (hkey : ¬arrow <:+: key) (hlabel : ¬arrow <:+: label) :
    ¬arrow <:+: nodeLine key label := by
  have hne : arrow ≠ [] := by decide
  have hquote : ↑ '"' ∉ arrow := by decide
  rw [nodeLine_eq, ← List.nil_append (([' ', ' ', ' ', ' '] : Text) ++ _),
    Text.infix_append_append_iff hne (by simp) (Text.forall_mem_of_all (by decide)), List.infix_nil,
    Text.infix_append_cons_iff hne (by decide), Text.infix_cons_iff_of_notMem hne hquote,
    Text.infix_append_cons_iff hne hquote]
  intro h
  rcases h with h | h | h | h
  · exact hne h
  · exact hkey h
  · exact hlabel h
  · exact absurd (Text.occursIn_iff.2 h) (by decide)

theorem not_arrow_infix_of_isWord (h : Text.IsWord key) : ¬arrow <:+: key := by
  intro harrow
  exact h.notMem (by decide) (harrow.subset (List.mem_cons_self : ↑ '-' ∈ arrow))

theorem not_arrow_infix_label (r : Resource) : ¬arrow <:+: r.label :=
  Label.not_infix_ofLines (by decide) (by decide) (by decide) (by decide) _

/-! ## All lines -/

section Draw

variable {s : Settings} {rs : ResourceSet}

/-- The lines of the nodes, in the order of the set. -/
def nodeLines (rs : ResourceSet) : List Text := rs.entries.map fun (key, r) => nodeLine key r.label

/-- The lines of the edges, by source and then by target. -/
def edgeLines (s : Settings) (rs : ResourceSet) : List Text :=
  (linkedPairs s rs).map fun (source, target) => edgeLine source target

theorem newline_notMem_label (r : Resource) : ↑ '\n' ∉ r.label :=
  Label.notMem_ofLines _ (by decide) (by decide)

theorem newline_notMem_of_isWord (h : Text.IsWord key) : ↑ '\n' ∉ key := h.notMem (by decide)

theorem isWord_of_mem_linkedPairs (h : rs.WordKeyed) {p : Text × Text}
    (hp : p ∈ linkedPairs s rs) : Text.IsWord p.1 ∧ Text.IsWord p.2 := by
  obtain ⟨hsource, htarget, -⟩ := ResourceSet.mem_linkedPairs.1 hp
  exact ⟨h.isWord hsource, h.isWord htarget⟩

/-- Where no key holds a newline, the lines of a drawing are the lines it was made from. -/
theorem lines_draw_of_keyed (h : rs.Keyed) (hkeys : ∀ key ∈ rs.keys, ↑ '\n' ∉ key) :
    Text.lines (draw s rs) = header :: (nodeLines rs ++ edgeLines s rs) ++ [[]] := by
  have hlines : lines s rs = header :: (nodeLines rs ++ edgeLines s rs) := by
    rw [lines, edges_eq_linkedPairs h]
    rfl
  have hfree : ∀ line ∈ header :: (nodeLines rs ++ edgeLines s rs), ↑ '\n' ∉ line := by
    intro line hline
    rw [List.mem_cons, List.mem_append] at hline
    rcases hline with rfl | hnode | hedge
    · decide
    · obtain ⟨⟨key, r⟩, hp, rfl⟩ := List.mem_map.1 hnode
      exact newline_notMem_nodeLine (hkeys key (List.mem_map_of_mem hp)) (newline_notMem_label r)
    · obtain ⟨p, hp, rfl⟩ := List.mem_map.1 hedge
      obtain ⟨hsource, htarget, -⟩ := ResourceSet.mem_linkedPairs.1 hp
      exact newline_notMem_edgeLine (hkeys _ hsource) (hkeys _ htarget)
  rw [draw, hlines]
  exact Text.lines_join_append_newline (List.cons_ne_nil _ _) hfree

/-- **The lines of a drawing are the lines it was made from.** -/
theorem lines_draw (h : rs.WordKeyed) :
    Text.lines (draw s rs) = header :: (nodeLines rs ++ edgeLines s rs) ++ [[]] :=
  lines_draw_of_keyed h.keyed fun _ hkey => newline_notMem_of_isWord (h.isWord hkey)

theorem occursIn_arrow_nodeLines (h : rs.WordKeyed) :
    ∀ line ∈ nodeLines rs, Text.occursIn arrow line = false := by
  intro line hline
  obtain ⟨⟨key, r⟩, hp, rfl⟩ := List.mem_map.1 hline
  exact Text.occursIn_eq_false_iff.2
    (not_arrow_infix_nodeLine (not_arrow_infix_of_isWord (h _ hp).2) (not_arrow_infix_label r))

theorem occursIn_arrow_edgeLines :
    ∀ line ∈ edgeLines s rs, Text.occursIn arrow line = true := by
  intro line hline
  obtain ⟨p, -, rfl⟩ := List.mem_map.1 hline
  exact Text.occursIn_iff.2 (arrow_infix_edgeLine p.1 p.2)

/-- **Arrows stand in the lines of edges only.** -/
theorem filter_arrow_lines_draw (h : rs.WordKeyed) :
    (Text.lines (draw s rs)).filter (Text.occursIn arrow) = edgeLines s rs := by
  have hheader : Text.occursIn arrow header = false := by decide
  have hend : Text.occursIn arrow [] = false := by decide
  have hnodes : (nodeLines rs).filter (Text.occursIn arrow) = [] := by
    rw [List.filter_eq_nil_iff]
    intro line hline
    rw [occursIn_arrow_nodeLines h line hline]
    exact Bool.false_ne_true
  rw [lines_draw h, List.cons_append, List.filter_cons, hheader, if_neg Bool.false_ne_true,
    List.filter_append, List.filter_append, hnodes, List.nil_append,
    List.filter_eq_self.2 occursIn_arrow_edgeLines, List.filter_cons, hend,
    if_neg Bool.false_ne_true, List.filter_nil, List.append_nil]

/-- An edge is drawn exactly when its sides are linked. -/
theorem edgeLine_mem_lines_draw (h : rs.WordKeyed) (hsource : Text.IsWord source) :
    edgeLine source target ∈ Text.lines (draw s rs) ↔ (source, target) ∈ linkedPairs s rs := by
  have harrow := Text.occursIn_iff.2 (arrow_infix_edgeLine source target)
  have hfilter : edgeLine source target ∈ Text.lines (draw s rs) ↔
      edgeLine source target ∈ edgeLines s rs := by
    rw [← filter_arrow_lines_draw h, List.mem_filter, and_iff_left harrow]
  rw [hfilter]
  constructor
  · intro hline
    obtain ⟨p, hp, heq⟩ := List.mem_map.1 hline
    have hread := congrArg readEdge heq
    rw [readEdge_edgeLine hsource, readEdge_edgeLine (isWord_of_mem_linkedPairs h hp).1] at hread
    exact hread ▸ hp
  · intro hp
    exact List.mem_map.2 ⟨_, hp, rfl⟩

theorem map_readEdge_edgeLines (h : rs.WordKeyed) :
    (edgeLines s rs).map readEdge = linkedPairs s rs := by
  rw [edgeLines, List.map_map]
  refine List.map_congr_left (g := id) ?_ |>.trans (List.map_id _)
  intro p hp
  exact readEdge_edgeLine (isWord_of_mem_linkedPairs h hp).1 p.2

/-- The edges of the graph are read back from its drawing. -/
theorem readEdges_draw (h : rs.WordKeyed) : readEdges (draw s rs) = linkedPairs s rs := by
  rw [readEdges, filter_arrow_lines_draw h, map_readEdge_edgeLines h]

theorem map_readKey_nodeLines (h : rs.WordKeyed) : (nodeLines rs).map readKey = rs.keys := by
  rw [nodeLines, List.map_map, OrderedMap.keys]
  refine List.map_congr_left ?_
  intro p hp
  exact readKey_nodeLine (h p hp).2 p.2.label

/-- The nodes of the graph are read back from its drawing. -/
theorem readKeys_draw (h : rs.WordKeyed) : readKeys (draw s rs) = rs.keys := by
  have hnodes : (nodeLines rs).filter (fun line => !line.isEmpty && !Text.occursIn arrow line) =
      nodeLines rs := by
    rw [List.filter_eq_self]
    intro line hline
    have hne : line.isEmpty = false := by
      obtain ⟨⟨key, r⟩, -, rfl⟩ := List.mem_map.1 hline
      show (nodeLine key r.label).isEmpty = false
      rw [nodeLine_eq]
      rfl
    rw [hne, occursIn_arrow_nodeLines h line hline]
    rfl
  have hedges : (edgeLines s rs).filter
      (fun line => !line.isEmpty && !Text.occursIn arrow line) = [] := by
    rw [List.filter_eq_nil_iff]
    intro line hline
    simp [occursIn_arrow_edgeLines line hline]
  rw [readKeys, lines_draw h, List.cons_append, List.drop_succ_cons, List.drop_zero,
    List.filter_append, List.filter_append, hnodes, hedges, List.append_nil,
    ← map_readKey_nodeLines h]
  simp

theorem nodup_edgeLines (h : rs.WordKeyed) : (edgeLines s rs).Nodup := by
  refine List.Nodup.of_map readEdge ?_
  rw [map_readEdge_edgeLines h]
  exact ResourceSet.nodup_linkedPairs s rs

/-- **The drawing determines the graph, and nothing is smuggled in through labels.** A drawing is a
header, one line for each node in order, one line for each linked pair of different keys by source
and then by target, and an empty line. No label holds a quote or a newline, and the only markup in
it are the breaks between its lines. The lines with an arrow are the lines of the edges, and no two
of them are equal. So the nodes and the edges are read back from the drawing alone. -/
theorem draw_determines (s : Settings) (rs : ResourceSet) (h : rs.WordKeyed) :
    Text.lines (draw s rs) =
        [("graph TD" : Text)] ++
          rs.entries.map (fun (key, r) => "    " ++ key ++ "[\"" ++ r.label ++ "\"]") ++
          (linkedPairs s rs).map (fun (a, b) => "    " ++ a ++ " --> " ++ b) ++ [[]] ∧
      (∀ r ∈ rs.values, ↑ '"' ∉ r.label ∧ ↑ '\n' ∉ r.label ∧
        ∃ pieces, r.label = Text.join "<br/>" pieces ∧
          ∀ piece ∈ pieces, ↑ '<' ∉ piece ∧ ↑ '>' ∉ piece) ∧
      (Text.lines (draw s rs)).filter (Text.occursIn "-->") =
        (linkedPairs s rs).map (fun (a, b) => "    " ++ a ++ " --> " ++ b) ∧
      ((Text.lines (draw s rs)).filter (Text.occursIn "-->")).Nodup ∧
      readKeys (draw s rs) = rs.keys ∧ readEdges (draw s rs) = linkedPairs s rs := by
  refine ⟨lines_draw h, ?_, filter_arrow_lines_draw h, ?_, readKeys_draw h, readEdges_draw h⟩
  · intro r _
    obtain ⟨pieces, hpieces, hplain⟩ := Label.ofLines_eq_join _
    refine ⟨Label.notMem_ofLines _ (by decide) (by decide), newline_notMem_label r,
      pieces, hpieces, ?_⟩
    intro piece hpiece
    exact ⟨(hplain piece hpiece).notMem (by decide), (hplain piece hpiece).notMem (by decide)⟩
  · exact (filter_arrow_lines_draw h).symm ▸ nodup_edgeLines h

/-- A site whose name tries to end its label and to draw an edge, and what it runs on. -/
def shop : ResourceSet where
  entries := [
    ("site", {
      id := "site"
      type := "Microsoft.Web/sites"
      properties := OrderedMap.ofList [("name", "\"]\n    store --> site")]
      body := some "store.id" }),
    ("store", { id := "store", type := "<b>Store</b>" }),
    ("appServicePlan", { id := "appServicePlan", type := "Web/plans" })]
  distinct := by decide

theorem draw_determines_shop :
    shop.WordKeyed ∧
      readKeys (draw {} shop) = [("site" : Text), ("store" : Text), ("appServicePlan" : Text)] ∧
      readEdges (draw {} shop) =
        [(("site" : Text), ("store" : Text)), (("site" : Text), ("appServicePlan" : Text))] := by
  have hkeys : shop.WordKeyed := by decide
  have hpairs : linkedPairs {} shop =
      [(("site" : Text), ("store" : Text)), (("site" : Text), ("appServicePlan" : Text))] := by
    decide +kernel
  obtain ⟨-, -, -, -, hnodes, hedges⟩ := draw_determines {} shop hkeys
  exact ⟨hkeys, hnodes, hedges.trans hpairs⟩

end Draw

end Groundplan.Flowchart

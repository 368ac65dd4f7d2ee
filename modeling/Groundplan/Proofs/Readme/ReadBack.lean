import Groundplan.Proofs.Declaration.Extracted
import Groundplan.Proofs.Readme.Placement

/-!
# An inserted diagram is read back

**Reading.** `readFence?` reads a document line by line, without knowing how it was made: it looks
for the first line that opens a fence and takes the lines up to the next one that closes it.

**Documents.** An inserted section consists of whole lines (`aboveFence_eq`, `fenced_eq`), and no
line in front of its fence opens one. So what is read back is the diagram, as long as no line of the
diagram itself closes the fence (`readFence?_insert?_of_lines`).

**Drawings.** No line of a drawing does, whatever its resources are called
(`ne_fenceClose_of_mem_lines`), and of its end only the last newline is trimmed (`trimEnd_draw`).

Main result: `readFence?_insert?`.
-/

namespace Groundplan

namespace Text

/-- The text without the newline at its end, if there is one. -/
def chomp (t : Text) : Text := if t.getLast? = some ↑ '\n' then t.dropLast else t

theorem chomp_append_newline (t : Text) : chomp (t ++ (['\n'] : Text)) = t := by
  simp [chomp]

/-! ## Ends of texts -/

/-- The text ends with a character that is no blank. -/
def EndsSolid (t : Text) : Prop := ∃ a c, t = a ++ [c] ∧ isBlank c = false

theorem EndsSolid.append_left {t : Text} (h : EndsSolid t) (a : Text) : EndsSolid (a ++ t) := by
  obtain ⟨b, c, rfl, hc⟩ := h
  exact ⟨a ++ b, c, by rw [List.append_assoc], hc⟩

theorem endsSolid_join {sep : Text} {ts : List Text} (hne : ts ≠ []) (h : ∀ t ∈ ts, EndsSolid t) :
    EndsSolid (join sep ts) := by
  induction ts with
  | nil => exact absurd rfl hne
  | cons a ts ih =>
    cases ts with
    | nil =>
      rw [join_singleton]
      exact h a List.mem_cons_self
    | cons b ts =>
      rw [join_cons_cons]
      exact (ih (List.cons_ne_nil b ts) fun t ht => h t (List.mem_cons_of_mem a ht)).append_left _

/-- A newline behind a text that ends with no blank is all that trimming takes away. -/
theorem trimEnd_append_newline {t : Text} (h : EndsSolid t) :
    trimEnd (t ++ (['\n'] : Text)) = t := by
  obtain ⟨a, c, rfl, hc⟩ := h
  have hnewline : isBlank '\n' = true := by decide
  have hend : dropEnd isBlank ([c] ++ (['\n'] : Text)) = [c] := by simp [dropEnd, hc, hnewline]
  have hne : dropEnd isBlank ([c] ++ (['\n'] : Text)) ≠ [] := by
    rw [hend]
    exact List.cons_ne_nil c []
  rw [trimEnd, List.append_assoc, dropEnd_append hne, hend]

end Text

namespace Readme

open Text (lines)

/-! ## Reading -/

/-- What stands between the first line that opens a fence and the next line that closes it. -/
def readFence? (document : Text) : Option Text :=
  match (lines document).dropWhile (· != fenceOpen) with
  | [] => none
  | _ :: rest =>
    if fenceClose ∈ rest then some (Text.join ['\n'] (rest.takeWhile (· != fenceClose))) else none

/-- Lines in front of the fence are passed over, and those inside are taken. -/
theorem readFence?_of_lines {document : Text} {before inside after : List Text}
    (h : lines document = before ++ fenceOpen :: (inside ++ fenceClose :: after))
    (hbefore : ∀ l ∈ before, l ≠ fenceOpen) (hinside : ∀ l ∈ inside, l ≠ fenceClose) :
    readFence? document = some (Text.join ['\n'] inside) := by
  have hdrop : (lines document).dropWhile (· != fenceOpen) =
      fenceOpen :: (inside ++ fenceClose :: after) := by
    rw [h, List.dropWhile_append_of_pos fun l hl => bne_iff_ne.2 (hbefore l hl)]
    simp
  have htake : (inside ++ fenceClose :: after).takeWhile (· != fenceClose) = inside := by
    rw [List.takeWhile_append_of_pos fun l hl => bne_iff_ne.2 (hinside l hl)]
    simp
  rw [readFence?, hdrop]
  dsimp only
  rw [if_pos (List.mem_append_right inside List.mem_cons_self), htake]

/-! ## Lines of the document -/

variable {content diagram : Text} {image : Option Text} {imagesDir : Text}

/-- The line of an image. -/
def imageLine (imagesDir name : Text) : Text :=
  "![Architecture Diagram](" ++ (imagesDir ++ ("/" ++ (name ++ ")")))

/-- The lines in front of the fence. -/
def linesAbove (image : Option Text) (imagesDir : Text) : List Text :=
  [] :: match image.filter fun name => !name.isEmpty with
    | some name =>
      [imageLine imagesDir name, [], "<details>", "<summary>Mermaid source</summary>", []]
    | none => []

theorem aboveFence_eq (image : Option Text) (imagesDir : Text) :
    aboveFence image imagesDir = unlines (linesAbove image imagesDir) := by
  unfold aboveFence linesAbove
  cases image.filter fun name => !name.isEmpty with
  | none => rfl
  | some name =>
    have hstart : "![" ++ title ++ "](" = ("![Architecture Diagram](" : Text) := by decide
    have hend : (")\n\n" : Text) ++ "<details>\n<summary>Mermaid source</summary>\n\n" =
        ")" ++ (↑ '\n' :: unlines [[], "<details>", "<summary>Mermaid source</summary>", []]) := by
      decide
    have hnewline : ("\n" : Text) = (['\n'] : Text) := rfl
    unfold imageLine
    dsimp only
    simp only [hstart, List.append_assoc _ (")\n\n" : Text), hend, hnewline, unlines_cons]
    -- What is left is a matter of brackets, whatever the fixed texts say.
    generalize ("![Architecture Diagram](" : Text) = a, ("/" : Text) = b, (")" : Text) = c,
      unlines _ = r
    simp

/-- A fence is a line, the lines of its diagram, and another line. -/
theorem fenced_eq (diagram : Text) :
    fenced diagram = unlines (fenceOpen :: (lines (Text.trimEnd diagram) ++ [fenceClose])) := by
  rw [unlines_cons, unlines_append, unlines_lines, unlines_cons, unlines_nil, List.append_nil]
  show fenceOpen ++ (['\n'] : Text) ++ Text.trimEnd diagram ++ (['\n'] : Text) ++ fenceClose ++
    (['\n'] : Text) = _
  simp only [List.append_assoc]

theorem newline_notMem_imageLine {name : Text} (hdir : ↑ '\n' ∉ imagesDir) (hname : ↑ '\n' ∉ name) :
    ↑ '\n' ∉ imageLine imagesDir name := by
  unfold imageLine
  simp only [List.mem_append, not_or]
  exact ⟨by decide, hdir, by decide, hname, by decide⟩

theorem head?_imageLine (imagesDir name : Text) :
    (imageLine imagesDir name).head? = some ↑ '!' := by
  have hstart : ("![Architecture Diagram](" : Text).head? = some ↑ '!' := by decide
  unfold imageLine
  rw [List.head?_append, hstart]
  rfl

theorem imageLine_ne_fenceOpen (imagesDir name : Text) : imageLine imagesDir name ≠ fenceOpen := by
  have hfence : fenceOpen.head? ≠ some ↑ '!' := by decide
  intro heq
  rw [← heq, head?_imageLine] at hfence
  exact hfence rfl

/-- No line in front of the fence opens one. -/
theorem of_mem_linesAbove (himage : ∀ name ∈ image, ↑ '\n' ∉ name) (hdir : ↑ '\n' ∉ imagesDir) :
    ∀ l ∈ linesAbove image imagesDir, ↑ '\n' ∉ l ∧ l ≠ fenceOpen := by
  have hfixed : ∀ l ∈ ([[], "<details>", "<summary>Mermaid source</summary>"] : List Text),
      ↑ '\n' ∉ l ∧ l ≠ fenceOpen := by decide
  intro l hl
  unfold linesAbove at hl
  cases hname : image.filter fun name => !name.isEmpty with
  | none =>
    rw [hname, List.mem_singleton] at hl
    exact hfixed l (by simp [hl])
  | some name =>
    have hfree : ↑ '\n' ∉ name := himage name (Option.filter_eq_some_iff.1 hname).1
    simp only [hname, List.mem_cons, List.not_mem_nil, or_false] at hl
    rcases hl with rfl | rfl | rfl | rfl | rfl | rfl
    · exact hfixed _ (by simp)
    · exact ⟨newline_notMem_imageLine hdir hfree, imageLine_ne_fenceOpen imagesDir name⟩
    all_goals exact hfixed _ (by simp)

/-- **What was inserted is read back**, as long as no line of it closes the fence. -/
theorem readFence?_insert?_of_lines (h : hasDiagram content = false)
    (himage : ∀ name ∈ image, ↑ '\n' ∉ name) (hdir : ↑ '\n' ∉ imagesDir)
    (hdiagram : ∀ l ∈ lines (Text.trimEnd diagram), l ≠ fenceClose) :
    ∃ document, insert? content diagram image imagesDir = some document ∧
      readFence? document = some (Text.trimEnd diagram) := by
  obtain ⟨start, rest, hinsert, hstart⟩ := exists_insert?_eq h diagram image imagesDir
  have habove := of_mem_linesAbove himage hdir
  have hfence : ∀ l ∈ fenceOpen :: (lines (Text.trimEnd diagram) ++ [fenceClose]), ↑ '\n' ∉ l := by
    intro l hl
    rw [List.mem_cons, List.mem_append, List.mem_singleton] at hl
    rcases hl with rfl | hl | rfl
    · decide
    · exact Text.newline_notMem_of_mem_lines hl
    · decide
  have hbefore : ∀ l ∈ start ++ linesAbove image imagesDir, l ≠ fenceOpen := by
    intro l hl
    rcases List.mem_append.1 hl with hl | hl
    · rintro rfl
      exact (hstart fenceOpen hl).2 List.infix_rfl
    · exact (habove l hl).2
  have hlines : lines (unlines start ++ (aboveFence image imagesDir ++ (fenced diagram ++ rest))) =
      (start ++ linesAbove image imagesDir) ++
        fenceOpen :: (lines (Text.trimEnd diagram) ++ fenceClose :: lines rest) := by
    rw [lines_unlines_append fun l hl => (hstart l hl).1, aboveFence_eq,
      lines_unlines_append fun l hl => (habove l hl).1, fenced_eq, lines_unlines_append hfence]
    simp only [List.append_assoc, List.cons_append, List.nil_append]
  refine ⟨_, hinsert, ?_⟩
  rw [readFence?_of_lines hlines hbefore hdiagram, Text.join_lines]

/-! ## Drawings -/

section Drawings

open Flowchart (header nodeLine edgeLine nodeLines edgeLines draw placeholder)

variable {s : Settings} {rs : ResourceSet}

theorem lines_flowchart (h : rs.WordKeyed) :
    Flowchart.lines s rs = header :: (nodeLines rs ++ edgeLines s rs) := by
  rw [Flowchart.lines, Flowchart.edges_eq_linkedPairs h.keyed]
  rfl

/-- A line of a drawing, by what it is made of. -/
theorem mem_lines_flowchart (h : rs.WordKeyed) {l : Text} (hl : l ∈ Flowchart.lines s rs) :
    l = header ∨ (∃ key label, l = nodeLine key label) ∨
      ∃ source, ∃ target ∈ rs.keys, l = edgeLine source target := by
  rw [lines_flowchart h, List.mem_cons, List.mem_append] at hl
  rcases hl with rfl | hnode | hedge
  · exact .inl rfl
  · obtain ⟨⟨key, r⟩, -, rfl⟩ := List.mem_map.1 hnode
    exact .inr (.inl ⟨key, r.label, rfl⟩)
  · obtain ⟨⟨source, target⟩, hp, rfl⟩ := List.mem_map.1 hedge
    exact .inr (.inr ⟨source, target, (ResourceSet.mem_linkedPairs.1 hp).2.1, rfl⟩)

/-- Lines of nodes and edges start with blanks, so no line of a drawing closes a fence. -/
theorem ne_fenceClose_of_mem_lines (h : rs.WordKeyed) {l : Text} (hl : l ∈ Flowchart.lines s rs) :
    l ≠ fenceClose := by
  have hblank : fenceClose.head? ≠ some ↑ ' ' := by decide
  rintro rfl
  rcases mem_lines_flowchart h hl with hheader | ⟨key, label, hnode⟩ | ⟨source, target, -, hedge⟩
  · exact absurd hheader (by decide)
  · rw [hnode, Flowchart.nodeLine_eq] at hblank
    exact hblank rfl
  · rw [hedge, Flowchart.edgeLine_eq] at hblank
    exact hblank rfl

theorem endsSolid_of_isIdentifier {id : Text} (h : Declaration.IsIdentifier id) :
    Text.EndsSolid id := by
  refine ⟨id.dropLast, id.getLast h.1, (List.dropLast_append_getLast h.1).symm, ?_⟩
  exact isBlank_eq_false_of_isWord (h.2 _ (List.getLast_mem h.1))

/-- A line of a drawing ends with a letter, a bracket or an identifier. -/
theorem endsSolid_of_mem_lines (h : rs.WordKeyed)
    (hkeys : ∀ key ∈ rs.keys, Declaration.IsIdentifier key) {l : Text}
    (hl : l ∈ Flowchart.lines s rs) : Text.EndsSolid l := by
  rcases mem_lines_flowchart h hl with rfl | ⟨key, label, rfl⟩ | ⟨source, target, htarget, rfl⟩
  · exact ⟨"graph T", 'D', by decide, by decide⟩
  · exact (Text.EndsSolid.append_left ⟨"\"", ']', by decide, by decide⟩ _)
  · exact (endsSolid_of_isIdentifier (hkeys target htarget)).append_left _

/-- Of a drawing only the last newline is trimmed. -/
theorem trimEnd_draw (h : rs.WordKeyed)
    (hkeys : ∀ key ∈ rs.keys, Declaration.IsIdentifier key) :
    Text.trimEnd (draw s rs) = Text.join ['\n'] (Flowchart.lines s rs) := by
  have hne : Flowchart.lines s rs ≠ [] := by
    rw [lines_flowchart h]
    exact List.cons_ne_nil _ _
  exact Text.trimEnd_append_newline
    (Text.endsSolid_join hne fun l hl => endsSolid_of_mem_lines h hkeys hl)

/-- The lines of a drawing are the same without its last newline. -/
theorem lines_trimEnd_draw (h : rs.WordKeyed)
    (hkeys : ∀ key ∈ rs.keys, Declaration.IsIdentifier key) :
    lines (Text.trimEnd (draw s rs)) = Flowchart.lines s rs := by
  have hdraw := Flowchart.lines_draw (s := s) h
  rw [draw, Text.lines_append_cons, ← lines_flowchart h] at hdraw
  rw [trimEnd_draw h hkeys]
  exact List.append_cancel_right hdraw

/-- **An inserted diagram is read back.** Whatever a document without a diagram says, and whatever
the source says from which the diagram was drawn: between the first line that opens a fence and the
next one that closes it stands the diagram without its last newline. -/
theorem readFence?_insert? (content : Text) (h : hasDiagram content = false) (image : Option Text)
    (himage : ∀ name ∈ image, ↑ '\n' ∉ name) (diagram : Text)
    (hdiagram : diagram = placeholder ∨
      ∃ s t, diagram = draw s ((ResourceSet.extract t).infer s)) :
    ∃ document, insert? content diagram image "images" = some document ∧
      readFence? document = some (Text.chomp diagram) := by
  suffices htrim : Text.trimEnd diagram = Text.chomp diagram ∧
      ∀ l ∈ lines (Text.trimEnd diagram), l ≠ fenceClose by
    rw [← htrim.1]
    exact readFence?_insert?_of_lines h himage (by decide) htrim.2
  rcases hdiagram with rfl | ⟨s, t, rfl⟩
  · constructor
    · decide +kernel
    · decide +kernel
  · have hword : ((ResourceSet.extract t).infer s).WordKeyed :=
      (ResourceSet.wordKeyed_extract t).infer
    have hkeys : ∀ key ∈ ((ResourceSet.extract t).infer s).keys, Declaration.IsIdentifier key := by
      intro key hkey
      rw [ResourceSet.keys_infer] at hkey
      exact ResourceSet.isIdentifier_of_mem_keys hkey
    constructor
    · rw [trimEnd_draw hword hkeys, draw, Text.chomp_append_newline]
    · rw [lines_trimEnd_draw hword hkeys]
      exact fun l hl => ne_fenceClose_of_mem_lines hword hl

/-- A document with a requirements heading. -/
def shopText : Text := "# Shop\n\n## Requirements\n"

/-- A source with one resource, whose type tries to close the fence. -/
def shopSource : Text := "resource site 'Web/\n\u0060\u0060\u0060\n' = \x7b\n\x7d\n"

theorem readFence?_insert?_shop :
    hasDiagram shopText = false ∧ (∀ name ∈ some ("a.png" : Text), ↑ '\n' ∉ name) ∧
      ∃ document,
        insert? shopText (draw {} ((ResourceSet.extract shopSource).infer {})) (some "a.png")
          "images" = some document ∧
        readFence? document =
          some ("graph TD\n    site[\"📦 site<br/>\u0060\u0060\u0060\"]" : Text) := by
  have hnone : hasDiagram shopText = false := by decide
  have himage : ∀ name ∈ some ("a.png" : Text), ↑ '\n' ∉ name := by decide
  have hchomp : Text.chomp (draw {} ((ResourceSet.extract shopSource).infer {})) =
      ("graph TD\n    site[\"📦 site<br/>\u0060\u0060\u0060\"]" : Text) := by decide +kernel
  obtain ⟨document, hinsert, hread⟩ := readFence?_insert? shopText hnone (some "a.png") himage _
    (.inr ⟨{}, shopSource, rfl⟩)
  exact ⟨hnone, himage, document, hinsert, hread.trans (congrArg some hchomp)⟩

end Drawings

end Readme

end Groundplan

import Mathlib.Algebra.Group.Nat.Even
import Groundplan.Proofs.Readme.ReadBack

/-!
# Sections and code blocks

**Code blocks.** Lines that start with a fence open and close code blocks by turns (`blocks`). A
place between two lines is in a block when the last fence in front of it opens one (`InBlock`). When
fences come in pairs, that is so when the number of fences in front of it is odd (`inBlock_iff`).

**The place of a section.** Headings are looked for line by line, without regard to blocks. So a
section goes into a block exactly when the line that is taken for the heading is in one
(`inBlock_iff_takesBlockLine`). Otherwise no block is cut, and the diagram is a block of its own
(`Splices.blocks_eq`).

Main result: `insert?_outside_blocks`.
-/

namespace Groundplan

namespace Readme

open Text (lines)

variable {front back ls : List Text} {line : Text}

/-! ## Fences -/

/-- The line starts with a fence. -/
def isFenceLine (line : Text) : Bool := Text.startsWith fenceClose line

/-- The number of lines that start with a fence. -/
def fenceCount (ls : List Text) : Nat := ls.countP isFenceLine

/-- The lines that start with a fence come in pairs. -/
def Paired (ls : List Text) : Prop := Even (fenceCount ls)

/-- No line starts with a fence. -/
def IsPlain (ls : List Text) : Prop := ∀ l ∈ ls, isFenceLine l = false

instance (ls : List Text) : Decidable (Paired ls) := inferInstanceAs (Decidable (Even _))

instance (ls : List Text) : Decidable (IsPlain ls) := List.decidableBAll _ ls

theorem isPlain_cons : IsPlain (line :: ls) ↔ isFenceLine line = false ∧ IsPlain ls :=
  List.forall_mem_cons

theorem paired_nil : Paired [] := by simp [Paired, fenceCount]

theorem paired_cons_of_pos (h : isFenceLine line = true) :
    Paired (line :: ls) ↔ ¬Paired ls := by
  rw [Paired, Paired, fenceCount, fenceCount, List.countP_cons_of_pos h, Nat.even_add_one]

theorem paired_cons_of_neg (h : isFenceLine line = false) :
    Paired (line :: ls) ↔ Paired ls := by
  rw [Paired, Paired, fenceCount, fenceCount, List.countP_cons_of_neg (Bool.eq_false_iff.1 h)]

theorem paired_append : Paired (front ++ back) ↔ (Paired front ↔ Paired back) := by
  rw [Paired, Paired, Paired, fenceCount, fenceCount, fenceCount, List.countP_append, Nat.even_add]

theorem IsPlain.paired (h : IsPlain ls) : Paired ls := by
  have hcount : fenceCount ls = 0 := List.countP_eq_zero.2 fun l hl => Bool.eq_false_iff.1 (h l hl)
  simp [Paired, hcount]

/-- What does not start like a fence starts with none. -/
theorem isFenceLine_eq_false (h : line.head? ≠ fenceClose.head?) : isFenceLine line = false := by
  rw [isFenceLine, ← Bool.not_eq_true, Text.startsWith_iff]
  rintro ⟨r, rfl⟩
  exact h rfl

/-! ## Places between lines -/

/-- A place behind a line that opens a block, and in front of the line that closes it. -/
def InBlock (front back : List Text) : Prop :=
  ∃ above opening upper lower closing below,
    front = above ++ opening :: upper ∧ back = lower ++ closing :: below ∧
    isFenceLine opening = true ∧ isFenceLine closing = true ∧
    Paired above ∧ IsPlain upper ∧ IsPlain lower

theorem exists_first_fence (h : ¬IsPlain ls) : ∃ lower closing below,
    ls = lower ++ closing :: below ∧ isFenceLine closing = true ∧ IsPlain lower := by
  cases hbreak : breakAt? isFenceLine ls with
  | none =>
    exact absurd (fun l hl => Bool.eq_false_iff.2
      ((breakAt?_eq_none_iff fun _ => Iff.rfl).1 hbreak l hl)) h
  | some parts =>
    obtain ⟨lower, closing, below⟩ := parts
    exact ⟨lower, closing, below, breakAt?_eq_some_iff.1 hbreak⟩

theorem exists_last_fence (h : ¬IsPlain ls) : ∃ above opening upper,
    ls = above ++ opening :: upper ∧ isFenceLine opening = true ∧ IsPlain upper := by
  have hreverse : ¬IsPlain ls.reverse := fun hplain => h fun l hl =>
    hplain l (List.mem_reverse.2 hl)
  obtain ⟨upper, opening, above, heq, hopening, hupper⟩ := exists_first_fence hreverse
  refine ⟨above.reverse, opening, upper.reverse, ?_, hopening, fun l hl =>
    hupper l (List.mem_reverse.1 hl)⟩
  rw [← List.reverse_reverse ls, heq]
  simp

/-- **A place is in a block when the number of fences in front of it is odd.** -/
theorem inBlock_iff (h : Paired (front ++ back)) : InBlock front back ↔ ¬Paired front := by
  constructor
  · rintro ⟨above, opening, upper, lower, closing, below, rfl, rfl, hopening, -, habove, hupper, -⟩
    rw [paired_append, paired_cons_of_pos hopening]
    simp [habove, hupper.paired]
  · intro hfront
    have hback : ¬Paired back := fun hback => hfront ((paired_append.1 h).2 hback)
    obtain ⟨above, opening, upper, rfl, hopening, hupper⟩ :=
      exists_last_fence fun hplain => hfront hplain.paired
    obtain ⟨lower, closing, below, rfl, hclosing, hlower⟩ :=
      exists_first_fence fun hplain => hback hplain.paired
    refine ⟨above, opening, upper, lower, closing, below, rfl, rfl, hopening, hclosing, ?_, hupper,
      hlower⟩
    rw [paired_append, paired_cons_of_pos hopening] at hfront
    simpa [hupper.paired] using hfront

/-! ## Blocks -/

/-- The code blocks of a document, each with its fences. `opened` holds the lines of a block that
has been opened. A block that is not closed goes to the end. -/
def blocksFrom : (opened : Option (List Text)) → List Text → List (List Text)
  | none, [] => []
  | some block, [] => [block]
  | none, line :: ls =>
    if isFenceLine line then blocksFrom (some [line]) ls else blocksFrom none ls
  | some block, line :: ls =>
    if isFenceLine line then (block ++ [line]) :: blocksFrom none ls
    else blocksFrom (some (block ++ [line])) ls

/-- The code blocks of a document. -/
def blocks (ls : List Text) : List (List Text) := blocksFrom none ls

/-- Where the fences close what they open, what follows is read as if it stood alone. -/
theorem blocksFrom_append (front back : List Text) :
    (Paired front →
      blocksFrom none (front ++ back) = blocksFrom none front ++ blocksFrom none back) ∧
    ∀ block, ¬Paired front →
      blocksFrom (some block) (front ++ back) =
        blocksFrom (some block) front ++ blocksFrom none back := by
  induction front with
  | nil => exact ⟨fun _ => rfl, fun _ h => absurd paired_nil h⟩
  | cons line front ih =>
    rw [List.cons_append]
    cases hline : isFenceLine line with
    | true =>
      simp only [paired_cons_of_pos hline, not_not, blocksFrom, hline, if_true]
      exact ⟨ih.2 [line], fun block h => congrArg (_ :: ·) (ih.1 h)⟩
    | false =>
      simp only [paired_cons_of_neg hline, blocksFrom, hline, Bool.false_eq_true, if_false]
      exact ⟨ih.1, fun block => ih.2 (block ++ [line])⟩

theorem blocks_append (h : Paired front) (back : List Text) :
    blocks (front ++ back) = blocks front ++ blocks back :=
  (blocksFrom_append front back).1 h

theorem IsPlain.blocks_eq (h : IsPlain ls) : blocks ls = [] := by
  induction ls with
  | nil => rfl
  | cons line ls ih =>
    obtain ⟨hline, hrest⟩ := isPlain_cons.1 h
    rw [blocks, blocksFrom, hline, if_neg Bool.false_ne_true]
    exact ih hrest

theorem blocks_plain_append (h : IsPlain front) (back : List Text) :
    blocks (front ++ back) = blocks back := by
  rw [blocks_append h.paired, h.blocks_eq, List.nil_append]

theorem blocksFrom_plain_append (h : IsPlain front) (block back : List Text) :
    blocksFrom (some block) (front ++ back) = blocksFrom (some (block ++ front)) back := by
  induction front generalizing block with
  | nil => rw [List.nil_append, List.append_nil]
  | cons line front ih =>
    obtain ⟨hline, hrest⟩ := isPlain_cons.1 h
    rw [List.cons_append, blocksFrom, hline, if_neg Bool.false_ne_true, ih hrest,
      List.append_assoc, List.singleton_append]

/-- A block is read from its opening fence to its closing fence. -/
theorem blocks_block {opening closing : Text} {inside : List Text}
    (hopening : isFenceLine opening = true) (hinside : IsPlain inside)
    (hclosing : isFenceLine closing = true) (back : List Text) :
    blocks (opening :: (inside ++ closing :: back)) =
      (opening :: (inside ++ [closing])) :: blocks back := by
  rw [blocks, blocksFrom, hopening, if_pos rfl, blocksFrom_plain_append hinside, blocksFrom,
    hclosing, if_pos rfl]
  rfl

/-! ## Lines of a section -/

variable {content diagram : Text} {image : Option Text} {imagesDir run : Text}

/-- The lines behind the fence, without the empty line at the end of a section. -/
def linesBelow (image : Option Text) : List Text :=
  (match image.filter fun name => !name.isEmpty with
    | some _ => [[], "</details>"]
    | none => []) ++ [[], note]

/-- The lines of a section, without the empty line at its end. -/
def sectionLines (diagram : Text) (image : Option Text) (imagesDir : Text) : List Text :=
  linesAbove image imagesDir ++
    fenceOpen :: (lines (Text.trimEnd diagram) ++ fenceClose :: linesBelow image)

theorem belowFence_eq (image : Option Text) :
    belowFence image ++ (['\n'] : Text) = unlines (linesBelow image) := by
  unfold belowFence linesBelow
  cases image.filter fun name => !name.isEmpty with
  | none => decide
  | some name =>
    dsimp only
    decide

theorem unlines_sectionLines (diagram : Text) (image : Option Text) (imagesDir : Text) :
    unlines (sectionLines diagram image imagesDir) =
      aboveFence image imagesDir ++ (fenced diagram ++ (belowFence image ++ (['\n'] : Text))) := by
  have hlines : sectionLines diagram image imagesDir = linesAbove image imagesDir ++
      (fenceOpen :: (lines (Text.trimEnd diagram) ++ [fenceClose])) ++ linesBelow image := by
    simp [sectionLines]
  rw [hlines, aboveFence_eq, fenced_eq, belowFence_eq]
  simp only [unlines_append, List.append_assoc]

theorem isFenceLine_imageLine (imagesDir name : Text) :
    isFenceLine (imageLine imagesDir name) = false := by
  have hfence : fenceClose.head? ≠ some ↑ '!' := by decide
  refine isFenceLine_eq_false fun heq => hfence ?_
  rw [← heq, head?_imageLine]

theorem isPlain_linesAbove (image : Option Text) (imagesDir : Text) :
    IsPlain (linesAbove image imagesDir) := by
  have hempty : isFenceLine [] = false := by decide
  have hfolded : IsPlain [[], "<details>", "<summary>Mermaid source</summary>", []] := by decide
  unfold linesAbove
  cases image.filter fun name => !name.isEmpty with
  | none =>
    dsimp only
    decide
  | some name =>
    dsimp only
    rw [isPlain_cons, isPlain_cons]
    exact ⟨hempty, isFenceLine_imageLine imagesDir name, hfolded⟩

/-- The lines behind the fence are single lines and start with no fence. -/
theorem of_mem_linesBelow : ∀ l ∈ linesBelow image, ↑ '\n' ∉ l ∧ isFenceLine l = false := by
  unfold linesBelow
  cases image.filter fun name => !name.isEmpty with
  | none => decide
  | some name =>
    dsimp only
    decide

theorem newline_notMem_sectionLines (himage : ∀ name ∈ image, ↑ '\n' ∉ name)
    (hdir : ↑ '\n' ∉ imagesDir) : ∀ l ∈ sectionLines diagram image imagesDir, ↑ '\n' ∉ l := by
  intro l hl
  simp only [sectionLines, List.mem_append, List.mem_cons] at hl
  rcases hl with hl | rfl | hl | rfl | hl
  · exact (of_mem_linesAbove himage hdir l hl).1
  · decide
  · exact Text.newline_notMem_of_mem_lines hl
  · decide
  · exact (of_mem_linesBelow l hl).1

/-- The block of a diagram that holds no fence is the one block of its section. -/
theorem blocks_sectionLines_append (hdiagram : IsPlain (lines (Text.trimEnd diagram)))
    (back : List Text) :
    blocks (sectionLines diagram image imagesDir ++ back) =
      (fenceOpen :: (lines (Text.trimEnd diagram) ++ [fenceClose])) :: blocks back := by
  have hbelow : IsPlain (linesBelow image) := fun l hl => (of_mem_linesBelow l hl).2
  rw [sectionLines, List.append_assoc, blocks_plain_append (isPlain_linesAbove image imagesDir),
    List.cons_append, List.append_assoc, List.cons_append,
    blocks_block (by decide) hdiagram (by decide), blocks_plain_append hbelow]

/-! ## Lines behind a cut -/

/-- Leading newlines that are dropped are empty lines, and no fences. -/
theorem blocks_lines_dropWhile (h : ∀ l ∈ back, ↑ '\n' ∉ l) :
    blocks (lines ((Text.join ['\n'] back).dropWhile (· == ↑ '\n'))) = blocks back := by
  induction back with
  | nil => rfl
  | cons line back ih =>
    obtain ⟨hline, hback⟩ := List.forall_mem_cons.1 h
    rw [join_cons]
    cases line with
    | nil =>
      have hempty : IsPlain [[]] := by decide
      rw [List.nil_append, dropWhile_below, ih hback, ← blocks_plain_append hempty back]
      rfl
    | cons c line =>
      have hc : (c == '\n') = false := beq_false_of_ne fun hc => hline (hc ▸ List.mem_cons_self)
      rw [List.cons_append, List.dropWhile_cons, hc, if_neg Bool.false_ne_true, ← List.cons_append,
        lines_append_below hline hback]

/-! ## The place of a section -/

/-- The line that is taken for the heading, if there is one, stands in a code block. -/
def TakesBlockLine (content : Text) : Prop :=
  (∃ before found after, IsFirst IsArchitectureLine (lines content) before found after ∧
    InBlock before (found :: after)) ∨
  (∀ l ∈ lines content, ¬IsArchitectureLine l) ∧
    ∃ before found after, IsFirst IsRequirementsLine (lines content) before found after ∧
      InBlock before (found :: after)

/-- In front of a line that is no fence and behind it is the same block, or none. -/
theorem inBlock_append_singleton {found : Text} (hfound : isFenceLine found = false)
    (h : Paired (front ++ found :: back)) :
    InBlock (front ++ [found]) back ↔ InBlock front (found :: back) := by
  have h' : Paired (front ++ [found] ++ back) := by simpa using h
  rw [inBlock_iff h, inBlock_iff h', paired_append, paired_cons_of_neg hfound]
  simp [paired_nil]

theorem IsHeading.isFenceLine_eq_false {IsTitle : Text → Prop} (h : IsHeading IsTitle line) :
    isFenceLine line = false := by
  obtain ⟨r, rfl⟩ := h.exists_cons
  exact Readme.isFenceLine_eq_false (by simp [fenceClose, Text.ofString, Text.ofChars])

/-- A section goes into a code block exactly when the line that is taken for the heading is in
one. -/
theorem inBlock_iff_takesBlockLine
    (h : Splices content (sectionText diagram image imagesDir) front back run)
    (hpaired : Paired (lines content)) : InBlock front back ↔ TakesBlockLine content := by
  cases h with
  | @architecture before _ found first =>
    have hmove := inBlock_append_singleton (IsHeading.isFenceLine_eq_false first.holds)
      (first.lines_eq ▸ hpaired)
    rw [hmove]
    constructor
    · intro hblock
      exact .inl ⟨before, found, back, first, hblock⟩
    · rintro (⟨before', found', after', first', hblock⟩ | ⟨hnone, -⟩)
      · obtain ⟨rfl, rfl, rfl⟩ := first.unique (fun _ => isArchitectureHeading_iff) first'
        exact hblock
      · exact absurd first.holds (hnone found first.mem)
  | @requirements _ after found hnone first =>
    constructor
    · intro hblock
      exact .inr ⟨hnone, front, found, after, first, hblock⟩
    · rintro (⟨_, found', _, first', -⟩ | ⟨-, before', found', after', first', hblock⟩)
      · exact absurd first'.holds (hnone found' first'.mem)
      · obtain ⟨rfl, rfl, rfl⟩ := first.unique (fun _ => isRequirementsHeading_iff) first'
        exact hblock
  | atEnd hnone hnone' _ back_eq _ =>
    constructor
    · rintro ⟨_, _, _, lower, closing, below, -, hback, -, hclosing, -⟩
      have hplain : IsPlain back := by
        rcases back_eq with rfl | rfl <;> decide
      rw [hplain closing (by simp [hback])] at hclosing
      cases hclosing
    · rintro (⟨_, found', _, first', -⟩ | ⟨-, _, found', _, first', -⟩)
      · exact absurd first'.holds (hnone found' first'.mem)
      · exact absurd first'.holds (hnone' found' first'.mem)

/-! ## The document -/

/-- The lines of the document: those in front of the cut, those of the section with at most a
heading and empty lines around them, and those of the text behind the cut. -/
theorem Splices.exists_lines_eq
    (h : Splices content (sectionText diagram image imagesDir) front back run)
    (himage : ∀ name ∈ image, ↑ '\n' ∉ name) (hdir : ↑ '\n' ∉ imagesDir) (t : Text) :
    ∃ above below, IsPlain above ∧ IsPlain below ∧ lines (unlines front ++ (run ++ t)) =
      front ++ (above ++ (sectionLines diagram image imagesDir ++ (below ++ lines t))) := by
  obtain ⟨above, below, rfl, habove, hbelow⟩ := h.exists_run_eq
  have hadded : ∀ l ∈ ([[], "## Architecture Diagram"] : List Text),
      ↑ '\n' ∉ l ∧ isFenceLine l = false := by decide
  have hempty : ↑ '\n' ∉ ([] : Text) ∧ isFenceLine [] = false := by decide
  have hfront : ∀ l ∈ front, ↑ '\n' ∉ l := fun l hl => Text.newline_notMem_of_mem_lines
    (h.lines_eq ▸ List.mem_append_left back hl : l ∈ lines content)
  have hlines : unlines above ++ (aboveFence image imagesDir ++ (fenced diagram ++
      (belowFence image ++ (['\n'] : Text) ++ unlines below))) =
      unlines (above ++ (sectionLines diagram image imagesDir ++ below)) := by
    simp only [unlines_append, unlines_sectionLines, List.append_assoc]
  refine ⟨above, below, fun l hl => (hadded l (habove l hl)).2,
    fun l hl => hbelow l hl ▸ hempty.2, ?_⟩
  rw [hlines, lines_unlines_append hfront, lines_unlines_append]
  · simp only [List.append_assoc]
  · simp only [List.forall_mem_append]
    exact ⟨fun l hl => (hadded l (habove l hl)).1, newline_notMem_sectionLines himage hdir,
      fun l hl => hbelow l hl ▸ hempty.1⟩

/-- **A section that goes into no block leaves all blocks as they are**, and its diagram is one more
block between them. -/
theorem Splices.blocks_eq
    (h : Splices content (sectionText diagram image imagesDir) front back run)
    (himage : ∀ name ∈ image, ↑ '\n' ∉ name) (hdir : ↑ '\n' ∉ imagesDir)
    (hdiagram : IsPlain (lines (Text.trimEnd diagram))) (hfront : Paired front) :
    blocks (lines (unlines front ++ (run ++ (Text.join ['\n'] back).dropWhile (· == ↑ '\n')))) =
      blocks front ++ (fenceOpen :: (lines (Text.trimEnd diagram) ++ [fenceClose])) ::
        blocks back := by
  have hback : ∀ l ∈ back, ↑ '\n' ∉ l := fun l hl => Text.newline_notMem_of_mem_lines
    (h.lines_eq ▸ List.mem_append_right front hl : l ∈ lines content)
  obtain ⟨above, below, habove, hbelow, hlines⟩ := h.exists_lines_eq himage hdir
    ((Text.join ['\n'] back).dropWhile (· == ↑ '\n'))
  rw [hlines, blocks_append hfront, blocks_plain_append habove,
    blocks_sectionLines_append hdiagram, blocks_plain_append hbelow, blocks_lines_dropWhile hback]

/-- The opening fence of the diagram opens a block, whatever the diagram says. -/
theorem Splices.exists_opening
    (h : Splices content (sectionText diagram image imagesDir) front back run)
    (himage : ∀ name ∈ image, ↑ '\n' ∉ name) (hdir : ↑ '\n' ∉ imagesDir) (hfront : Paired front)
    (t : Text) : ∃ above below, Paired (front ++ above) ∧ lines (unlines front ++ (run ++ t)) =
      front ++ (above ++ fenceOpen :: (lines (Text.trimEnd diagram) ++ fenceClose :: below)) := by
  obtain ⟨above, below, habove, -, hlines⟩ := h.exists_lines_eq himage hdir t
  have hplain := isPlain_linesAbove image imagesDir
  refine ⟨above ++ linesAbove image imagesDir, linesBelow image ++ (below ++ lines t), ?_, ?_⟩
  · simp [paired_append, hfront, habove.paired, hplain.paired]
  · rw [hlines, sectionLines]
    simp

/-- **A section goes into a code block only for a heading in that block.** The place of the section
is in a block exactly when the line that is taken for the heading is. Otherwise every block of the
document stands on one side of the place, and the fence of the diagram opens a block. When no line
of the diagram starts with a fence, this block is the diagram. -/
theorem insert?_outside_blocks (h : hasDiagram content = false) (hpaired : Paired (lines content))
    (diagram : Text) (image : Option Text) (imagesDir : Text) :
    ∃ front back run document,
      Splices content (sectionText diagram image imagesDir) front back run ∧
      lines content = front ++ back ∧
      insert? content diagram image imagesDir = some document ∧
      document = unlines front ++ (run ++ (Text.join ['\n'] back).dropWhile (· == ↑ '\n')) ∧
      (InBlock front back ↔ TakesBlockLine content) ∧
      (¬TakesBlockLine content → blocks (lines content) = blocks front ++ blocks back ∧
        ((∀ name ∈ image, ↑ '\n' ∉ name) → ↑ '\n' ∉ imagesDir →
          (∃ above below, Paired (front ++ above) ∧ lines document =
            front ++ (above ++ fenceOpen :: (lines (Text.trimEnd diagram) ++
              fenceClose :: below))) ∧
          (IsPlain (lines (Text.trimEnd diagram)) → blocks (lines document) =
            blocks front ++ (fenceOpen :: (lines (Text.trimEnd diagram) ++ [fenceClose])) ::
              blocks back))) := by
  obtain ⟨front, back, run, hsplices, hinsert⟩ := exists_splices h diagram image imagesDir
  have hblock := inBlock_iff_takesBlockLine hsplices hpaired
  refine ⟨front, back, run, _, hsplices, hsplices.lines_eq, hinsert, rfl, hblock, ?_⟩
  intro houtside
  have hfront : Paired front := by
    rw [hsplices.lines_eq] at hpaired
    exact not_not.1 ((not_congr (inBlock_iff hpaired)).1 (hblock.not.2 houtside))
  refine ⟨?_, fun himage hdir => ⟨hsplices.exists_opening himage hdir hfront _,
    fun hdiagram => hsplices.blocks_eq himage hdir hdiagram hfront⟩⟩
  rw [hsplices.lines_eq, blocks_append hfront]

/-- A document with a heading behind a code block. -/
def manualText : Text := "\u0060\u0060\u0060sh\n# Run\n\u0060\u0060\u0060\n# Architecture\n"

theorem insert?_outside_blocks_manual :
    hasDiagram manualText = false ∧ Paired (lines manualText) ∧ ¬TakesBlockLine manualText ∧
      ∃ front back document,
        insert? manualText "graph TD" none "images" = some document ∧ ¬InBlock front back ∧
        blocks (lines manualText) = blocks front ++ blocks back ∧
        blocks (lines document) = blocks front ++ [fenceOpen, "graph TD", fenceClose] ::
          blocks back := by
  have hnone : hasDiagram manualText = false := by decide
  have hpaired : Paired (lines manualText) := by decide
  have hbreak : breakAt? isArchitectureHeading (lines manualText) =
      some ((["\u0060\u0060\u0060sh", "# Run", "\u0060\u0060\u0060"] : List Text),
        ("# Architecture" : Text), [[]]) := by decide
  have houtside : ¬TakesBlockLine manualText := by
    rintro (⟨before, found, after, hfirst, hblock⟩ | ⟨harchitecture, -⟩)
    · have hbreak' := (breakAt?_eq_some_iff_isFirst fun _ => isArchitectureHeading_iff).2 hfirst
      rw [hbreak] at hbreak'
      cases hbreak'
      exact (inBlock_iff (by decide)).1 hblock (by decide)
    · exact harchitecture "# Architecture" (by decide) (isArchitectureHeading_iff.1 (by decide))
  obtain ⟨front, back, run, document, -, -, hinsert, -, hblock, hblocks⟩ :=
    insert?_outside_blocks hnone hpaired "graph TD" none "images"
  obtain ⟨hkept, hnew⟩ := hblocks houtside
  exact ⟨hnone, hpaired, houtside, front, back, document, hinsert, hblock.not.2 houtside, hkept,
    (hnew (by decide) (by decide)).2 (by decide)⟩

/-- A document with a line in a code block that looks like a heading. -/
def scriptText : Text := "\u0060\u0060\u0060sh\n# Architecture\n\u0060\u0060\u0060\n"

/-- A comment of a script is taken for the heading: the section goes into the block, and its diagram
is no block. -/
theorem inBlock_script :
    hasDiagram scriptText = false ∧ Paired (lines scriptText) ∧ ∃ front back run document,
      Splices scriptText (sectionText "graph TD" none "images") front back run ∧
      insert? scriptText "graph TD" none "images" = some document ∧
      document = unlines front ++ (run ++ (Text.join ['\n'] back).dropWhile (· == ↑ '\n')) ∧
      InBlock front back ∧ [fenceOpen, "graph TD", fenceClose] ∉ blocks (lines document) := by
  have hnone : hasDiagram scriptText = false := by decide
  have hbreak : breakAt? isArchitectureHeading (lines scriptText) =
      some ((["\u0060\u0060\u0060sh"] : List Text), ("# Architecture" : Text),
        (["\u0060\u0060\u0060", []] : List Text)) := by decide
  have hfirst := (breakAt?_eq_some_iff_isFirst fun _ => isArchitectureHeading_iff).1 hbreak
  refine ⟨hnone, by decide, _, _, _, _, .architecture hfirst, insert?_of_architecture hnone hbreak,
    ?_, ?_, ?_⟩
  · simp only [unlines_append, unlines_cons, unlines_nil, List.append_nil, List.append_assoc]
  · exact ⟨[], "\u0060\u0060\u0060sh", ["# Architecture"], [], "\u0060\u0060\u0060", [[]], rfl, rfl,
      by decide, by decide, by decide, by decide, by decide⟩
  · decide +kernel

end Readme

end Groundplan

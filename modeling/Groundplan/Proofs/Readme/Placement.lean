import Groundplan.Proofs.Readme.Heading

/-!
# Where a section is placed

**Cuts** (`Splices`). A section goes between two lines of the document: behind the first
architecture heading, else in front of the first requirements heading, else behind the last line.
What goes there is the section, under a heading of its own unless there is one already. Every
document without a diagram is cut in one of these ways (`exists_splices`).

**The diagram.** Wherever it goes, the section stands behind whole lines, none of them with the
opening of a fence (`exists_insert?_eq`). So the new document has a diagram
(`fenceOpen_infix_of_insert?`).

**Nothing is lost.** The lines on both sides of a cut are those of the document
(`Splices.lines_eq`), and of what is behind the cut at most newlines are dropped. So all other
characters stay (`withoutNewlines_splice`).

Main result: `insert?_by_lines`.
-/

namespace Groundplan

namespace Readme

open Text (lines EndsNo)

variable {content sec line t : Text} {front back : List Text} {run : Text}
variable {diagram : Text} {image : Option Text} {imagesDir : Text}

/-! ## The two headings -/

/-- A heading `Architecture` or `Architecture Diagram`. -/
def IsArchitectureLine (line : Text) : Prop := IsHeading IsArchitectureTitle line

/-- A heading `Requirements`. -/
def IsRequirementsLine (line : Text) : Prop := IsHeading IsRequirementsTitle line

theorem IsArchitectureLine.newline_notMem (h : IsArchitectureLine line) : ↑ '\n' ∉ line :=
  IsHeading.newline_notMem (fun _ => IsArchitectureTitle.newline_notMem) h

theorem IsRequirementsLine.newline_notMem (h : IsRequirementsLine line) : ↑ '\n' ∉ line :=
  IsHeading.newline_notMem (fun _ => IsRequirementsTitle.newline_notMem) h

/-- A heading starts with a number sign. -/
theorem IsHeading.exists_cons {IsTitle : Text → Prop} (h : IsHeading IsTitle line) :
    ∃ r, line = ↑ '#' :: r := by
  obtain ⟨_, title, tail, rfl, ⟨signs, gap, rfl, hsigns, hone, -, -⟩, -, -⟩ := h
  obtain ⟨c, signs, rfl⟩ := List.exists_cons_of_ne_nil (List.length_pos_iff.1 hone)
  obtain rfl := hsigns c List.mem_cons_self
  exact ⟨_, rfl⟩

/-! ## Cuts -/

/-- How a document is cut for a section: the lines in front of the cut, the lines behind it, and
what is put between them. -/
inductive Splices (content sec : Text) : List Text → List Text → Text → Prop
  | architecture {before after : List Text} {found : Text}
      (first : IsFirst IsArchitectureLine (lines content) before found after) :
      Splices content sec (before ++ [found]) after sec
  | requirements {before after : List Text} {found : Text}
      (noArchitecture : ∀ l ∈ lines content, ¬IsArchitectureLine l)
      (first : IsFirst IsRequirementsLine (lines content) before found after) :
      Splices content sec before (found :: after) (heading ++ sec)
  | atEnd {front back : List Text}
      (noArchitecture : ∀ l ∈ lines content, ¬IsArchitectureLine l)
      (noRequirements : ∀ l ∈ lines content, ¬IsRequirementsLine l)
      (lines_eq : lines content = front ++ back) (back_eq : back = [] ∨ back = [[]])
      (front_eq : unlines front = if content.isEmpty then [] else terminated content) :
      Splices content sec front back ("\n" ++ heading ++ Text.dropEnd (· == '\n') sec ++ "\n")

theorem Splices.lines_eq (h : Splices content sec front back run) :
    lines content = front ++ back := by
  cases h with
  | architecture first => rw [first.lines_eq, List.append_assoc, List.singleton_append]
  | requirements _ first => exact first.lines_eq
  | atEnd _ _ lines_eq _ _ => exact lines_eq

/-- The end of a document is a cut. Behind it stands at most the empty piece that follows the last
newline. -/
theorem exists_end_cut (content : Text) : ∃ front back, lines content = front ++ back ∧
    (back = [] ∨ back = [[]]) ∧
    unlines front = if content.isEmpty then [] else terminated content := by
  cases hempty : content.isEmpty with
  | true =>
    rw [List.isEmpty_iff.1 hempty]
    exact ⟨[], [[]], rfl, .inr rfl, rfl⟩
  | false =>
    rw [if_neg Bool.false_ne_true, terminated]
    split
    · next hlast =>
      obtain ⟨t, rfl⟩ := List.getLast?_eq_some_iff.1 hlast
      exact ⟨lines t, [[]], Text.split_append_cons rfl t [], .inr rfl, unlines_lines t⟩
    · exact ⟨lines content, [], (List.append_nil _).symm, .inl rfl, unlines_lines content⟩

/-- A heading does not start with a newline. -/
theorem dropWhile_join_of_requirements (h : IsRequirementsLine line) (after : List Text) :
    (Text.join ['\n'] (line :: after)).dropWhile (· == ↑ '\n') =
      Text.join ['\n'] (line :: after) := by
  obtain ⟨r, rfl⟩ := IsHeading.exists_cons h
  rw [join_cons]
  rfl

/-- **Every document without a diagram is cut**, and what is behind the cut loses its leading
newlines. -/
theorem exists_splices (h : hasDiagram content = false) (diagram : Text) (image : Option Text)
    (imagesDir : Text) : ∃ front back run,
      Splices content (sectionText diagram image imagesDir) front back run ∧
      insert? content diagram image imagesDir =
        some (unlines front ++ (run ++ (Text.join ['\n'] back).dropWhile (· == ↑ '\n'))) := by
  cases harchitecture : breakAt? isArchitectureHeading (lines content) with
  | some parts =>
    obtain ⟨before, found, after⟩ := parts
    refine ⟨_, _, _, .architecture ((breakAt?_eq_some_iff_isFirst fun l =>
      isArchitectureHeading_iff).1 harchitecture), ?_⟩
    rw [insert?_of_architecture h harchitecture]
    simp only [unlines_append, unlines_cons, unlines_nil, List.append_nil, List.append_assoc]
  | none =>
    have hnone := (breakAt?_eq_none_iff fun l => isArchitectureHeading_iff).1 harchitecture
    cases hrequirements : breakAt? isRequirementsHeading (lines content) with
    | some parts =>
      obtain ⟨before, found, after⟩ := parts
      have hfirst := (breakAt?_eq_some_iff_isFirst fun l =>
        isRequirementsHeading_iff).1 hrequirements
      refine ⟨_, _, _, .requirements hnone hfirst, ?_⟩
      rw [insert?_of_requirements h harchitecture hrequirements,
        dropWhile_join_of_requirements hfirst.holds]
      simp only [List.append_assoc]
    | none =>
      have hnone' := (breakAt?_eq_none_iff fun l => isRequirementsHeading_iff).1 hrequirements
      obtain ⟨front, back, hlines, hback, hfront⟩ := exists_end_cut content
      refine ⟨front, back, _, .atEnd hnone hnone' hlines hback hfront, ?_⟩
      have hnothing : (Text.join ['\n'] back).dropWhile (· == ↑ '\n') = [] := by
        rcases hback with rfl | rfl <;> rfl
      rw [insert?_of_noHeading h harchitecture hrequirements, hfront, hnothing]
      simp only [List.append_assoc, List.append_nil]

/-! ## What is put in -/

/-- What is put into a document is the section, a heading and the section, or, at the end, both
behind an empty line. -/
theorem Splices.run_mem (h : Splices content sec front back run) :
    run ∈ [sec, heading ++ sec, "\n" ++ heading ++ Text.dropEnd (· == '\n') sec ++ "\n"] := by
  cases h <;> simp

/-- Around the section there is at most a heading, and there are empty lines. -/
theorem Splices.exists_run_eq
    (h : Splices content (sectionText diagram image imagesDir) front back run) : ∃ above below,
      run = unlines above ++ (aboveFence image imagesDir ++ (fenced diagram ++
        (belowFence image ++ (['\n'] : Text) ++ unlines below))) ∧
      (∀ l ∈ above, l ∈ ([[], "## Architecture Diagram"] : List Text)) ∧ ∀ l ∈ below, l = [] := by
  have hend : ("\n\n" : Text) = (['\n'] : Text) ++ unlines [[]] := rfl
  cases h with
  | architecture _ =>
    refine ⟨[], [[]], ?_, by simp, by simp⟩
    rw [sectionText_eq, hend, unlines_nil]
    simp only [List.append_assoc, List.nil_append]
  | requirements _ _ =>
    refine ⟨["## Architecture Diagram"], [[]], ?_, by simp, by simp⟩
    rw [sectionText_eq, hend, ← heading_eq]
    simp only [List.append_assoc]
  | atEnd _ _ _ _ _ =>
    have habove : ("\n" : Text) ++ heading = unlines [[], "## Architecture Diagram"] := by decide
    refine ⟨[[], "## Architecture Diagram"], [], ?_, by simp, by simp⟩
    rw [dropEnd_sectionText, habove, unlines_nil, List.append_nil]
    simp only [List.append_assoc]
    rfl

/-- A document that has no diagram gets one: whole lines, of which none opens a fence, then the
section, and then more text. -/
theorem exists_insert?_eq (h : hasDiagram content = false) (diagram : Text) (image : Option Text)
    (imagesDir : Text) :
    ∃ start rest, insert? content diagram image imagesDir =
        some (unlines start ++ (aboveFence image imagesDir ++ (fenced diagram ++ rest))) ∧
      ∀ l ∈ start, ↑ '\n' ∉ l ∧ ¬fenceOpen <:+: l := by
  have hcontent : ¬fenceOpen <:+: content :=
    hasDiagram_eq_false_iff.1 h fenceOpen List.mem_cons_self
  obtain ⟨front, back, run, hsplices, hinsert⟩ := exists_splices h diagram image imagesDir
  obtain ⟨above, below, rfl, habove, -⟩ := hsplices.exists_run_eq
  refine ⟨front ++ above, belowFence image ++ (['\n'] : Text) ++ unlines below ++
    (Text.join ['\n'] back).dropWhile (· == ↑ '\n'), ?_, fun l hl => ?_⟩
  · rw [hinsert, unlines_append]
    simp only [List.append_assoc]
  · rcases List.mem_append.1 hl with hl | hl
    · have hline : l ∈ lines content := hsplices.lines_eq ▸ List.mem_append_left back hl
      exact ⟨Text.newline_notMem_of_mem_lines hline,
        fun hfence => hcontent (hfence.trans (Text.infix_of_mem_lines hline))⟩
    · rcases List.mem_pair.1 (habove l hl) with rfl | rfl
      · exact ⟨by decide, Text.occursIn_eq_false_iff.1 (by decide)⟩
      · exact ⟨by decide, Text.occursIn_eq_false_iff.1 (by decide)⟩

/-- The fence of a diagram that was inserted is found in the document. -/
theorem fenceOpen_infix_of_insert? (h : insert? content diagram image imagesDir = some t) :
    fenceOpen <:+: t := by
  have hcontent : hasDiagram content = false := by
    rw [← Bool.not_eq_true]
    intro hdiagram
    rw [insert?_eq_none_iff.2 hdiagram] at h
    cases h
  obtain ⟨start, rest, heq, -⟩ := exists_insert?_eq hcontent diagram image imagesDir
  rw [h] at heq
  rw [Option.some.inj heq, fenced]
  refine ⟨unlines start ++ aboveFence image imagesDir,
    "\n" ++ Text.trimEnd diagram ++ "\n" ++ fenceClose ++ "\n" ++ rest, ?_⟩
  simp only [List.append_assoc]

/-! ## What stays -/

/-- The characters of a text other than newlines. -/
def withoutNewlines (t : Text) : Text := t.filter (· != ↑ '\n')

theorem withoutNewlines_append (a b : Text) :
    withoutNewlines (a ++ b) = withoutNewlines a ++ withoutNewlines b :=
  List.filter_append ..

theorem withoutNewlines_newline : withoutNewlines ['\n'] = [] := rfl

theorem withoutNewlines_dropWhile (t : Text) :
    withoutNewlines (t.dropWhile (· == ↑ '\n')) = withoutNewlines t := by
  induction t with
  | nil => rfl
  | cons c t ih =>
    rw [List.dropWhile_cons]
    split
    · next hc =>
      obtain rfl := beq_iff_eq.1 hc
      exact ih
    · rfl

theorem withoutNewlines_join (ls : List Text) :
    withoutNewlines (Text.join ['\n'] ls) = withoutNewlines (unlines ls) := by
  cases ls with
  | nil => rfl
  | cons l ls =>
    rw [← join_append_newline (List.cons_ne_nil l ls), withoutNewlines_append,
      withoutNewlines_newline, List.append_nil]

/-- On both sides of a cut all characters of the document stay, newlines apart. -/
theorem withoutNewlines_splice (h : lines content = front ++ back) :
    withoutNewlines (unlines front ++ (Text.join ['\n'] back).dropWhile (· == ↑ '\n')) =
      withoutNewlines content := by
  rw [withoutNewlines_append, withoutNewlines_dropWhile, withoutNewlines_join,
    ← withoutNewlines_append, ← unlines_append, ← h, unlines_lines, withoutNewlines_append,
    withoutNewlines_newline, List.append_nil]

/-! ## The placement -/

theorem terminated_append (t : Text) (hne : line ≠ []) (hline : ↑ '\n' ∉ line) :
    terminated (t ++ line) = t ++ line ++ (['\n'] : Text) := by
  refine if_neg fun hlast => hline ?_
  rw [List.getLast?_append, List.getLast?_eq_some_getLast hne, Option.some_or] at hlast
  exact Option.some.inj hlast ▸ List.getLast_mem hne

/-- Two newlines are all that a section ends with. -/
theorem exists_section_eq (diagram : Text) (image : Option Text) (imagesDir : Text) :
    ∃ body, sectionText diagram image imagesDir = body ++ "\n\n" ∧ EndsNo (· == '\n') body ∧
      Text.dropEnd (· == '\n') (sectionText diagram image imagesDir) = body := by
  refine ⟨_, sectionText_eq diagram image imagesDir, ?_,
    dropEnd_sectionText diagram image imagesDir⟩
  rw [← dropEnd_sectionText]
  exact (Text.dropEnd_spec (· == '\n') _).1

theorem exists_insert?_of_architecture (h : hasDiagram content = false)
    (hline : ∃ l ∈ lines content, IsArchitectureLine l) : ∃ before found after rest,
      IsFirst IsArchitectureLine (lines content) before found after ∧
      FindsFirst IsArchitectureLine content (unlines before) found rest ∧
      insert? content diagram image imagesDir =
        some (terminated (unlines before ++ found) ++ sectionText diagram image imagesDir ++
          rest.dropWhile (· == ↑ '\n')) := by
  obtain ⟨l, hl, harchitecture⟩ := hline
  obtain ⟨front, back, run, hsplices, hinsert⟩ := exists_splices h diagram image imagesDir
  cases hsplices with
  | @architecture before _ found first =>
    have hplace := (findsFirst_iff fun _ => IsArchitectureLine.newline_notMem).2
      ⟨before, back, first, rfl, rfl⟩
    obtain ⟨r, hr⟩ := IsHeading.exists_cons first.holds
    have hne : found ≠ [] := by simp [hr]
    refine ⟨before, found, back, below back, first, hplace, ?_⟩
    rw [hinsert, dropWhile_below, terminated_append _ hne first.holds.newline_notMem,
      unlines_append, unlines_cons, unlines_nil, List.append_nil]
    simp only [List.append_assoc]
  | requirements noArchitecture _ => exact absurd harchitecture (noArchitecture l hl)
  | atEnd noArchitecture _ _ _ _ => exact absurd harchitecture (noArchitecture l hl)

theorem exists_insert?_of_requirements (h : hasDiagram content = false)
    (hnone : ∀ l ∈ lines content, ¬IsArchitectureLine l)
    (hline : ∃ l ∈ lines content, IsRequirementsLine l) : ∃ before found after rest,
      IsFirst IsRequirementsLine (lines content) before found after ∧
      FindsFirst IsRequirementsLine content (unlines before) found rest ∧
      insert? content diagram image imagesDir =
        some (unlines before ++ heading ++ sectionText diagram image imagesDir ++
          (found ++ rest)) := by
  obtain ⟨l, hl, hrequirements⟩ := hline
  obtain ⟨front, back, run, hsplices, hinsert⟩ := exists_splices h diagram image imagesDir
  cases hsplices with
  | architecture first => exact absurd first.holds (hnone _ first.mem)
  | @requirements _ after found _ first =>
    have hplace := (findsFirst_iff fun _ => IsRequirementsLine.newline_notMem).2
      ⟨front, after, first, rfl, rfl⟩
    refine ⟨front, found, after, below after, first, hplace, ?_⟩
    rw [hinsert, dropWhile_join_of_requirements first.holds, join_cons]
    simp only [List.append_assoc]
  | atEnd _ noRequirements _ _ _ => exact absurd hrequirements (noRequirements l hl)

theorem exists_insert?_of_noHeading (h : hasDiagram content = false)
    (hnone : ∀ l ∈ lines content, ¬IsArchitectureLine l)
    (hnone' : ∀ l ∈ lines content, ¬IsRequirementsLine l) : ∃ body,
      sectionText diagram image imagesDir = body ++ "\n\n" ∧ EndsNo (· == '\n') body ∧
      insert? content diagram image imagesDir =
        some ((if content.isEmpty then [] else terminated content) ++ "\n" ++ heading ++ body ++
          "\n") := by
  obtain ⟨body, hsection, hends, hbody⟩ := exists_section_eq diagram image imagesDir
  obtain ⟨front, back, run, hsplices, hinsert⟩ := exists_splices h diagram image imagesDir
  refine ⟨body, hsection, hends, ?_⟩
  cases hsplices with
  | architecture first => exact absurd first.holds (hnone _ first.mem)
  | requirements _ first => exact absurd first.holds (hnone' _ first.mem)
  | atEnd _ _ _ back_eq front_eq =>
    have hnothing : (Text.join ['\n'] back).dropWhile (· == ↑ '\n') = [] := by
      rcases back_eq with rfl | rfl <;> rfl
    rw [hinsert, front_eq, hnothing, hbody]
    simp only [List.append_assoc, List.append_nil]

/-- **A section is placed by lines, and no text is lost.** The first line of a class is the first
one among the lines of the document, and the first one that is found in its text. -/
theorem insert?_by_lines (h : hasDiagram content = false) (diagram : Text) (image : Option Text)
    (imagesDir : Text) :
    ((∃ l ∈ lines content, IsArchitectureLine l) → ∃ before found after rest,
      IsFirst IsArchitectureLine (lines content) before found after ∧
      FindsFirst IsArchitectureLine content (unlines before) found rest ∧
      insert? content diagram image imagesDir =
        some (terminated (unlines before ++ found) ++ sectionText diagram image imagesDir ++
          rest.dropWhile (· == ↑ '\n'))) ∧
    ((∀ l ∈ lines content, ¬IsArchitectureLine l) →
      (∃ l ∈ lines content, IsRequirementsLine l) → ∃ before found after rest,
      IsFirst IsRequirementsLine (lines content) before found after ∧
      FindsFirst IsRequirementsLine content (unlines before) found rest ∧
      insert? content diagram image imagesDir =
        some (unlines before ++ heading ++ sectionText diagram image imagesDir ++
          (found ++ rest))) ∧
    ((∀ l ∈ lines content, ¬IsArchitectureLine l) →
      (∀ l ∈ lines content, ¬IsRequirementsLine l) → ∃ body,
      sectionText diagram image imagesDir = body ++ "\n\n" ∧ EndsNo (· == '\n') body ∧
      insert? content diagram image imagesDir =
        some ((if content.isEmpty then [] else terminated content) ++ "\n" ++ heading ++ body ++
          "\n")) ∧
    ∃ front run back, insert? content diagram image imagesDir = some (front ++ (run ++ back)) ∧
      run ∈ [sectionText diagram image imagesDir, heading ++ sectionText diagram image imagesDir,
        "\n" ++ heading ++
          Text.dropEnd (· == '\n') (sectionText diagram image imagesDir) ++ "\n"] ∧
      withoutNewlines (front ++ back) = withoutNewlines content := by
  refine ⟨exists_insert?_of_architecture h, exists_insert?_of_requirements h,
    exists_insert?_of_noHeading h, ?_⟩
  obtain ⟨front, back, run, hsplices, hinsert⟩ := exists_splices h diagram image imagesDir
  exact ⟨_, run, _, hinsert, hsplices.run_mem, withoutNewlines_splice hsplices.lines_eq⟩

/-- A document with a heading in the middle, in capitals, behind a line that is none. -/
def noticeText : Text := "####### Architecture\n##\tARCHİTECTURE  diagram \n\n\nText"

theorem insert?_by_lines_notice :
    hasDiagram noticeText = false ∧ (∃ l ∈ lines noticeText, IsArchitectureLine l) ∧
      ∃ before found after rest,
        IsFirst IsArchitectureLine (lines noticeText) before found after ∧
        FindsFirst IsArchitectureLine noticeText (unlines before) found rest ∧
        insert? noticeText "graph TD" none "images" =
          some (terminated (unlines before ++ found) ++ sectionText "graph TD" none "images" ++
            rest.dropWhile (· == ↑ '\n')) := by
  have hnone : hasDiagram noticeText = false := by decide
  have hline : ∃ l ∈ lines noticeText, IsArchitectureLine l :=
    ⟨"##\tARCHİTECTURE  diagram ", by decide, isArchitectureHeading_iff.1 (by decide)⟩
  exact ⟨hnone, hline, (insert?_by_lines hnone "graph TD" none "images").1 hline⟩

end Readme

end Groundplan

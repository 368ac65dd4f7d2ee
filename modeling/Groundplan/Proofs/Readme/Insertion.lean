import Mathlib.Data.List.Basic
import Groundplan.Readme
import Groundplan.Proofs.Text.Run
import Groundplan.Proofs.Text.Search

/-!
# What insertion makes of a document

**Lines.** A document is the list of its lines, each with a newline, less the last newline
(`unlines_lines`), and whole lines are read as they are (`lines_unlines_append`).

**The section.** The section of a diagram is its fence between two texts that do not depend on the
diagram (`sectionText_eq`).

**The document.** A document that has a diagram is left alone (`insert?_eq_none_iff`). For any other
there is one equation for each of the three places where the section can go
(`insert?_of_architecture`, `insert?_of_requirements`, `insert?_of_noHeading`).
-/

namespace Groundplan

namespace Readme

open Text (lines)

/-! ## Lines -/

theorem unlines_append (a b : List Text) : unlines (a ++ b) = unlines a ++ unlines b :=
  List.flatMap_append

theorem unlines_cons (l : Text) (ls : List Text) :
    unlines (l :: ls) = l ++ (['\n'] : Text) ++ unlines ls :=
  List.flatMap_cons

@[simp] theorem unlines_nil : unlines [] = [] := rfl

theorem join_append_newline {ls : List Text} (h : ls ≠ []) :
    Text.join ['\n'] ls ++ (['\n'] : Text) = unlines ls := by
  induction ls with
  | nil => exact absurd rfl h
  | cons a ls ih =>
    rw [Text.join_cons_append, unlines_cons]
    split
    · next hls => simp [hls]
    · next hls => simp [ih hls]

/-- The lines of a text, each with a newline, are the text with one more newline. -/
theorem unlines_lines (t : Text) : unlines (lines t) = t ++ (['\n'] : Text) := by
  have hne : lines t ≠ [] := Text.split_ne_nil _ t
  rw [← join_append_newline hne, Text.join_lines]

/-- Whole lines are read as they are. -/
theorem lines_unlines_append {ls : List Text} (h : ∀ l ∈ ls, ↑ '\n' ∉ l) (t : Text) :
    lines (unlines ls ++ t) = ls ++ lines t := by
  induction ls with
  | nil => rfl
  | cons a ls ih =>
    have hrest := ih fun l hl => h l (List.mem_cons_of_mem a hl)
    rw [unlines_cons, List.append_assoc, List.append_assoc, List.singleton_append,
      Text.lines_append_newline (h a List.mem_cons_self), hrest, List.cons_append]

/-- What a document is broken into: the lines in front of the first one of a class, that line, and
the lines behind it. -/
theorem breakAt?_eq_some_iff {p : Text → Bool} {ls before after : List Text} {found : Text} :
    breakAt? p ls = some (before, found, after) ↔
      ls = before ++ found :: after ∧ p found = true ∧ ∀ l ∈ before, p l = false := by
  induction ls generalizing before with
  | nil => simp [breakAt?]
  | cons l ls ih =>
    rw [breakAt?]
    cases hp : p l with
    | true =>
      rw [if_pos rfl]
      constructor
      · intro h
        cases h
        exact ⟨rfl, hp, by simp⟩
      · intro h
        obtain ⟨heq, -, hbefore⟩ := h
        cases before with
        | nil =>
          obtain ⟨rfl, rfl⟩ := List.cons.inj heq
          rfl
        | cons a before =>
          obtain ⟨rfl, -⟩ := List.cons.inj heq
          have hfalse := hbefore l List.mem_cons_self
          rw [hp] at hfalse
          cases hfalse
    | false =>
      rw [if_neg Bool.false_ne_true, Option.map_eq_some_iff]
      constructor
      · intro h
        obtain ⟨⟨before', found', after'⟩, hbreak, heq⟩ := h
        cases heq
        obtain ⟨rfl, hfound, hbefore⟩ := ih.1 hbreak
        exact ⟨rfl, hfound, List.forall_mem_cons.2 ⟨hp, hbefore⟩⟩
      · intro h
        obtain ⟨heq, hfound, hbefore⟩ := h
        cases before with
        | nil =>
          obtain ⟨rfl, -⟩ := List.cons.inj heq
          rw [hp] at hfound
          cases hfound
        | cons a before =>
          obtain ⟨rfl, rfl⟩ := List.cons.inj heq
          rw [List.forall_mem_cons] at hbefore
          exact ⟨_, ih.2 ⟨rfl, hfound, hbefore.2⟩, rfl⟩

/-! ## The section -/

/-- What stands in a section in front of the fence. -/
def aboveFence (image : Option Text) (imagesDir : Text) : Text :=
  "\n" ++ match image.filter fun name => !name.isEmpty with
    | some name => "![" ++ title ++ "](" ++ imagesDir ++ "/" ++ name ++ ")\n\n" ++
        "<details>\n<summary>Mermaid source</summary>\n\n"
    | none => []

/-- What stands in a section behind the fence, without the newlines at its end. -/
def belowFence (image : Option Text) : Text :=
  (match image.filter fun name => !name.isEmpty with
    | some _ => ("\n</details>\n" : Text)
    | none => []) ++ "\n" ++ note

/-- A section is the fence of its diagram between two texts. -/
theorem sectionText_eq (diagram : Text) (image : Option Text) (imagesDir : Text) :
    sectionText diagram image imagesDir =
      aboveFence image imagesDir ++ fenced diagram ++ belowFence image ++ "\n\n" := by
  unfold sectionText aboveFence belowFence withImage
  cases image.filter fun name => !name.isEmpty with
  | none => simp only [List.append_assoc, List.nil_append]
  | some name =>
    dsimp only
    simp only [List.append_assoc]

/-- The newlines at its end are all that a section loses at the end of a document. -/
theorem dropEnd_sectionText (diagram : Text) (image : Option Text) (imagesDir : Text) :
    Text.dropEnd (· == '\n') (sectionText diagram image imagesDir) =
      aboveFence image imagesDir ++ fenced diagram ++ belowFence image := by
  have hnote : Text.dropEnd (· == '\n') (note ++ "\n\n") = note := by decide +kernel
  have hne : Text.dropEnd (· == '\n') (note ++ "\n\n") ≠ [] := by
    rw [hnote]
    exact List.cons_ne_nil _ _
  rw [sectionText_eq, belowFence, ← List.append_assoc, List.append_assoc _ note,
    Text.dropEnd_append hne, hnote, List.append_assoc]

/-! ## The document -/

variable {content diagram t : Text} {image : Option Text} {imagesDir : Text}

theorem hasDiagram_eq_false_iff : hasDiagram t = false ↔ ∀ fence ∈ fences, ¬fence <:+: t := by
  simp only [hasDiagram, List.any_eq_false, Bool.not_eq_true, Text.occursIn_eq_false_iff]

theorem hasDiagram_of_infix (h : fenceOpen <:+: t) : hasDiagram t = true := by
  rw [← Bool.not_eq_false, hasDiagram_eq_false_iff]
  exact fun hfence => hfence fenceOpen List.mem_cons_self h

/-- A document that has a diagram is left alone. -/
theorem insert?_eq_none_iff :
    insert? content diagram image imagesDir = none ↔ hasDiagram content = true := by
  unfold insert?
  split
  · next h => simp [h]
  · next h =>
    dsimp only
    split
    · simp [h]
    · split <;> simp [h]

section Placement

variable {before after : List Text} {found : Text}

theorem insert?_of_architecture (h : hasDiagram content = false)
    (hbreak : breakAt? isArchitectureHeading (lines content) = some (before, found, after)) :
    insert? content diagram image imagesDir =
      some (unlines before ++ found ++ (['\n'] : Text) ++ sectionText diagram image imagesDir ++
        (Text.join ['\n'] after).dropWhile (· == ↑ '\n')) := by
  rw [insert?, h, if_neg Bool.false_ne_true]
  dsimp only
  rw [hbreak]

theorem insert?_of_requirements (h : hasDiagram content = false)
    (hnone : breakAt? isArchitectureHeading (lines content) = none)
    (hbreak : breakAt? isRequirementsHeading (lines content) = some (before, found, after)) :
    insert? content diagram image imagesDir =
      some (unlines before ++ heading ++ sectionText diagram image imagesDir ++
        Text.join ['\n'] (found :: after)) := by
  rw [insert?, h, if_neg Bool.false_ne_true]
  dsimp only
  rw [hnone, hbreak]

theorem insert?_of_noHeading (h : hasDiagram content = false)
    (hnone : breakAt? isArchitectureHeading (lines content) = none)
    (hnone' : breakAt? isRequirementsHeading (lines content) = none) :
    insert? content diagram image imagesDir =
      some ((if content.isEmpty then [] else terminated content) ++ "\n" ++ heading ++
        Text.dropEnd (· == '\n') (sectionText diagram image imagesDir) ++ "\n") := by
  rw [insert?, h, if_neg Bool.false_ne_true]
  dsimp only
  rw [hnone, hnone']

end Placement

/-- The heading of a new section as a line. -/
theorem heading_eq : heading = unlines ["## Architecture Diagram"] := by decide

end Readme

end Groundplan

import Groundplan.Text.Basic

/-!
# Diagrams in Markdown

How a diagram is put into a Markdown document: inside a code fence, which viewers draw, or in a
page of its own.

**Insertion** (`Readme.insert?`). A document that has a diagram is left alone. Otherwise the
section goes after the first architecture heading; where there is none, before the first
requirements heading, under a heading of its own; where there is none either, to the end.
Headings are whole lines, compared without regard to case.
-/

namespace Groundplan.Readme

/-! ## Code fences -/

/-- The line that opens the fence of a diagram. -/
def fenceOpen : Text := "```mermaid"

/-- The line that closes the fence. -/
def fenceClose : Text := "```"

/-- The texts by which a diagram in a document is recognised. -/
def fences : List Text := [fenceOpen, "~~~mermaid"]

/-- The document has a diagram. -/
def hasDiagram (t : Text) : Bool := fences.any fun fence => Text.occursIn fence t

/-- A diagram, without the blanks at its end, inside a fence. -/
def fenced (diagram : Text) : Text :=
  fenceOpen ++ "\n" ++ Text.trimEnd diagram ++ "\n" ++ fenceClose ++ "\n"

/-! ## The section -/

/-- The title of an architecture section. -/
def title : Text := "Architecture Diagram"

/-- The heading line that a new section gets. -/
def heading : Text := "## " ++ title ++ "\n"

/-- The note below a diagram. -/
def note : Text := "_This diagram was automatically generated from your infrastructure code._"

/-- An image over the fenced diagram, which is folded away. -/
def withImage (imagesDir image diagram : Text) : Text :=
  "![" ++ title ++ "](" ++ imagesDir ++ "/" ++ image ++ ")\n\n" ++
    "<details>\n<summary>Mermaid source</summary>\n\n" ++ fenced diagram ++ "\n</details>\n"

/-- What stands under the heading: the diagram, with its image if there is one, and the note. -/
def sectionText (diagram : Text) (image : Option Text) (imagesDir : Text) : Text :=
  let body := match image.filter fun name => !name.isEmpty with
    | some name => withImage imagesDir name diagram
    | none => fenced diagram
  "\n" ++ body ++ "\n" ++ note ++ "\n\n"

/-! ## Headings -/

/-- The character is the given lower-case letter when case is ignored. Besides the capital of the
same letter, the dotted and dotless forms of i and the long s count. -/
def isLetter (letter c : CodePoint) : Bool :=
  c.toLower == letter || (letter == 'i' && (c == 'ı' || c == 'İ')) || (letter == 's' && c == 'ſ')

/-- What follows a word, given in lower case, when the text starts with it in any case. -/
def afterWord? : (word t : Text) → Option Text
  | [], t => some t
  | _ :: _, [] => none
  | letter :: word, c :: t => if isLetter letter c then afterWord? word t else none

/-- What follows one to six number signs and at least one space or tab. -/
def afterMarker? (line : Text) : Option Text :=
  let signs := line.takeWhile (· == ↑ '#')
  let rest := line.dropWhile (· == ↑ '#')
  if 1 ≤ signs.length && signs.length ≤ 6 && rest.head?.any isIndent then
    some (rest.dropWhile isIndent)
  else none

/-- Nothing but spaces and tabs. -/
def isBare (t : Text) : Bool := t.all isIndent

/-- The line is an architecture heading: `Architecture` or `Architecture Diagram`. -/
def isArchitectureHeading (line : Text) : Bool :=
  match (afterMarker? line).bind (afterWord? "architecture") with
  | none => false
  | some rest => isBare rest || (rest.head?.any isIndent &&
      ((afterWord? "diagram" (rest.dropWhile isIndent)).any isBare))

/-- The line is a requirements heading. -/
def isRequirementsHeading (line : Text) : Bool :=
  ((afterMarker? line).bind (afterWord? "requirements")).any isBare

/-! ## Insertion -/

/-- A newline at the end, unless there is one. -/
def terminated (t : Text) : Text := if t.getLast? = some ↑ '\n' then t else t ++ (['\n'] : Text)

/-- The lines before the first one that satisfies `p`, that line, and the lines after it. -/
def breakAt? (p : Text → Bool) : List Text → Option (List Text × Text × List Text)
  | [] => none
  | line :: rest =>
    if p line then some ([], line, rest)
    else (breakAt? p rest).map fun (before, found, after) => (line :: before, found, after)

/-- Lines, each with a newline. -/
def unlines (ls : List Text) : Text := ls.flatMap fun line => line ++ (['\n'] : Text)

/-- The document with the diagram inserted; nothing when it has a diagram already. -/
def insert? (content diagram : Text) (image : Option Text) (imagesDir : Text) : Option Text :=
  if hasDiagram content then none
  else
    let body := sectionText diagram image imagesDir
    let ls := Text.lines content
    match breakAt? isArchitectureHeading ls with
    | some (before, found, after) =>
      some (unlines before ++ found ++ (['\n'] : Text) ++ body ++
        (Text.join ['\n'] after).dropWhile (· == ↑ '\n'))
    | none =>
      match breakAt? isRequirementsHeading ls with
      | some (before, found, after) =>
        some (unlines before ++ heading ++ body ++ Text.join ['\n'] (found :: after))
      | none =>
        let start := if content.isEmpty then [] else terminated content
        some (start ++ "\n" ++ heading ++ Text.dropEnd (· == '\n') body ++ "\n")

/-! ## Pages -/

/-- A page with a title and one diagram, and where the diagram comes from if that is known. -/
def page (title diagram : Text) (source : Option Text) : Text :=
  let provenance := match source with
    | some path => "Generated from `" ++ path ++ "`.\n\n"
    | none => []
  "# " ++ title ++ "\n\n" ++ provenance ++ fenced diagram

end Groundplan.Readme

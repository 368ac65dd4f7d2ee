import Groundplan.Artifact
import Groundplan.Readme
import Groundplan.Template.Drawing

/-!
# Diagrams in files

Inserting a diagram into the README of a template, and writing a page of its own. A README gets a
diagram at most once: one that has a diagram, or that cannot be read, is left as it is.
-/

namespace Groundplan.Readme

/-- The README at a path can be read and has a diagram. -/
def isDone (readme : Path) : Session Bool := do
  match ← Session.readText? readme with
  | some content => return hasDiagram content
  | none => return false

/-- Writes the new text of a README, and answers whether that was possible. -/
def overwrite (readme : Path) (content : Text) : Session Bool :=
  Session.recover FailureKind.isSystem
    (do
      Session.writeText readme content
      return true)
    fun f => do
      Session.report (.cannotInsert readme f)
      return false

/-- Inserts a diagram into a README, with an image if `withImage` asks for one, and answers whether
the README has changed. -/
def insertInto (s : Settings) (withImage : Bool) (readme : Path) (diagram : Text) :
    Session Bool := do
  match ← Session.readText? readme with
  | none => return false
  | some content =>
    if hasDiagram content then
      Session.report (.hasDiagram readme)
      return false
    else
      let image ← if withImage then Artifact.renderBeside s diagram readme else pure none
      match insert? content diagram image s.imagesDir with
      | none => return false
      | some content => overwrite readme content

/-- Inserts the drawing of a template into its README, unless that has a diagram. -/
def ensure (s : Settings) (withImage : Bool) (template : Path) : Session Bool := do
  let readme := template ++ Path.ofText s.readmeFile
  if ← Session.isFile readme then
    if ← isDone readme then return false
    else
      let drawing ← Drawing.make s template
      insertInto s withImage readme drawing.diagram
  else
    Session.report (.noReadme s.readmeFile template)
    return false

/-- Writes a page with a diagram, in a directory that is made if it is missing. -/
def writePage (path : Path) (title diagram : Text) (source : Option Path) : Session Unit := do
  Session.ensureDirectory path.parent
  Session.writeText path (page title diagram (source.map Path.toText))

end Groundplan.Readme

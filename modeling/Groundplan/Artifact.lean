import Groundplan.Artifact.Name
import Groundplan.Artifact.Strategy

/-!
# Rendering artifacts

Rendering a diagram into a directory makes the directory, chooses a new name, has the strategies
write the image, and saves the diagram beside it. An image that cannot be made is reported; so is a
diagram that cannot be saved, but its image stays.
-/

namespace Groundplan.Artifact

/-- Saves the diagram of an image beside it, and answers where. -/
def saveDiagram (diagram : Text) (image : Path) : Session (Option Path) := do
  match image.withSuffix? diagramSuffix with
  | none => throw (.noName image)
  | some path =>
    Session.recover (fun k => k.isSystem || k.isValue)
      (do
        Session.writeText path diagram
        return some path)
      fun f => do
        Session.report (.cannotSaveSource path f)
        return none

/-- Makes a directory, and answers whether it is there. -/
def prepare (directory : Path) : Session Bool :=
  Session.recover FailureKind.isSystem
    (do
      Session.ensureDirectory directory
      return true)
    fun f => do
      Session.report (.cannotMakeDirectory directory f)
      return false

/-- Renders a diagram into a directory with the given strategies. The answer is the name of the
image. -/
def renderWith (strategies : List Strategy) (start diagram : Text) (directory : Path) :
    Session (Option Text) := do
  if ← prepare directory then
    let name ← uniqueName directory start
    let target := directory ++ Path.ofText name
    if ← Strategy.first strategies diagram directory target then
      let _ ← saveDiagram diagram target
      return some name
    else
      Session.report (.notRendered target)
      return none
  else return none

/-- Renders a diagram into a directory. -/
def render (s : Settings) (diagram : Text) (directory : Path) : Session (Option Text) :=
  renderWith (Strategy.ofSettings s) s.artifactPrefix diagram directory

/-- Renders a diagram into the image directory next to a document. -/
def renderBeside (s : Settings) (diagram : Text) (document : Path) : Session (Option Text) :=
  render s diagram (document.parent ++ Path.ofText s.imagesDir)

end Groundplan.Artifact

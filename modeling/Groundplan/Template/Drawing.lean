import Groundplan.Flowchart
import Groundplan.Template.Source

/-!
# The drawing of a template

The flowchart of the resources that a template declares, or the placeholder if it declares none.
-/

namespace Groundplan

/-- A diagram, the file it was made from, and the resources it shows. -/
structure Drawing where
  diagram : Text
  source : Option Path
  resources : ResourceSet

namespace Drawing

/-- The drawing shows the placeholder. -/
def isPlaceholder (d : Drawing) : Bool := d.resources.entries.isEmpty

/-- The drawing of an infrastructure. -/
def ofInfrastructure (s : Settings) (i : Infrastructure) : Drawing :=
  if i.resources.entries.isEmpty then ⟨Flowchart.placeholder, i.source, ∅⟩
  else
    let resources := ResourceSet.infer s i.resources
    ⟨Flowchart.draw s resources, i.source, resources⟩

/-- The drawing of a template. -/
def make (s : Settings) (template : Path) : Session Drawing :=
  ofInfrastructure s <$> Infrastructure.load s template

end Drawing

end Groundplan

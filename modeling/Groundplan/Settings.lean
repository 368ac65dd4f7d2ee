import Groundplan.Text.Basic

/-!
# Settings

The conventions that extraction, inference, rendering and insertion follow: where a template keeps
its files and what its resources are called. Every convention has a default.
-/

namespace Groundplan

/-- The conventions of a template. -/
structure Settings where
  /-- The directory that holds the infrastructure files. -/
  infraDir : Text := "infra"
  /-- The infrastructure file that goes before all others. -/
  mainFile : Text := "main.bicep"
  /-- How the name of an infrastructure file ends. -/
  sourceSuffix : Text := ".bicep"
  /-- The document that a diagram is inserted into. -/
  readmeFile : Text := "README.md"
  /-- The directory that diagrams are rendered into. -/
  imagesDir : Text := "images"
  /-- The rendered diagram that new artifacts are copied from. -/
  latestArtifact : Text := "diagram.png"
  /-- How the name of a new artifact starts. -/
  artifactPrefix : Text := "architecture-diagram"
  /-- The identifier of the plan that hosted compute runs on. -/
  planId : Text := "appServicePlan"
  /-- The property that places a resource on the plan. -/
  serverFarmProperty : Text := "serverFarmId"
  /-- The types of hosted compute. -/
  hostedComputeTypes : List Text := ["Microsoft.Web/sites"]
  /-- The tag that names the service a resource hosts. -/
  serviceTagKey : Text := "azd-service-name"
  /-- Whether the external renderer is tried. -/
  useRenderer : Bool := false
  /-- How many seconds the external renderer may take. -/
  rendererTimeout : Nat := 30
deriving DecidableEq

instance : Inhabited Settings := ⟨{}⟩

end Groundplan

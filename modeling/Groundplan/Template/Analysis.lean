import Groundplan.Template.Configuration
import Groundplan.Template.Drawing
import Groundplan.Text.Json

/-!
# The analysis of a template

What a template has and lacks: its directories, the text of its configuration, its drawing, and
what is recommended. A directory without a readable configuration is no template.
-/

namespace Groundplan

/-- What is known about a template. -/
structure Analysis where
  hasInfrastructure : Bool
  hasApplication : Bool
  /-- The text of the configuration document. -/
  configuration : Text
  recommendations : List Text
  diagram : Text

namespace Analysis

/-- What is said about a directory that is no template. -/
def noTemplate : Text := "Invalid template directory or missing azure.yaml file"

/-- The directories that hold the application of a template. -/
def applicationDirs : List Text := ["src", "app"]

/-- What is recommended where there is no infrastructure directory. -/
def addInfrastructure (infraDir : Text) : Text :=
  "Consider adding infrastructure as code in an \"" ++ infraDir ++ "/\" directory"

/-- What is recommended where there is no application. -/
def addApplication : Text := "Consider adding application code in a \"src/\" or \"app/\" directory"

/-- What is recommended where the infrastructure directory declares no resources. -/
def addResources (infraDir : Text) : Text :=
  "No resources found in " ++ infraDir ++ "/; the architecture diagram is a placeholder"

/-- What is recommended for a template. -/
def recommend (infraDir : Text) (hasInfrastructure hasApplication isPlaceholder : Bool) :
    List Text :=
  (if hasInfrastructure then [] else [addInfrastructure infraDir]) ++
    (if hasApplication then [] else [addApplication]) ++
    (if hasInfrastructure && isPlaceholder then [addResources infraDir] else [])

/-- The text of the configuration of a template. -/
def configurationText? (template : Path) : Session (Option Text) := do
  match ← Template.findConfiguration template with
  | some path => Session.readText? path
  | none => return none

/-- The analysis of a template; nothing for a directory that is none. -/
def make? (s : Settings) (template : Path) : Session (Option Analysis) := do
  match ← configurationText? template with
  | none => return none
  | some configuration =>
    let hasInfrastructure ← Session.isDirectory (template ++ Path.ofText s.infraDir)
    let hasApplication ← applicationDirs.anyM fun name => Session.isDirectory (template.child name)
    let drawing ← Drawing.make s template
    return some {
      hasInfrastructure
      hasApplication
      configuration
      recommendations := recommend s.infraDir hasInfrastructure hasApplication drawing.isPlaceholder
      diagram := drawing.diagram }

/-- The analysis as JSON. -/
def json (a : Analysis) : Text :=
  Json.objectBlock 0 [("has_infra", Json.bool a.hasInfrastructure),
    ("has_app", Json.bool a.hasApplication), ("config_file", Json.string a.configuration),
    ("recommendations", Json.arrayBlock 1 (a.recommendations.map Json.string)),
    ("diagram", Json.string a.diagram)]

/-- What is said about a directory that is no template, as JSON. -/
def noTemplateJson : Text := Json.objectBlock 0 [("error", Json.string noTemplate)]

end Analysis

end Groundplan

import Groundplan.Workspace.Document

/-!
# Settings documents

A document that overrides settings holds them at its top, or below `diagram` if that is its only
key.
-/

namespace Groundplan.Settings

/-- The key that the settings of a document may stand below. -/
def sectionKey : Text := "diagram"

/-- The settings inside a document. -/
def sectionOf? (entries : List (Value × Value)) : Option (List (Value × Value)) :=
  match entries with
  | [(.text key, value)] =>
    if key = sectionKey then
      match value with
      | .map inner => some inner
      | _ => none
    else some entries
  | _ => some entries

/-- The default settings with those of a document. -/
def load (path : Path) : Session Settings := do
  unless ← Session.exists? path do throw (.missingSettings path)
  let entries ← Session.readMapping path
  match sectionOf? entries with
  | none => throw (.sectionNotMapping path)
  | some entries =>
    match ({} : Settings).override entries with
    | .ok s => return s
    | .error e => throw (.settings e)

end Groundplan.Settings

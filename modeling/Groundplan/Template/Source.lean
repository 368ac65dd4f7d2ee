import Groundplan.Declaration
import Groundplan.Settings
import Groundplan.Workspace

/-!
# The infrastructure of a template

The resources of a template are declared in one file of its infrastructure directory: the main file
if there is one, else the file whose name comes first among those with the right ending.

What stands in the way of reading the infrastructure is reported, and there are no resources then
(`Infrastructure.load`). The exception is a directory that cannot even be asked for.
-/

namespace Groundplan

/-- Where the resources of a template are declared, and the resources. -/
structure Infrastructure where
  source : Option Path := none
  resources : ResourceSet := ∅

namespace Infrastructure

/-- The first name, by code points, of the files in a directory whose names have the given
ending. -/
def firstName? (directory : Path) (ending : Text) : Session (Option Text) := do
  let files ← (← Session.names directory).filterM fun name => Session.isFile (directory.child name)
  return (Text.sort (files.filter (Text.endsWith ending))).head?

/-- The infrastructure file of a template; nothing if there is none or, with a report, if its
directory cannot be listed. -/
def find (s : Settings) (template : Path) : Session (Option Path) := do
  let directory := template ++ Path.ofText s.infraDir
  let main := directory ++ Path.ofText s.mainFile
  Session.recover FailureKind.isSystem
    (do
      if ← Session.isFile main then return some main
      else return (← firstName? directory s.sourceSuffix).map directory.child)
    fun f => do
      Session.report (.cannotScan directory f)
      return none

/-- The resources that the infrastructure file of a template declares. -/
def load (s : Settings) (template : Path) : Session Infrastructure := do
  match ← find s template with
  | none =>
    Session.report (.noInfrastructure template)
    return {}
  | some source =>
    Session.recover (fun k => k.isSystem || k = .undecodable)
      (do
        let resources := ResourceSet.extract (← Session.readText source)
        Session.report (.extracted resources.entries.length source)
        return { source, resources })
      fun f => do
        Session.report (.cannotReadSource source f)
        return { source }

end Infrastructure

end Groundplan

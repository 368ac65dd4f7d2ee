import Groundplan.Workspace

/-!
# Names of artifacts

An artifact is an image with its diagram beside it. Both have the same name up to the suffix: a
prefix and a stamp, which is the time in milliseconds or the first number after it for which
neither file exists.
-/

namespace Groundplan.Artifact

/-- The suffix of an image. -/
def imageSuffix : Text := ".png"

/-- The suffix of a diagram. -/
def diagramSuffix : Text := ".mmd"

/-- The common part of the names of an artifact. -/
def stamped (start : Text) (stamp : Nat) : Text := start ++ "-" ++ Text.ofNat stamp

/-- The name of the image with a stamp. -/
def imageName (start : Text) (stamp : Nat) : Text := stamped start stamp ++ imageSuffix

/-- The name of the diagram with a stamp. -/
def diagramName (start : Text) (stamp : Nat) : Text := stamped start stamp ++ diagramSuffix

/-- Neither file of the artifact with a stamp exists. -/
def isFree (directory : Path) (start : Text) (stamp : Nat) : Session Bool := do
  if ← Session.exists? (directory ++ Path.ofText (imageName start stamp)) then return false
  else return !(← Session.exists? (directory ++ Path.ofText (diagramName start stamp)))

/-- The first free stamp of `tries` many; the one after them if none is free. -/
def freeStamp (directory : Path) (start : Text) : (tries stamp : Nat) → Session Nat
  | 0, stamp => return stamp
  | tries + 1, stamp => do
    if ← isFree directory start stamp then return stamp
    else freeStamp directory start tries (stamp + 1)

/-- The name of a new image. A stamp is taken only by an entry of its own, so that one more than
there are entries is enough to try. -/
def uniqueName (directory : Path) (start : Text) : Session Text := do
  let w ← get
  imageName start <$> freeStamp directory start (w.store.entries.entries.length + 1) w.clock

end Groundplan.Artifact

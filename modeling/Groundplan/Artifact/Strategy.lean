import Groundplan.Settings
import Groundplan.Text.Base64
import Groundplan.Text.Json
import Groundplan.Workspace

/-!
# Strategies for images

A strategy tries to write the image of a diagram and says whether it did. There are three: the
external renderer, a copy of an image that was rendered before, and a placeholder. Strategies are
tried in order until one succeeds (`Strategy.first`); one that fails is passed over.
-/

namespace Groundplan

/-- How an image is made from a diagram, in a directory, at a path. -/
abbrev Strategy := (diagram : Text) → (directory target : Path) → Session Bool

namespace Strategy

/-! ## The external renderer -/

/-- What the settings file of the external renderer holds. -/
def rendererSettings : Text :=
  Json.object [("args",
    Json.array [Json.string "--no-sandbox", Json.string "--disable-setuid-sandbox"])]

/-- How the external renderer is started on a diagram. -/
def rendererRequest (timeout : Nat) (diagram : Text) : RendererRequest where
  words := [.word "-i", .inputFile, .word "-o", .outputFile, .word "-b", .word "white",
    .word "-p", .settingsFile, .word "--quiet"]
  timeout
  settings := rendererSettings
  diagram

/-- The most seconds that a run can be given: as many as have their milliseconds in 31 bits. -/
def longestTimeout : Nat := 2147483

/-- The reason for ending a run that has taken its time. -/
def expiredReason (timeout : Nat) : Text := "timed out after " ++ Text.ofNat timeout ++ " seconds"

/-- Runs the external renderer, if there is one. The diagram is written to its input file first, and
time is taken only of a renderer that could be started. -/
def external (timeout : Nat) : Strategy := fun diagram _ target => do
  let renderer := (← get).renderer
  if renderer matches .absent then return false
  if let .error e := Utf8.encode diagram then throw (.unencodable e)
  match renderer with
  | .absent => return false
  | .unusable reason =>
    Session.report (.rendererUnusable reason)
    return false
  | .program run =>
    if longestTimeout < timeout then throw (.overlongTimeout timeout)
    match run (rendererRequest timeout diagram) with
    | .expired =>
      Session.report (.rendererUnusable (expiredReason timeout))
      return false
    | .garbled e => throw (.undecodable e)
    | .ended true _ (some image) =>
      Session.writeBytes target image
      return true
    | .ended _ complaint _ =>
      Session.report (.rendererFailed complaint)
      return false

/-! ## Copies and placeholders -/

/-- Copies the image with the given name in the directory, if there is one. -/
def copy (name : Text) : Strategy := fun _ directory target => do
  let latest := directory ++ Path.ofText name
  if ← Session.isFile latest then
    Session.recover FailureKind.isSystem
      (do
        Session.writeBytes target (← Session.readBytes latest)
        Session.report (.copied latest.name target.name)
        return true)
      fun f => do
        Session.report (.cannotCopy latest f)
        return false
  else return false

/-- An image of one transparent pixel. -/
def pixel : List UInt8 :=
  (Base64.decode? ("iVBORw0KGgoAAAANSUhEUgAAAAEAAAABCAQAAAC1HAwCAAAAC0lEQVR42mNkYAAAAAYAAjCB0C8" ++
    "AAAAASUVORK5CYII=")).getD []

/-- Writes the transparent pixel. -/
def placeholder : Strategy := fun _ _ target =>
  Session.recover FailureKind.isSystem
    (do
      Session.writeBytes target pixel
      Session.report (.placed target.name)
      return true)
    fun f => do
      Session.report (.cannotPlace target f)
      return false

/-! ## Order -/

/-- The strategies that settings ask for: the external renderer only if it is switched on. -/
def ofSettings (s : Settings) : List Strategy :=
  (if s.useRenderer then [external s.rendererTimeout] else []) ++
    [copy s.latestArtifact, placeholder]

/-- Tries one strategy. Its failure is reported and counts as no success. -/
def attempt (strategy : Strategy) : Strategy := fun diagram directory target =>
  Session.recover (fun k => k.isSystem || k.isValue) (strategy diagram directory target) fun f => do
    Session.report (.strategyFailed f)
    return false

/-- The strategy that tries others in order until one succeeds. -/
def first : List Strategy → Strategy
  | [], _, _, _ => return false
  | strategy :: rest, diagram, directory, target => do
    if ← attempt strategy diagram directory target then return true
    else first rest diagram directory target

end Strategy

end Groundplan

import Groundplan.CommandLine
import Groundplan.Yaml.Document
import Std.Time.DateTime.Timestamp

/-!
# The program

Runs a command line on the files of the machine. The places that the run can look at are read into a
store, the session runs on it, and what the session has changed is written back. Documents are read
with `Yaml.reader`; no external renderer is started.
-/

namespace Groundplan.Main

/-- The location that a path names. -/
def locate (here : Location) (p : Path) : Location :=
  p.names.foldl
    (fun l name => if name = (['.', '.'] : Text) then l.dropLast else l ++ [.ofText name])
    (if p.isAbsolute then [] else here)

/-- The string of a text. Lone surrogates, which a string cannot hold, are escaped. -/
def stringOf (t : Text) : String :=
  let shown := t.flatMap fun c => if c.isSurrogate then Text.hexEscape c.toNat else [c]
  String.ofList (shown.filterMap fun c => match c with
    | .scalar c => some c
    | .surrogate _ => none)

/-- The text of a location. -/
def textOf (l : Location) : String := stringOf (↑ '/' :: Text.join ['/'] (l.map FileName.text))

/-- The paths that a run of the program can ask about, but for its settings document. -/
def places (s : Settings) (arguments : CommandLine.Arguments) (template : Path) : List Path :=
  let infra := template ++ Path.ofText s.infraDir
  let readme := template ++ Path.ofText s.readmeFile
  let given := [CommandLine.Opt.page, .directory].filterMap fun o =>
    (arguments.taken.value? o).map Path.ofText
  [template, infra, infra ++ Path.ofText s.mainFile, template ++ Path.ofText s.imagesDir, readme,
    readme.parent ++ Path.ofText s.imagesDir] ++ given ++ given.map Path.parent

/-- Adds what the machine has at a location. -/
def readEntry (s : Store) (l : Location) : IO Store := do
  let path := (← IO.currentDir) / textOf l
  try
    if ← path.isDir then return s.put l .directory
    else if ← path.pathExists then return s.put l (.file (← IO.FS.readBinFile path).toList)
    else return s
  catch _ => return s

/-- Adds what the machine has at a location, above it and directly below it. -/
def readPlace (s : Store) (l : Location) : IO Store := do
  let mut s := s
  for n in List.range l.length do
    s ← readEntry s (l.take (n + 1))
  let path := (← IO.currentDir) / textOf l
  if ← path.isDir then
    for entry in ← path.readDir do
      s ← readEntry s (l ++ [(entry.fileName : FileName)])
  return s

/-- Writes an entry that the run has changed. -/
def writeEntry (l : Location) : Entry → IO Unit
  | .directory => IO.FS.createDirAll (textOf l)
  | .file bytes => IO.FS.writeBinFile (textOf l) ⟨bytes.toArray⟩

/-- Writes what a run has changed. -/
def writeChanges (before after : Store) : IO Unit := do
  for (l, e) in after.entries.entries do
    if before.lookup? l ≠ some e then writeEntry l e

/-- The wording of failures on the error output. -/
def wording : CommandLine.Wording :=
  { failure := Failure.message, reason := id }

/-- The workspace with everything that a command line asks about. -/
def prepare (words : List Text) : IO Workspace := do
  let here := (Path.ofText (← IO.currentDir).toString).names.map FileName.ofText
  let clock := (← Std.Time.Timestamp.now).toMillisecondsSinceUnixEpoch.toInt.toNat
  let mut w : Workspace := { here, clock, reader := Yaml.reader }
  w := { w with store := ← readPlace w.store here }
  match CommandLine.Arguments.read words with
  | .error _ => return w
  | .ok arguments =>
    if let some t := arguments.taken.value? .settings then
      w := { w with store := ← readPlace w.store (locate here (Path.ofText t)) }
    let s := match (CommandLine.loadSettings arguments.taken).run w with
      | .ok (.ok s) _ => s
      | _ => {}
    for place in places s arguments (CommandLine.templateOf here arguments) do
      w := { w with store := ← readPlace w.store (locate here place) }
    return w

/-- Runs the program with the words of a command line, and answers the exit status. -/
def run (words : List Text) : IO UInt32 := do
  let w ← prepare words
  match (CommandLine.run words).run w with
  | .ok outcome after =>
    writeChanges w.store after.store
    for line in outcome.errorLines wording after.events do
      IO.eprintln (stringOf line)
    match Utf8.encode outcome.output with
    | .ok bytes =>
      (← IO.getStdout).write ⟨bytes.toArray⟩
      return UInt32.ofNat (CommandLine.exitStatus (.ok outcome))
    | .error e => fail (.unencodable e)
  | .error f after =>
    writeChanges w.store after.store
    fail f
where
  /-- Says what has failed, and answers the exit status. -/
  fail (f : Failure) : IO UInt32 := do
    IO.eprintln (stringOf ("error: " ++ f.message))
    return UInt32.ofNat (CommandLine.exitStatus (.error f))

end Groundplan.Main

/-- Runs the program. -/
def main (words : List String) : IO UInt32 :=
  Groundplan.Main.run (words.map Groundplan.Text.ofString)

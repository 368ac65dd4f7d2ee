import Groundplan.Text.Lines
import Groundplan.Workspace.Event

/-!
# Workspaces

Everything that an activity on files can see and change: the store of files with the working
directory, the clock, the external renderer, the reader of documents, and the events reported so
far.

An activity (`Session`) is a function on workspaces that ends with a result or a failure, and with
the changed workspace in either case. What it did before a failure stays done.
-/

namespace Groundplan

/-! ## The external renderer -/

/-- A word on the command line of the external renderer. -/
inductive RendererWord where
  | word (t : Text)
  | inputFile
  | outputFile
  | settingsFile
deriving DecidableEq, Repr

/-- What the external renderer is started with. -/
structure RendererRequest where
  words : List RendererWord
  /-- How many seconds it may take. -/
  timeout : Nat
  /-- What the settings file holds. -/
  settings : Text
  /-- What the input file holds. -/
  diagram : Text

/-- How a run of the external renderer ended. -/
inductive RendererReply where
  /-- It took longer than it may. -/
  | expired
  /-- What it wrote to its outputs is no text. -/
  | garbled (e : Utf8.Malformed)
  /-- It came to its end, with what it wrote to its error output and the output file, if it wrote
  one. -/
  | ended (succeeded : Bool) (complaint : Text) (output : Option (List UInt8))

/-- The external renderer. -/
inductive Renderer where
  | absent
  /-- It is there but cannot be started. -/
  | unusable (reason : Text)
  | program (run : RendererRequest → RendererReply)

/-! ## Workspaces and sessions -/

/-- What an activity can see and change. -/
structure Workspace where
  store : Store := {}
  /-- The working directory. -/
  here : Location := []
  /-- The milliseconds that the clock shows. -/
  clock : Nat := 0
  renderer : Renderer := .absent
  reader : Yaml.Reader
  /-- The events, from first to last. -/
  events : List Event := []

/-- A workspace without files, where every document is empty. -/
instance : Inhabited Workspace := ⟨{ reader := fun _ => .ok .null }⟩

/-- An activity on a workspace. -/
abbrev Session := EStateM Failure Workspace

namespace Session

/-- Reports an event. -/
def report (e : Event) : Session Unit := modify fun w => { w with events := w.events ++ [e] }

/-- The answer of a question about a path. -/
def ask {α : Type} (path : Path) (question : Store → Location → Path → Except FileFault α) :
    Session α := do
  let w ← get
  match question w.store w.here path with
  | .ok a => return a
  | .error e => throw (.file e path)

/-- Changes the store at a path. -/
def change (path : Path) (f : Store → Location → Path → Except FileFault Store) : Session Unit := do
  let store ← ask path f
  modify fun w => { w with store }

/-- The path leads to a file or a directory. -/
def exists? (path : Path) : Session Bool := ask path Store.exists?

/-- The path leads to a file. -/
def isFile (path : Path) : Session Bool := ask path Store.isFile

/-- The path leads to a directory. -/
def isDirectory (path : Path) : Session Bool := ask path Store.isDirectory

/-- The names in a directory, as texts. -/
def names (path : Path) : Session (List Text) := do
  return (← ask path Store.list).map FileName.text

/-- The bytes of a file. -/
def readBytes (path : Path) : Session (List UInt8) := ask path Store.read

/-- The text of a file, with newlines as the only ends of lines. -/
def readText (path : Path) : Session Text := do
  match Utf8.decode (← readBytes path) with
  | .ok t => return Text.universalNewlines t
  | .error e => throw (.undecodable e)

/-- Writes a file. -/
def writeBytes (path : Path) (bytes : List UInt8) : Session Unit :=
  change path fun s here path => s.write here path bytes

/-- Writes a text to a file as it is. The file is opened first: a text that cannot be encoded leaves
it empty. -/
def writeText (path : Path) (t : Text) : Session Unit := do
  writeBytes path (Utf8.written t)
  if let .error e := Utf8.encode t then throw (.unencodable e)

/-- Makes a directory and those above it that are missing. -/
def ensureDirectory (path : Path) : Session Unit := do
  let w ← get
  let (outcome, store) := w.store.ensureDirectories w.here path
  set { w with store }
  match outcome with
  | .ok () => return ()
  | .error e => throw (.file e path)

/-- Runs an activity; a failure of a class that satisfies `p` is handled. -/
def recover {α : Type} (p : FailureKind → Bool) (activity : Session α)
    (handle : Failure → Session α) : Session α :=
  tryCatch activity fun f => if p f.kind then handle f else throw f

theorem run_recover_of_ok {α : Type} {p : FailureKind → Bool} {activity : Session α}
    {handle : Failure → Session α} {w w' : Workspace} {a : α} (h : activity.run w = .ok a w') :
    (recover p activity handle).run w = .ok a w' := by
  have h : activity w = .ok a w' := h
  show EStateM.tryCatch activity (fun f => if p f.kind then handle f else throw f) w = _
  delta EStateM.tryCatch
  rw [h]

/-- The text of a file; nothing, with a report, if it cannot be read. -/
def readText? (path : Path) : Session (Option Text) :=
  recover (fun k => k.isSystem || k = .undecodable) (some <$> readText path) fun f => do
    report (.cannotReadText path f)
    return none

end Session

end Groundplan

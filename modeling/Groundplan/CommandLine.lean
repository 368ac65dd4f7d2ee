import Groundplan.CommandLine.Arguments
import Groundplan.Readme.Insertion
import Groundplan.Settings.Document
import Groundplan.Template.Analysis
import Groundplan.Validation

/-!
# The command line

Running the program is a session on a workspace that ends with an exit status, what is written to
the output, and complaints for the error output (`CommandLine.run`). Events at least as important
as warnings go to the error output too, or all of them if that is asked for; they happen before the
complaints are made, and stand before them.

**Exit status.** 0 is success. 1 is a drawing that could not be rendered, or a directory that is no
template. 2 is a command line that makes no sense, settings that cannot be used, and a template
that does not pass validation: one with errors or, where strictness is asked for, warnings.

A failure that no command recovers from ends the session without an outcome. Then nothing is
printed, and the status is 1 (`exitStatus`).
-/

namespace Groundplan.CommandLine

/-! ## Outcomes -/

/-- What the program says about its run on the error output. -/
inductive Complaint where
  | warning (message : Text)
  | error (message : Text)
  | notRendered (directory : Path)
  | invalidSettings (f : Failure)
  | usage (program : Text) (e : UsageError)

/-- How a run ends. -/
structure Outcome where
  status : Nat
  output : Text := []
  complaints : List Complaint := []
  /-- The least important events that are shown. -/
  level : Level := .warning

/-- How failures and the reasons that other programs give are worded in events. -/
structure Wording where
  failure : Failure → Text
  reason : Text → Text

/-- The line of a complaint. -/
def Complaint.line : Complaint → Text
  | warning message => "warning: " ++ message
  | error message => "error: " ++ message
  | notRendered directory => "error: could not render diagram into " ++ directory.toText
  | invalidSettings f => "error: invalid config: " ++ f.message
  | usage program e => program ++ ": error: " ++ e.message

/-- The line of an event. -/
def eventLine (w : Wording) (e : Event) : Text :=
  e.level.name ++ ": infra_diagram." ++ e.topic.name ++ ": " ++ e.message w.failure w.reason

/-- The exit status of the program. -/
def exitStatus : Except Failure Outcome → Nat
  | .ok outcome => outcome.status
  | .error _ => 1

/-- What the program has printed. -/
def printed : Except Failure Outcome → Text
  | .ok outcome => outcome.output
  | .error _ => []

/-- The lines of the error output: events, then complaints. -/
def Outcome.errorLines (o : Outcome) (w : Wording) (events : List Event) : List Text :=
  (events.filter fun e => o.level.rank ≤ e.level.rank).map (eventLine w) ++
    o.complaints.map Complaint.line

/-! ## Validation -/

/-- What is complained about after validation. Errors are only shown to a run that ends with
them. -/
def complaintsOf (report : Report) (failing : Bool) : List Complaint :=
  report.warnings.map .warning ++ if failing then report.errors.map .error else []

/-- The report does not pass: it has errors or, for a strict run, warnings. -/
def isFailing (strict : Bool) (report : Report) : Bool :=
  !report.errors.isEmpty || (strict && !report.warnings.isEmpty)

/-- The drawing of a template and the report on its resources. -/
def drawAndValidate (s : Settings) (template : Path) : Session (Drawing × Report) := do
  let drawing ← Drawing.make s template
  let configuration ← Template.loadConfiguration template
  let services := Template.services (configuration.getD [])
  return (drawing, drawing.resources.validate services)

/-! ## Commands -/

/-- The title of a page for which none is given. -/
def defaultTitle : Text := "Architecture"

/-- Prints the diagram of a template, or writes it into a page. -/
def generate (s : Settings) (taken : Taken) (template : Path) : Session Outcome := do
  let (drawing, report) ← drawAndValidate s template
  let failing := isFailing (taken.has .strict) report
  let complaints := complaintsOf report failing
  if failing then return { status := 2, complaints }
  else match taken.value? .page with
    | none => return { status := 0, output := drawing.diagram, complaints }
    | some page => do
      let title := (taken.value? .title).getD defaultTitle
      Readme.writePage (Path.ofText page) title drawing.diagram drawing.source
      return { status := 0, complaints }

/-- Validates the resources of a template. -/
def validate (s : Settings) (taken : Taken) (template : Path) : Session Outcome := do
  let (_, report) ← drawAndValidate s template
  let failing := isFailing (taken.has .strict) report
  return { status := if failing then 2 else 0, complaints := complaintsOf report failing }

/-- Renders the diagram of a template, and prints where the image is. -/
def render (s : Settings) (taken : Taken) (template : Path) : Session Outcome := do
  let drawing ← Drawing.make s template
  let directory := match taken.value? .directory with
    | some t => Path.ofText t
    | none => template ++ Path.ofText s.imagesDir
  match ← Artifact.render s drawing.diagram directory with
  | some name => return { status := 0, output := (directory ++ Path.ofText name).toText ++ "\n" }
  | none => return { status := 1, complaints := [.notRendered directory] }

/-- Inserts the diagram of a template into its README, and prints whether it did. -/
def insert (s : Settings) (taken : Taken) (template : Path) : Session Outcome := do
  let inserted ← Readme.ensure s (!taken.has .noImage) template
  return { status := 0, output := if inserted then "inserted\n" else "skipped\n" }

/-- Prints the analysis of a template. -/
def analyze (s : Settings) (template : Path) : Session Outcome := do
  match ← Analysis.make? s template with
  | some analysis => return { status := 0, output := analysis.json ++ "\n" }
  | none => return { status := 1, output := Analysis.noTemplateJson ++ "\n" }

/-- Runs a command. -/
def perform (s : Settings) (arguments : Arguments) (template : Path) : Session Outcome :=
  match arguments.command with
  | .generate => generate s arguments.taken template
  | .validate => validate s arguments.taken template
  | .render => render s arguments.taken template
  | .insert => insert s arguments.taken template
  | .analyze => analyze s template

/-! ## The program -/

/-- What is printed when help is asked for. -/
def helpText : Option Command → Text
  | none => "usage: " ++ program ++ " [options] command\n\ncommands: " ++
      Text.join ", " (Command.all.map Command.name) ++ "\noptions: " ++
      Text.join ", " (Command.commonOptions.map Opt.display) ++ "\n"
  | some command => "usage: " ++ programOf command ++ " [options] [template]\n\noptions: " ++
      Text.join ", " (command.options.map Opt.display) ++ "\n"

/-- Settings that cannot be used because they are missing or wrong, and not because reading them
went wrong. -/
def isUnusable (k : FailureKind) : Bool := k = .missing || k.isValue || k = .type

/-- The settings that a command line asks for, or why they cannot be used. -/
def loadSettings (taken : Taken) : Session (Except Failure Settings) :=
  match taken.value? .settings with
  | none => return .ok {}
  | some t => Session.recover isUnusable (.ok <$> Settings.load (Path.ofText t)) fun f =>
      return .error f

/-- The template that a command works on: the one that is given, or the working directory. -/
def templateOf (here : Location) (arguments : Arguments) : Path :=
  match arguments.template with
  | some t => Path.ofText t
  | none => ⟨['/'], here.map FileName.text⟩

/-- Runs the program with the words of a command line. -/
def run (words : List Text) : Session Outcome := do
  match Arguments.read words with
  | .error (.help command) => return { status := 0, output := helpText command }
  | .error (.usage program e) => return { status := 2, complaints := [.usage program e] }
  | .ok arguments =>
    let level := if arguments.taken.has .verbose then Level.debug else .warning
    match ← loadSettings arguments.taken with
    | .error f => return { status := 2, complaints := [.invalidSettings f], level }
    | .ok s =>
      let outcome ← perform s arguments (templateOf (← get).here arguments)
      return { outcome with level }

end Groundplan.CommandLine

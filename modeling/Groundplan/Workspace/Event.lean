import Groundplan.Workspace.Failure

/-!
# Events

What an activity reports while it goes on: files it found, read, wrote or could not, and what it
does instead. Every event has a level, a topic and a message.
-/

namespace Groundplan

/-- How important an event is. -/
inductive Level where
  | debug
  | info
  | warning
  | error
deriving DecidableEq, Repr

namespace Level

/-- The name of a level. -/
def name : Level → Text
  | debug => "DEBUG"
  | info => "INFO"
  | warning => "WARNING"
  | error => "ERROR"

/-- The place of a level among all. -/
def rank : Level → Nat
  | debug => 0
  | info => 1
  | warning => 2
  | error => 3

end Level

/-- What an event is about. -/
inductive Topic where
  | extraction
  | documents
  | rendering
  | readme
deriving DecidableEq, Repr

/-- The name of a topic. -/
def Topic.name : Topic → Text
  | extraction => "extract"
  | documents => "io"
  | rendering => "render"
  | readme => "readme"

/-- What happened. -/
inductive Event where
  | cannotScan (directory : Path) (f : Failure)
  | noInfrastructure (template : Path)
  | cannotReadSource (path : Path) (f : Failure)
  | extracted (count : Nat) (path : Path)
  | repaired (path : Path) (count : Nat)
  | repairedLine (path : Path) (line : Nat) (before after : Text)
  | cannotLoadTemplate (path : Path) (f : Failure)
  | cannotReadText (path : Path) (f : Failure)
  | rendererUnusable (reason : Text)
  | rendererFailed (complaint : Text)
  | copied (source target : Text)
  | cannotCopy (path : Path) (f : Failure)
  | placed (target : Text)
  | cannotPlace (path : Path) (f : Failure)
  | strategyFailed (f : Failure)
  | notRendered (target : Path)
  | cannotMakeDirectory (path : Path) (f : Failure)
  | cannotSaveSource (path : Path) (f : Failure)
  | hasDiagram (readme : Path)
  | noReadme (name : Text) (template : Path)
  | cannotInsert (readme : Path) (f : Failure)

namespace Event

/-- The level of an event. -/
def level : Event → Level
  | extracted .. | rendererUnusable .. | rendererFailed .. => .debug
  | noInfrastructure .. | copied .. | placed .. | hasDiagram .. => .info
  | cannotReadText .. | notRendered .. | cannotMakeDirectory .. | cannotInsert .. => .error
  | _ => .warning

/-- The topic of an event. -/
def topic : Event → Topic
  | cannotScan .. | noInfrastructure .. | cannotReadSource .. | extracted .. => .extraction
  | repaired .. | repairedLine .. | cannotLoadTemplate .. | cannotReadText .. => .documents
  | hasDiagram .. | noReadme .. | cannotInsert .. => .readme
  | _ => .rendering

/-- The message of an event. How failures and the reasons of other programs are worded in it is up
to the caller. -/
def message (showFailure : Failure → Text) (showReason : Text → Text) : Event → Text
  | cannotScan directory f => "could not scan " ++ directory.toText ++ ": " ++ showFailure f
  | noInfrastructure template => "no infrastructure file found under " ++ template.toText
  | cannotReadSource path f => "could not read " ++ path.toText ++ ": " ++ showFailure f
  | extracted count path =>
    "extracted " ++ Text.ofNat count ++ " resource(s) from " ++ path.toText
  | repaired path count =>
    "parsed " ++ path.toText ++ " after sanitizing " ++ Text.ofNat count ++
      " line(s); consider quoting values containing ':' followed by whitespace"
  | repairedLine path line before after =>
    path.toText ++ ":" ++ Text.ofNat line ++ ": " ++ Text.trim before ++ " -> " ++ Text.trim after
  | cannotLoadTemplate path f =>
    "could not load template config " ++ path.toText ++ ": " ++ showFailure f
  | cannotReadText path f => "could not read " ++ path.toText ++ ": " ++ showFailure f
  | rendererUnusable reason => "mmdc execution error: " ++ showReason reason
  | rendererFailed complaint => "mmdc failed: " ++ complaint
  | copied source target => "copied " ++ source ++ " to " ++ target
  | cannotCopy path f =>
    "failed to copy existing diagram " ++ path.toText ++ ": " ++ showFailure f ++
      "; creating a placeholder"
  | placed target => "created placeholder PNG " ++ target
  | cannotPlace path f =>
    "failed to write placeholder PNG " ++ path.toText ++ ": " ++ showFailure f
  | strategyFailed f => "render strategy failed: " ++ showFailure f
  | notRendered target => "no render strategy produced " ++ target.toText
  | cannotMakeDirectory path f =>
    "cannot create output directory " ++ path.toText ++ ": " ++ showFailure f
  | cannotSaveSource path f =>
    "failed to save mermaid text file " ++ path.toText ++ ": " ++ showFailure f
  | hasDiagram readme => readme.toText ++ " already contains a mermaid diagram; skipping"
  | noReadme name template => "missing " ++ name ++ " in " ++ template.toText
  | cannotInsert readme f =>
    "error inserting mermaid diagram into " ++ readme.toText ++ ": " ++ showFailure f

end Event

end Groundplan

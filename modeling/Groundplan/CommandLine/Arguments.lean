import Groundplan.CommandLine.Options

/-!
# Arguments

A command line is options, the name of a command, and the arguments of the command: options of its
own and one operand, the template. The options that every command knows may stand before the
command as well.
-/

namespace Groundplan.CommandLine

/-- What the program can be asked to do. -/
inductive Command where
  | generate
  | validate
  | render
  | insert
  | analyze
deriving DecidableEq, Repr

namespace Command

/-- All commands. -/
def all : List Command := [generate, validate, render, insert, analyze]

/-- The name of a command. -/
def name : Command → Text
  | generate => "generate"
  | validate => "validate"
  | render => "render"
  | insert => "insert"
  | analyze => "analyze"

/-- The command with a name. -/
def ofName? (t : Text) : Option Command := all.find? fun command => command.name == t

/-- The options that every command knows. -/
def commonOptions : List Opt := [.help, .settings, .verbose]

/-- The options of a command. -/
def options (command : Command) : List Opt :=
  commonOptions ++ match command with
    | generate => [.page, .title, .strict]
    | validate => [.strict]
    | render => [.directory]
    | insert => [.noImage]
    | analyze => []

end Command

/-- The name of the program. -/
def program : Text := "infra-diagram"

/-- The name of the program with that of a command. -/
def programOf (command : Command) : Text := program ++ " " ++ command.name

/-- What a command line asks for. -/
structure Arguments where
  command : Command
  taken : Taken
  template : Option Text

/-- A command line that asks for nothing that can be done. -/
inductive Refusal where
  /-- It asks for help about the program or about one command. -/
  | help (command : Option Command)
  | usage (program : Text) (e : UsageError)

namespace Arguments

/-- Why the program, or one command of it, refuses its words. -/
def refuse (command : Option Command) : Stop → Refusal
  | .help => .help command
  | .usage e => .usage ((command.map programOf).getD program) e

/-- The first operand. The separator may stand before it or behind it. -/
def takeOperand : List Word → Option Text × List Word
  | .operand t :: .separator :: rest => (some t, rest)
  | .operand t :: rest => (some t, rest)
  | .separator :: .operand t :: rest => (some t, rest)
  | .separator :: rest => (none, rest)
  | words => (none, words)

/-- The arguments of a command: options, the operand, and options again. -/
def ofCommand (command : Command) (words : List Text) : Except Stop Arguments := do
  let words ← (Word.read command.options words).mapError .usage
  let (taken, words) ← takeOptions command.options false words {}
  let (template, words) := takeOperand words
  let (taken, _) ← takeOptions command.options true words taken
  return { command, taken, template }

/-- The options in front of the command, and the words from the command on. -/
def beforeCommand (words : List Text) : Except Stop (Taken × List Text) := do
  let words ← (Word.read Command.commonOptions words).mapError .usage
  let (taken, words) ← takeOptions Command.commonOptions false words {}
  return (taken, words.map Word.text)

/-- The words from the command on as the command and its words. Behind a separator no command is
looked for. -/
def splitCommand (words : List Text) : Except UsageError (Command × List Text) :=
  match words with
  | [] => .error .missingCommand
  | name :: rest =>
    match Command.ofName? name with
    | some command => .ok (command, rest)
    | none =>
      if name = Word.separatorText ∧ rest = [] then .error .missingCommand
      else .error (.unknownCommand name (Command.all.map Command.name))

/-- What the words of a command line ask for. Words without a meaning are refused in the end. -/
def read (words : List Text) : Except Refusal Arguments := do
  let (before, words) ← (beforeCommand words).mapError (refuse none)
  let (command, words) ← (splitCommand words).mapError (.usage program)
  let arguments ← (ofCommand command words).mapError (refuse (some command))
  let taken := before.append arguments.taken
  if taken.unknown.isEmpty then return { arguments with taken }
  else throw (.usage program (.unknownWords taken.unknown))

end Arguments

end Groundplan.CommandLine

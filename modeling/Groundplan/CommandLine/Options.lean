import Groundplan.Text.Digit
import Groundplan.Text.Quoted

/-!
# Options

The words of a command line, read by the options that a command knows.

**Words** (`Word.read`). A word that starts with a dash is an option. After two dashes stands its
name, or the start of its name if only one option has it, and perhaps `=` and a value; after one
dash stand letters, each an option without a value. Negative numbers and words with spaces are
operands all the same, and so is everything behind the separator `--`.

**Order** (`takeOptions`). Options may come in any order and may be repeated. The value of an option
that takes one is in the same word or is the next word.
-/

namespace Groundplan.CommandLine

/-! ## The options -/

/-- An option of some command. -/
inductive Opt where
  | help
  | settings
  | verbose
  | page
  | title
  | strict
  | directory
  | noImage
deriving DecidableEq, Repr

namespace Opt

/-- The name of an option behind two dashes. -/
def name : Opt → Text
  | help => "--help"
  | settings => "--config"
  | verbose => "--verbose"
  | page => "--out"
  | title => "--title"
  | strict => "--strict"
  | directory => "--out-dir"
  | noImage => "--no-render"

/-- The letter of an option behind one dash. -/
def letter? : Opt → Option CodePoint
  | help => some 'h'
  | verbose => some 'v'
  | _ => none

/-- The option takes a value. An option with a letter does not. -/
def takesValue : Opt → Bool
  | settings | page | title | directory => true
  | _ => false

/-- How a message names an option. -/
def display (o : Opt) : Text :=
  match o.letter? with
  | some c => ↑ '-' :: c :: ↑ '/' :: o.name
  | none => o.name

/-- The option with a name. -/
def named? (known : List Opt) (t : Text) : Option Opt := known.find? fun o => o.name == t

/-- The option with a letter. -/
def lettered? (known : List Opt) (c : CodePoint) : Option Opt :=
  known.find? fun o => o.letter? == some c

end Opt

/-- Why the words of a command line make no sense. -/
inductive UsageError where
  | ambiguous (word : Text) (options : List Opt)
  | missingValue (o : Opt)
  | superfluousValue (o : Opt) (value : Text)
  | missingCommand
  | unknownCommand (name : Text) (known : List Text)
  | unknownWords (words : List Text)

/-- The wording of an error. -/
def UsageError.message : UsageError → Text
  | ambiguous word options =>
    "ambiguous option: " ++ word ++ " could match " ++ Text.join ", " (options.map Opt.name)
  | missingValue o => "argument " ++ o.display ++ ": expected one argument"
  | superfluousValue o value =>
    "argument " ++ o.display ++ ": ignored explicit argument " ++ Text.quoted value
  | missingCommand => "the following arguments are required: command"
  | unknownCommand name known =>
    "argument command: invalid choice: " ++ Text.quoted name ++ " (choose from " ++
      Text.join ", " (known.map Text.quoted) ++ ")"
  | unknownWords words => "unrecognized arguments: " ++ Text.join [' '] words

/-! ## Words -/

/-- A word of a command line as a list of options makes it out. -/
inductive Word where
  | operand (t : Text)
  | separator
  /-- An option by its name, perhaps with a value. -/
  | option (t : Text) (o : Opt) (value : Option Text)
  /-- An option by its letter, and what follows the letter. -/
  | letters (t : Text) (o : Opt) (rest : Text)
  | unknown (t : Text)

namespace Word

/-- The text of a separator. -/
def separatorText : Text := "--"

/-- The word as it was given. -/
def text : Word → Text
  | operand t | option t _ _ | letters t _ _ | unknown t => t
  | separator => separatorText

/-- A dash and digits, with at most one point, which digits follow. -/
def isNegativeNumber : Text → Bool
  | '-' :: t =>
    let t := if t.getLast? = some ↑ '\n' then t.dropLast else t
    match t.dropWhile isDecimalDigit with
    | [] => !t.isEmpty
    | '.' :: places => !places.isEmpty && places.all isDecimalDigit
    | _ => false
  | _ => false

/-- A word that starts with a dash and names no option. -/
def undashed (t : Text) : Word :=
  if isNegativeNumber t || t.contains ' ' then .operand t else .unknown t

/-- A name and the value behind `=`, if there is one. -/
def splitValue (t : Text) : Text × Option Text :=
  (t.takeWhile (· != ↑ '='), match t.dropWhile (· != ↑ '=') with
    | [] => none
    | _ :: value => some value)

/-- A word that starts with two dashes. -/
def ofNamed (known : List Opt) (t : Text) : Except UsageError Word :=
  let (name, value) := splitValue t
  match Opt.named? known name with
  | some o => .ok (.option t o value)
  | none =>
    match known.filter fun o => Text.startsWith name o.name with
    | [] => .ok (undashed t)
    | [o] => .ok (.option t o value)
    | options => .error (.ambiguous t options)

/-- One word in front of the separator. -/
def ofText (known : List Opt) (t : Text) : Except UsageError Word :=
  match t with
  | '-' :: '-' :: _ => ofNamed known t
  | '-' :: c :: rest =>
    match Opt.lettered? known c with
    | some o => .ok (.letters t o rest)
    | none => .ok (undashed t)
  | t => .ok (.operand t)

/-- The words of a command line. -/
def read (known : List Opt) : List Text → Except UsageError (List Word)
  | [] => .ok []
  | t :: rest =>
    if t = separatorText then .ok (.separator :: rest.map .operand)
    else do
      let word ← ofText known t
      return word :: (← read known rest)

end Word

/-! ## Options in order -/

/-- What has been read: options with their values, in order, and the words without a meaning. -/
structure Taken where
  options : List (Opt × Text) := []
  unknown : List Text := []

namespace Taken

/-- One more option. -/
def add (taken : Taken) (o : Opt) (value : Text) : Taken :=
  { taken with options := taken.options ++ [(o, value)] }

/-- One more word without a meaning. -/
def reject (taken : Taken) (t : Text) : Taken := { taken with unknown := taken.unknown ++ [t] }

/-- The option is there. -/
def has (taken : Taken) (o : Opt) : Bool := taken.options.any fun (p, _) => p = o

/-- The last value of an option. -/
def value? (taken : Taken) (o : Opt) : Option Text :=
  (taken.options.reverse.find? fun (p, _) => p = o).map Prod.snd

/-- What was read first and what was read after it. -/
def append (a b : Taken) : Taken := ⟨a.options ++ b.options, a.unknown ++ b.unknown⟩

end Taken

/-- Why reading the words ends early. -/
inductive Stop where
  | help
  | usage (e : UsageError)

/-- One more option without a value; reading ends at the one that asks for help. -/
def addFlag (taken : Taken) (o : Opt) : Except Stop Taken :=
  if o = .help then .error .help else .ok (taken.add o [])

/-- The options behind one dash: one of them, and those that the letters after it name. -/
def flags (known : List Opt) (o : Opt) : (letters : Text) →
    Except UsageError (List Opt × Option Text)
  | [] => .ok ([o], none)
  | c :: rest =>
    if c = '=' then .error (.superfluousValue o rest)
    else if c = '-' then .error (.superfluousValue o (c :: rest))
    else match Opt.lettered? known c with
      | some next => (flags known next rest).map fun (options, word) => (o :: options, word)
      | none => .ok ([o], some (↑ '-' :: c :: rest))

/-- Takes options up to the first word that is none. Where `all` is set, words that are no options
have no meaning and do not end the options. -/
def takeOptions (known : List Opt) (all : Bool) : List Word → Taken →
    Except Stop (Taken × List Word)
  | [], taken => .ok (taken, [])
  | .unknown t :: rest, taken => takeOptions known all rest (taken.reject t)
  | .letters _ o letters :: rest, taken =>
    match flags known o letters with
    | .error e => .error (.usage e)
    | .ok (options, word) => do
      let taken ← options.foldlM addFlag ((word.map taken.reject).getD taken)
      takeOptions known all rest taken
  | .option _ o (some value) :: rest, taken =>
    if o.takesValue then takeOptions known all rest (taken.add o value)
    else .error (.usage (.superfluousValue o value))
  | .option _ o none :: rest, taken =>
    if o.takesValue then
      match rest with
      | .operand value :: rest => takeOptions known all rest (taken.add o value)
      | _ => .error (.usage (.missingValue o))
    else do takeOptions known all rest (← addFlag taken o)
  | word :: rest, taken =>
    if all then takeOptions known all rest (taken.reject word.text) else .ok (taken, word :: rest)

end Groundplan.CommandLine

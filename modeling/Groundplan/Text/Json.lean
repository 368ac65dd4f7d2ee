import Groundplan.Text.Basic

/-!
# JSON text

Texts, arrays and objects as JSON writes them, from the written forms of their parts, on one line or
with a line for every part. Control
characters, the quotation mark and the backslash are escaped; every other character, ASCII or not,
stands for itself.
-/

namespace Groundplan.Json

/-- One character inside a JSON string. -/
def escapeChar (c : CodePoint) : Text :=
  if c = '"' then "\\\""
  else if c = '\\' then "\\\\"
  else if c = '\n' then "\\n"
  else if c = '\r' then "\\r"
  else if c = '\t' then "\\t"
  else if c = '\x0c' then "\\f"
  else if c = '\x08' then "\\b"
  else if c.toNat < 0x20 then "\\u" ++ Text.ofHex 4 c.toNat
  else [c]

/-- The characters between the quotation marks of a JSON string. -/
def escape (t : Text) : Text := t.flatMap escapeChar

/-- A JSON string. -/
def string (t : Text) : Text := "\"" ++ escape t ++ "\""

/-- An array on one line. -/
def array (items : List Text) : Text := "[" ++ Text.join ", " items ++ "]"

/-- A member of an object. -/
def member (name value : Text) : Text := string name ++ ": " ++ value

/-- An object on one line. -/
def object (members : List (Text × Text)) : Text :=
  "\x7b" ++ Text.join ", " (members.map fun (name, value) => member name value) ++ "\x7d"

/-- A truth value. -/
def bool (b : Bool) : Text := if b then "true" else "false"

/-- The spaces in front of a part at a depth. -/
def indentation (depth : Nat) : Text := List.replicate (2 * depth) ' '

/-- Parts between brackets, each on a line of its own; nothing between the brackets if there are no
parts. -/
def block (opening closing : CodePoint) (depth : Nat) (parts : List Text) : Text :=
  if parts.isEmpty then [opening, closing]
  else
    let lines := parts.map fun part => indentation (depth + 1) ++ part
    opening :: ↑ '\n' :: Text.join ",\n" lines ++ ↑ '\n' :: indentation depth ++ [closing]

/-- An array with a line for every item. -/
def arrayBlock (depth : Nat) (items : List Text) : Text := block '[' ']' depth items

/-- An object with a line for every member. -/
def objectBlock (depth : Nat) (members : List (Text × Text)) : Text :=
  block '\x7b' '\x7d' depth (members.map fun (name, value) => member name value)

end Groundplan.Json

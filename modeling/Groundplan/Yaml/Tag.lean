import Groundplan.Yaml.Timestamp

/-!
# Tags of YAML nodes

The tag of a node says what kind of value it stands for. A node can write its tag; a plain scalar
that does not is recognised by its text (`Tag.ofPlain`): `yes` is a truth value, `0x1f`, `0b11`,
`017` and `1:30` are integers, `1.5` and `.inf` are numbers, `2020-01-31` is a date, `~` and the
empty text are null, and everything else is text.
-/

namespace Groundplan.Yaml

/-- The kinds of values that a node can stand for. -/
inductive Tag where
  | null
  | bool
  | int
  | float
  | binary
  | timestamp
  | omap
  | pairs
  | set
  | str
  | seq
  | map
  /-- The key `<<`, whose value is merged into the map. -/
  | merge
  /-- The key `=`, whose value stands for the map. -/
  | value
  /-- A tag that no value is made for. -/
  | other (uri : Text)
deriving DecidableEq, Repr

namespace Tag

/-- How the tags of the common kinds start. -/
def common : Text := "tag:yaml.org,2002:"

/-- The tags of the common kinds by the last part of their names. -/
def commonTags : List (Text × Tag) := [
  ("null", null), ("bool", bool), ("int", int), ("float", float), ("binary", binary),
  ("timestamp", timestamp), ("omap", omap), ("pairs", pairs), ("set", set), ("str", str),
  ("seq", seq), ("map", map), ("merge", merge), ("value", value)]

/-- The tag with a full name. -/
def ofUri (uri : Text) : Tag :=
  match (Text.after? common uri).bind fun name => commonTags.lookup name with
  | some tag => tag
  | none => .other uri

/-! ## Texts of the common kinds -/

/-- The words of truth values, in lower case. -/
def flagWord? (t : Text) : Option Bool :=
  let words : List (Text × Bool) :=
    [("yes", true), ("no", false), ("true", true), ("false", false), ("on", true), ("off", false)]
  words.lookup t

/-- The text is written all in lower case, all in upper case, or with a capital first. -/
def isUniform (t : Text) : Bool :=
  match t with
  | [] => true
  | c :: r => r.all CodePoint.isLower || (c.isUpper && r.all CodePoint.isUpper)

/-- The text in lower case. -/
def lower (t : Text) : Text := t.map CodePoint.toLower

/-- A truth value as a plain scalar writes it. -/
def isFlag (t : Text) : Bool := isUniform t && (flagWord? (lower t)).isSome

/-- Null as a plain scalar writes it. -/
def isNull (t : Text) : Bool :=
  t.isEmpty || t == (['~'] : Text) || (isUniform t && lower t == ("null" : Text))

/-- The text without a sign at its start. -/
def unsigned (t : Text) : Text :=
  match t with
  | '-' :: r => r
  | '+' :: r => r
  | r => r

/-- A digit or the underscore that may stand among digits. -/
def isDigitOr_ (c : CodePoint) : Bool := c.isDigit || c == '_'

/-- A number below sixty: one digit, or two of which the first is below six. -/
def isSixtieth : Text → Bool
  | [c] => c.isDigit
  | [a, b] => a.isDigit && a < '6' && b.isDigit
  | _ => false

/-- Digits, perhaps with underscores, that start with a digit of the given kind. -/
def isDigits (first : CodePoint → Bool) : Text → Bool
  | [] => false
  | c :: r => first c && r.all isDigitOr_

/-- A number to the base sixty: digits and then parts below sixty, all with colons between. -/
def isSexagesimal (first : CodePoint → Bool) (t : Text) : Bool :=
  match Text.split (· == ':') t with
  | head :: part :: parts => isDigits first head && (part :: parts).all isSixtieth
  | _ => false

/-- A digit that is not zero. -/
def isNonzeroDigit (c : CodePoint) : Bool := c.isDigit && c != '0'

/-- A hexadecimal digit. -/
def isHexDigit (c : CodePoint) : Bool :=
  c.isDigit || ('a' ≤ c && c ≤ 'f') || ('A' ≤ c && c ≤ 'F')

/-- An integer as a plain scalar writes it. -/
def isInt (t : Text) : Bool :=
  match unsigned t with
  | ['0'] => true
  | '0' :: 'b' :: r => !r.isEmpty && r.all fun c => c == '0' || c == '1' || c == '_'
  | '0' :: 'x' :: r => !r.isEmpty && r.all fun c => isHexDigit c || c == '_'
  | '0' :: r => r.all fun c => ('0' ≤ c && c ≤ '7') || c == '_'
  | r => isDigits isNonzeroDigit r || isSexagesimal isNonzeroDigit r

/-- Nothing, or an exponent with its sign. -/
def isExponent : Text → Bool
  | [] => true
  | e :: sign :: r =>
    (e == 'e' || e == 'E') && (sign == '+' || sign == '-') && !r.isEmpty && r.all CodePoint.isDigit
  | _ => false

/-- Digits after the point, perhaps none, and an exponent, perhaps none. -/
def isFraction (t : Text) : Bool := isExponent (t.dropWhile isDigitOr_)

/-- A floating-point number as a plain scalar writes it. -/
def isFloat (t : Text) : Bool :=
  let r := unsigned t
  let whole := r.takeWhile (· != ↑ '.')
  match r.dropWhile (· != ↑ '.') with
  | _ :: after =>
    (isDigits CodePoint.isDigit whole && isFraction after) ||
      (isSexagesimal CodePoint.isDigit whole && after.all isDigitOr_) ||
      (whole.isEmpty && r.length = t.length &&
        after.head?.any CodePoint.isDigit && isFraction after) ||
      (whole.isEmpty && isUniform after && lower after == ("inf" : Text)) ||
      (whole.isEmpty && r.length = t.length &&
        (["nan", "NaN", "NAN"] : List Text).contains after)
  | [] => false

/-- The kind of value that a plain scalar without a tag stands for. -/
def ofPlain (t : Text) : Tag :=
  if isFlag t then bool
  else if isFloat t then float
  else if isInt t then int
  else if t == ("<<" : Text) then merge
  else if isNull t then null
  else if (Timestamp.implicit? t).isSome then timestamp
  else if t == ("=" : Text) then value
  else if t == ("!" : Text) || t == ("&" : Text) || t == ("*" : Text) then ofUri (common ++ "yaml")
  else str

end Tag

end Groundplan.Yaml

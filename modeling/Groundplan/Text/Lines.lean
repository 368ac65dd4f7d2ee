import Groundplan.Text.Basic

/-!
# Lines of text files

The lines of a file as its readers count them. Besides the newline and the carriage return the
other separators of the Unicode standard end a line too. A text that is read from a file keeps
only newlines (`universalNewlines`).
-/

namespace Groundplan

namespace Text

/-- A character that ends a line of a text file. -/
def isLineEnd (c : CodePoint) : Bool :=
  let n := c.toNat
  (10 ≤ n && n ≤ 13) || (28 ≤ n && n ≤ 30) || n = 0x85 || n = 0x2028 || n = 0x2029

/-- The first line and what follows its end; a carriage return and a newline are one end. -/
def breakLine : Text → Text × Option Text
  | [] => ([], none)
  | '\r' :: '\n' :: r => ([], some r)
  | c :: r =>
    if isLineEnd c then ([], some r)
    else
      let (line, rest) := breakLine r
      (c :: line, rest)

/-- The lines of a text file, from at most `fuel` line ends. A last line without characters is not
a line. -/
def fileLinesFrom : (fuel : Nat) → Text → List Text
  | 0, _ => []
  | _, [] => []
  | fuel + 1, t =>
    let (line, rest) := breakLine t
    match rest with
    | none => [line]
    | some rest => line :: fileLinesFrom fuel rest

/-- The lines of a text file without their ends. -/
def fileLines (t : Text) : List Text := fileLinesFrom (t.length + 1) t

/-- Carriage returns, with a newline after them or alone, become newlines. -/
def universalNewlines : Text → Text
  | [] => []
  | '\r' :: '\n' :: r => ↑ '\n' :: universalNewlines r
  | c :: r => (if c = '\r' then '\n' else c) :: universalNewlines r

end Text

end Groundplan

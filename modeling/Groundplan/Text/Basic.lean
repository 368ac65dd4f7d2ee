import Groundplan.Text.CodePoint

/-!
# Text

Text is a list of code points, so that every definition of this library recurses on it and every
proof inducts on it. String literals become text by a coercion.

**Blanks.** `isBlank` is the whitespace of the Unicode standard (property `White_Space`) together
with the four information separators U+001C to U+001F. Trimming, collapsing and skipping all use
this one class.

**Searching.** `after?` strips a given beginning; `occursIn` asks for a contiguous occurrence;
`breakOn` splits at the first one.

**Pieces.** `split` cuts at every character of a class and `lines` at every newline; joining the
lines with newlines gives the text back (`join_lines`).
-/

namespace Groundplan

/-- Text as a list of code points. -/
abbrev Text := List CodePoint

/-- The text of some scalar values. -/
def Text.ofChars (l : List Char) : Text := l.map CodePoint.scalar

/-- The text of a string, which holds scalar values only. -/
@[coe] def Text.ofString (s : String) : Text := Text.ofChars s.toList

instance : Coe String Text := ⟨Text.ofString⟩

/-- White space: the characters that separate words and are trimmed from the ends of a text. -/
def isBlank (c : CodePoint) : Bool :=
  let n := c.toNat
  (9 ≤ n && n ≤ 13) || (28 ≤ n && n ≤ 32) || n = 0x85 || n = 0xa0 || n = 0x1680 ||
    (0x2000 ≤ n && n ≤ 0x200a) || n = 0x2028 || n = 0x2029 || n = 0x202f || n = 0x205f ||
    n = 0x3000

/-- A space or a tab: the indentation characters of a line. -/
def isIndent (c : CodePoint) : Bool := c == ' ' || c == '\t'

theorem isBlank_of_isIndent {c : CodePoint} (h : isIndent c = true) : isBlank c = true := by
  simp only [isIndent, Bool.or_eq_true, beq_iff_eq] at h
  rcases h with h | h <;> subst h <;> decide

namespace Text

/-! ## Scalar values -/

@[simp] theorem length_ofChars (l : List Char) : (ofChars l).length = l.length := List.length_map _

@[simp] theorem length_ofString (s : String) : (ofString s).length = s.toList.length :=
  length_ofChars _

theorem ofChars_append (l m : List Char) : ofChars (l ++ m) = ofChars l ++ ofChars m :=
  List.map_append

@[simp] theorem ofChars_singleton (c : Char) : ofChars [c] = [↑ c] := rfl

theorem ofChars_injective {l m : List Char} (h : ofChars l = ofChars m) : l = m :=
  (List.map_inj_right fun _ _ => CodePoint.scalar.inj).1 h

@[simp] theorem mem_ofChars {c : Char} {l : List Char} : ↑ c ∈ ofChars l ↔ c ∈ l := by
  simp [ofChars]

/-! ## Trimming -/

/-- Drops the longest end whose characters all satisfy `p`. -/
def dropEnd (p : CodePoint → Bool) : Text → Text
  | [] => []
  | c :: r => match dropEnd p r with
    | [] => if p c then [] else [c]
    | r' => c :: r'

/-- Drops blanks at the front. -/
def trimStart (t : Text) : Text := t.dropWhile isBlank

/-- Drops blanks at the end. -/
def trimEnd (t : Text) : Text := dropEnd isBlank t

/-- Drops blanks at both ends. -/
def trim (t : Text) : Text := trimEnd (trimStart t)

/-- Every run of blanks becomes one space. `inRun` says that a run has just been written. -/
def collapseFrom (inRun : Bool) : Text → Text
  | [] => []
  | c :: r =>
    if isBlank c then
      if inRun then collapseFrom true r else ↑ ' ' :: collapseFrom true r
    else c :: collapseFrom false r

/-- Every run of blanks becomes one space. -/
def collapse (t : Text) : Text := collapseFrom false t

/-! ## Searching -/

/-- What follows `p` when the text starts with it. -/
def after? : (p t : Text) → Option Text
  | [], t => some t
  | _ :: _, [] => none
  | a :: p, c :: t => if a = c then after? p t else none

/-- The text starts with `p`. -/
def startsWith (p t : Text) : Bool := (after? p t).isSome

/-- `p` occurs in the text as a contiguous run. -/
def occursIn (p : Text) : Text → Bool
  | [] => startsWith p []
  | c :: r => startsWith p (c :: r) || occursIn p r

/-- The text ends with `p`. -/
def endsWith (p t : Text) : Bool := startsWith p.reverse t.reverse

/-- The text before the first occurrence of `p` and the text after it. -/
def breakOn (p : Text) : Text → Option (Text × Text)
  | [] => (after? p []).map fun r => ([], r)
  | c :: r => match after? p (c :: r) with
    | some rest => some ([], rest)
    | none => (breakOn p r).map fun (before, rest) => (c :: before, rest)

theorem eq_append_of_after? {p t r : Text} (h : after? p t = some r) : t = p ++ r := by
  fun_induction after? p t with
  | case1 t => simpa using h
  | case2 => simp at h
  | case3 p c t ih => simp [ih h]
  | case4 => simp at h

@[simp] theorem after?_append (p r : Text) : after? p (p ++ r) = some r := by
  induction p with
  | nil => rfl
  | cons a p ih => simp [after?, ih]

theorem length_after? {p t r : Text} (h : after? p t = some r) :
    r.length + p.length = t.length := by
  rw [eq_append_of_after? h, List.length_append, Nat.add_comm]

theorem eq_append_of_breakOn {p t before rest : Text}
    (h : breakOn p t = some (before, rest)) : t = before ++ p ++ rest := by
  fun_induction breakOn p t generalizing before with
  | case1 =>
    obtain ⟨r, hr, heq⟩ := Option.map_eq_some_iff.1 h
    cases heq
    simpa using eq_append_of_after? hr
  | case2 c r rest' hr =>
    cases h
    simpa using eq_append_of_after? hr
  | case3 c r hr ih =>
    obtain ⟨⟨b, r'⟩, hb, heq⟩ := Option.map_eq_some_iff.1 h
    cases heq
    simpa using ih hb

/-! ## Pieces -/

/-- Cuts the text at every character that satisfies `p`; the cut characters are dropped. -/
def split (p : CodePoint → Bool) : Text → List Text
  | [] => [[]]
  | c :: r =>
    if p c then [] :: split p r
    else match split p r with
      | [] => [[c]]
      | piece :: pieces => (c :: piece) :: pieces

/-- The lines of a text: the pieces between its newlines. -/
def lines (t : Text) : List Text := split (· == '\n') t

/-- The texts one after the other with `sep` between neighbours. -/
def join (sep : Text) (ts : List Text) : Text := sep.intercalate ts

theorem split_ne_nil (p : CodePoint → Bool) (t : Text) : split p t ≠ [] := by
  cases t with
  | nil => simp [split]
  | cons c r =>
    rw [split]
    split
    · simp
    · split <;> simp

theorem join_cons_cons (sep a b : Text) (ts : List Text) :
    join sep (a :: b :: ts) = a ++ sep ++ join sep (b :: ts) := by
  simp [join, List.intercalate, List.intersperse]

@[simp] theorem join_singleton (sep a : Text) : join sep [a] = a := by
  simp [join, List.intercalate]

/-- Joining the lines with newlines gives the text back. -/
theorem join_lines (t : Text) : join ['\n'] (lines t) = t := by
  unfold lines
  induction t with
  | nil => simp [split]
  | cons c r ih =>
    obtain ⟨piece, pieces, hp⟩ := List.exists_cons_of_ne_nil (split_ne_nil (· == '\n') r)
    rw [split]
    split
    · next hc =>
      rw [beq_iff_eq] at hc
      rw [hp] at ih ⊢
      rw [join_cons_cons, ih, hc]
      rfl
    · rw [hp] at ih ⊢
      cases pieces with
      | nil => simpa using ih
      | cons b bs =>
        rw [join_cons_cons] at ih ⊢
        simpa using ih

/-! ## Order -/

/-- `a` does not come after `b` by the code points of their characters. -/
def atMost : (a b : Text) → Bool
  | [], _ => true
  | _ :: _, [] => false
  | c :: a, d :: b => c.toNat < d.toNat || (c == d && atMost a b)

/-- Texts sorted by the code points of their characters. -/
def sort (ts : List Text) : List Text := ts.mergeSort atMost

/-- The decimal digits of a number. -/
def ofNat (n : Nat) : Text := ofChars (Nat.toDigits 10 n)

/-- The digits of a number in base sixteen, padded with zeros to `width` places. -/
def ofHex (width n : Nat) : Text :=
  let digits := Nat.toDigits 16 n
  ofChars (List.replicate (width - digits.length) '0' ++ digits)

end Text

end Groundplan

import Groundplan.Declaration.Block
import Groundplan.Proofs.Text.Search

/-!
# The grammar of property blocks

**Tokens.** The text of a block falls into strings, comments, braces and other single characters
(`Token`). What a token may be can depend on the text behind it: a line comment goes up to a
newline, and a slash that stands alone starts no comment (`Token.FitsBefore`).

**Bodies.** A text is the body of a block when it falls into fitting tokens whose braces are
balanced and never close more than they open (`IsBody`).

**Reading.** `beforeClose?` goes over a text token by token (`beforeClose?_token`), so it finds the
body of every block whose body is one (`body?_of_isBody`).
-/

namespace Groundplan.Block

/-! ## Tokens -/

/-- A piece of the text of a block. -/
inductive Token where
  /-- A string between two quotes. -/
  | quoted (quote : CodePoint) (inside : Text)
  /-- `//` and what follows it on the line. -/
  | lineComment (inside : Text)
  /-- `/*`, what follows it, and `*/`. -/
  | blockComment (inside : Text)
  | openBrace
  | closeBrace
  | other (c : CodePoint)
deriving DecidableEq, Repr

/-- The text can stand between two quotes `q`: a backslash takes the next character with it, and
no other character is the quote. -/
def encloses (q : CodePoint) : Text → Bool
  | [] => true
  | '\\' :: [] => false
  | '\\' :: _ :: r => encloses q r
  | c :: r => c != q && encloses q r

namespace Token

/-- The text of a token. -/
def text : Token → Text
  | quoted q inside => q :: (inside ++ [q])
  | lineComment inside => ↑ '/' :: ↑ '/' :: inside
  | blockComment inside => ↑ '/' :: ↑ '*' :: (inside ++ (['*', '/'] : Text))
  | openBrace => ['\x7b']
  | closeBrace => ['\x7d']
  | other c => [c]

/-- The token is the first one of its text followed by `rest`. -/
def FitsBefore (rest : Text) : Token → Prop
  | quoted q inside => isQuote q = true ∧ encloses q inside = true
  | lineComment inside => ↑ '\n' ∉ inside ∧ rest.head? = some ↑ '\n'
  | blockComment inside => Text.occursIn ['*', '/'] (inside ++ (['*'] : Text)) = false
  | openBrace | closeBrace => True
  | other c => isQuote c = false ∧ c ≠ '\x7b' ∧ c ≠ '\x7d' ∧
      ¬(c = '/' ∧ (rest.head? = some ↑ '/' ∨ rest.head? = some ↑ '*'))

instance (rest : Text) (tok : Token) : Decidable (tok.FitsBefore rest) := by
  cases tok <;> unfold FitsBefore <;> infer_instance

theorem text_ne_nil (tok : Token) : tok.text ≠ [] := by
  cases tok <;> simp [text]

/-- What the token adds to the number of open braces. -/
def change : Token → Int
  | openBrace => 1
  | closeBrace => -1
  | _ => 0

end Token

/-! ## Bodies -/

/-- The text of tokens one after the other. -/
def textOf (ts : List Token) : Text := ts.flatMap Token.text

/-- Every token is the first one of the text from it on. -/
def Fit : List Token → Prop
  | [] => True
  | tok :: ts => tok.FitsBefore (textOf ts) ∧ Fit ts

instance : (ts : List Token) → Decidable (Fit ts)
  | [] => isTrue trivial
  | tok :: ts =>
    have : Decidable (Fit ts) := instDecidableFit ts
    inferInstanceAs (Decidable (tok.FitsBefore (textOf ts) ∧ Fit ts))

/-- The number of open braces behind the tokens; none when a brace closes what is not open. -/
def depthAfter? : (depth : Nat) → List Token → Option Nat
  | d, [] => some d
  | 0, .closeBrace :: _ => none
  | d + 1, .closeBrace :: ts => depthAfter? d ts
  | d, .openBrace :: ts => depthAfter? (d + 1) ts
  | d, _ :: ts => depthAfter? d ts

/-- The text falls into tokens whose braces are balanced. -/
def IsBody (t : Text) : Prop := ∃ ts, Fit ts ∧ depthAfter? 0 ts = some 0 ∧ textOf ts = t

/-! ## Reading one token -/

theorem ne_backslash_of_isQuote {q : CodePoint} (h : isQuote q = true) : q ≠ '\\' := by
  intro h
  subst h
  exact absurd h (by decide)

/-- A string is read up to its closing quote. -/
theorem beforeClose?_quoted {q : CodePoint} (hq : q ≠ '\\') {inside : Text}
    (h : encloses q inside = true) (d : Int) (rest : Text) :
    beforeClose? (.quoted q) d (inside ++ q :: rest) =
      (beforeClose? .code d rest).map (inside ++ q :: ·) := by
  fun_induction encloses q inside with
  | case1 => simp [beforeClose?, hq]
  | case2 => simp at h
  | case3 c r ih => simp [beforeClose?, ih h, Function.comp_def]
  | case4 c r h₁ h₂ ih =>
    rw [Bool.and_eq_true, bne_iff_ne] at h
    have hc : c ≠ '\\' := by
      intro h
      subst h
      cases r with
      | nil => exact h₁ rfl rfl
      | cons a r => exact h₂ a r rfl rfl
    simp [beforeClose?, hc, h.1, ih h.2, Function.comp_def]

/-- A line comment is read up to the newline, which is plain text. -/
theorem beforeClose?_lineComment {inside : Text} (h : ↑ '\n' ∉ inside) (d : Int) (rest : Text) :
    beforeClose? .lineComment d (inside ++ ↑ '\n' :: rest) =
      (beforeClose? .code d (↑ '\n' :: rest)).map (inside ++ ·) := by
  induction inside with
  | nil => simp [beforeClose?, isQuote, Function.comp_def]
  | cons c inside ih =>
    rw [List.mem_cons, not_or] at h
    simp [beforeClose?, Ne.symm h.1, ih h.2, Function.comp_def]

/-- A block comment is read up to the first `*/`. -/
theorem beforeClose?_blockComment {inside : Text}
    (h : ¬(['*', '/'] : Text) <:+: inside ++ (['*'] : Text)) (d : Int) (rest : Text) :
    beforeClose? .blockComment d (inside ++ ↑ '*' :: ↑ '/' :: rest) =
      (beforeClose? .code d rest).map (inside ++ ↑ '*' :: ↑ '/' :: ·) := by
  induction inside with
  | nil => simp [beforeClose?]
  | cons c inside ih =>
    rw [List.cons_append, List.infix_cons_iff, not_or] at h
    have hstep : beforeClose? .blockComment d (c :: (inside ++ ↑ '*' :: ↑ '/' :: rest)) =
        (beforeClose? .blockComment d (inside ++ ↑ '*' :: ↑ '/' :: rest)).map (c :: ·) := by
      rw [beforeClose?]
      rintro r rfl hr
      refine h.1 ?_
      cases inside with
      | nil => simp at hr
      | cons a inside =>
        obtain ⟨rfl, -⟩ := List.cons.inj hr
        exact ⟨inside ++ (['*'] : Text), rfl⟩
    rw [List.cons_append, hstep, ih h.2]
    simp [Function.comp_def]

/-- Reading one token of plain text: a brace that brings the depth to zero ends the block, every
other token goes in front of what is read behind it. -/
theorem beforeClose?_token {tok : Token} {rest : Text} (h : tok.FitsBefore rest) (d : Int) :
    beforeClose? .code d (tok.text ++ rest) =
      if tok = .closeBrace ∧ d = 1 then some []
      else (beforeClose? .code (d + tok.change) rest).map (tok.text ++ ·) := by
  cases tok with
  | quoted q inside =>
    have hq := ne_backslash_of_isQuote h.1
    have hslash : q ≠ '/' := by
      intro h
      subst h
      exact absurd h.1 (by decide)
    simp [Token.text, Token.change, beforeClose?, h.1, hslash, beforeClose?_quoted hq h.2,
      Function.comp_def]
  | lineComment inside =>
    obtain ⟨hin, hrest⟩ := h
    cases rest with
    | nil => simp at hrest
    | cons c rest =>
      obtain rfl : c = '\n' := by simpa using hrest
      simp [Token.text, Token.change, beforeClose?, beforeClose?_lineComment hin,
        Function.comp_def]
  | blockComment inside =>
    have hin := Text.occursIn_eq_false_iff.1 h
    simp [Token.text, Token.change, beforeClose?, beforeClose?_blockComment hin,
      Function.comp_def]
  | openBrace => simp [Token.text, Token.change, beforeClose?, isQuote]
  | closeBrace => simp [Token.text, Token.change, beforeClose?, isQuote, Int.sub_eq_add_neg]
  | other c =>
    obtain ⟨hq, ho, hc, hslash⟩ := h
    have hstep : beforeClose? .code d (c :: rest) = (beforeClose? .code d rest).map (c :: ·) := by
      rw [beforeClose?, if_neg (by simp [hq]), if_neg ho, if_neg hc]
      · rintro r rfl rfl
        exact hslash ⟨rfl, .inl rfl⟩
      · rintro r rfl rfl
        exact hslash ⟨rfl, .inr rfl⟩
    simp [Token.text, Token.change, hstep]

/-! ## Reading a body -/

/-- More text does not change the first token, unless the token ended the text. -/
theorem Token.FitsBefore.append {tok : Token} {rest : Text} (h : tok.FitsBefore rest)
    (more : Text) : tok.FitsBefore (rest ++ ↑ '\x7d' :: more) := by
  cases tok with
  | lineComment inside =>
    refine ⟨h.1, ?_⟩
    cases rest with
    | nil => exact absurd h.2 (by simp)
    | cons c rest => exact h.2
  | other c =>
    obtain ⟨hq, ho, hc, hslash⟩ := h
    refine ⟨hq, ho, hc, ?_⟩
    cases rest with
    | nil => simp
    | cons c rest => exact hslash
  | _ => exact h

/-- Nor does less text, down to the brace that closes the block. -/
theorem Token.FitsBefore.of_append {tok : Token} {rest more : Text}
    (h : tok.FitsBefore (rest ++ ↑ '\x7d' :: more)) : tok.FitsBefore rest := by
  cases tok with
  | lineComment inside =>
    refine ⟨h.1, ?_⟩
    cases rest with
    | nil => exact absurd h.2 (by simp)
    | cons c rest => exact h.2
  | other c =>
    obtain ⟨hq, ho, hc, hslash⟩ := h
    refine ⟨hq, ho, hc, ?_⟩
    cases rest with
    | nil => simp
    | cons c rest => exact hslash
  | _ => exact h

/-- Behind a token that closes no block the depth is again above zero. -/
theorem exists_depth {tok : Token} {n : Nat} (h : ¬(tok = .closeBrace ∧ n = 0)) :
    ∃ m : Nat, (m : Int) + 1 = n + 1 + tok.change ∧
      ∀ ts, depthAfter? n (tok :: ts) = depthAfter? m ts := by
  cases tok with
  | openBrace => exact ⟨n + 1, by simp [Token.change], fun ts => by simp [depthAfter?]⟩
  | closeBrace =>
    cases n with
    | zero => exact absurd ⟨rfl, rfl⟩ h
    | succ m =>
      have hdepth : (m : Int) + 1 = ((m + 1 : Nat) : Int) + 1 + Token.closeBrace.change := by
        show (m : Int) + 1 = ((m + 1 : Nat) : Int) + 1 + (-1)
        omega
      exact ⟨m, hdepth, fun ts => rfl⟩
  | _ => exact ⟨n, by simp [Token.change], fun ts => by simp [depthAfter?]⟩

/-- Tokens that take the depth to zero are read up to the brace behind them. -/
theorem beforeClose?_tokens {ts : List Token} (h : Fit ts) {n : Nat}
    (hd : depthAfter? n ts = some 0) (more : Text) :
    beforeClose? .code (n + 1) (textOf ts ++ ↑ '\x7d' :: more) = some (textOf ts) := by
  induction ts generalizing n with
  | nil =>
    obtain rfl : n = 0 := by simpa [depthAfter?] using hd
    simp [textOf, beforeClose?, isQuote]
  | cons tok ts ih =>
    have hopen : ¬(tok = .closeBrace ∧ n = 0) := by
      rintro ⟨rfl, rfl⟩
      simp [depthAfter?] at hd
    obtain ⟨m, hm, hdepth⟩ := exists_depth hopen
    have hclose : ¬(tok = .closeBrace ∧ (n : Int) + 1 = 1) := fun h => hopen ⟨h.1, by omega⟩
    have hread := beforeClose?_token (h.1.append more) (n + 1)
    rw [hdepth] at hd
    rw [if_neg hclose, ← hm, ih h.2 hd] at hread
    simpa [textOf] using hread

/-- **A block with a body is read as its body**, whatever stands behind the block. -/
theorem body?_of_isBody {t : Text} (h : IsBody t) (more : Text) :
    body? (↑ '\x7b' :: (t ++ ↑ '\x7d' :: more)) = some t := by
  obtain ⟨ts, hfit, hdepth, rfl⟩ := h
  have hfits : Token.openBrace.FitsBefore (textOf ts ++ ↑ '\x7d' :: more) := trivial
  have hopen := beforeClose?_token hfits 0
  have hread := beforeClose?_tokens hfit hdepth more
  rw [body?, show ↑ '\x7b' :: (textOf ts ++ ↑ '\x7d' :: more) =
    Token.openBrace.text ++ (textOf ts ++ ↑ '\x7d' :: more) from rfl, hopen]
  simpa [Token.text, Token.change] using hread

end Groundplan.Block

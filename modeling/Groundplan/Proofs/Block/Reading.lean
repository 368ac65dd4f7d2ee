import Groundplan.Proofs.Block

/-!
# Blocks are read exactly

The reader finds every block of the grammar (`body?_of_isBody`). Here it is shown that it finds
nothing else.

**First tokens.** A text starts with a fitting token, or it opens a string or a comment that never
ends, and then nothing is read (`exists_token_or_unread`). So what is read falls into tokens
(`exists_tokens_of_beforeClose?`), and the body of a block is the only text that can be read
(`body?_eq_some_iff`).

**Parts of a text.** `bodyBetween?` reads a block between two offsets. What is read does not depend
on the end of the part, nor on anything behind the closing brace.

Main result: `bodyBetween?_exact`.
-/

namespace Groundplan.Block

variable {t b : Text} {d : Int}

/-! ## First tokens -/

/-- A string ends, or it is never left. -/
theorem exists_enclosed_or_unread {q : CodePoint} (hq : q ≠ '\\') (t : Text) :
    (∃ inside rest, t = inside ++ q :: rest ∧ encloses q inside = true) ∨
      ∀ d, beforeClose? (.quoted q) d t = none := by
  fun_induction encloses q t with
  | case1 => exact .inr (beforeClose?_nil _)
  | case2 => exact .inr fun d => by simp [beforeClose?]
  | case3 c r ih =>
    rcases ih with ⟨inside, rest, rfl, hin⟩ | hnone
    · exact .inl ⟨↑ '\\' :: c :: inside, rest, rfl, hin⟩
    · exact .inr fun d => by simp [beforeClose?, hnone]
  | case4 c r h₁ h₂ ih =>
    have hc : c ≠ '\\' := by
      intro h
      subst h
      cases r with
      | nil => exact h₁ rfl rfl
      | cons a r => exact h₂ a r rfl rfl
    by_cases hcq : c = q
    · subst hcq
      exact .inl ⟨[], r, rfl, rfl⟩
    · rcases ih with ⟨inside, rest, rfl, hin⟩ | hnone
      · refine .inl ⟨c :: inside, rest, rfl, ?_⟩
        rw [encloses, hin, Bool.and_true, bne_iff_ne]
        · exact hcq
        · exact fun h _ => hc h
        · exact fun _ _ h _ => hc h
      · exact .inr fun d => by simp [beforeClose?, hc, hcq, hnone]

/-- A line comment ends, or it is never left. -/
theorem exists_line_or_unread (t : Text) :
    (∃ inside rest : Text, t = inside ++ ↑ '\n' :: rest ∧ ↑ '\n' ∉ inside) ∨
      ∀ d, beforeClose? .lineComment d t = none := by
  by_cases h : ↑ '\n' ∈ t
  · obtain ⟨inside, rest, rfl, hin⟩ := List.eq_append_cons_of_mem h
    exact .inl ⟨inside, rest, rfl, hin⟩
  · refine .inr fun d => ?_
    induction t with
    | nil => exact beforeClose?_nil _ d
    | cons c t ih =>
      rw [List.mem_cons, not_or] at h
      rw [beforeClose?, if_neg (Ne.symm h.1), ih h.2, Option.map_none]

/-- A block comment ends, or it is never left. -/
theorem exists_comment_or_unread (t : Text) :
    (∃ inside rest : Text, t = inside ++ ↑ '*' :: ↑ '/' :: rest ∧
        ¬(['*', '/'] : Text) <:+: inside ++ (['*'] : Text)) ∨
      ∀ d, beforeClose? .blockComment d t = none := by
  induction t with
  | nil => exact .inr (beforeClose?_nil _)
  | cons c t ih =>
    by_cases hend : (['*', '/'] : Text) <+: c :: t
    · obtain ⟨rest, hrest⟩ := hend
      refine .inl ⟨[], rest, hrest.symm, ?_⟩
      rw [← Text.occursIn_eq_false_iff]
      decide
    · rcases ih with ⟨inside, rest, rfl, hin⟩ | hnone
      · refine .inl ⟨c :: inside, rest, rfl, ?_⟩
        rw [List.cons_append, List.infix_cons_iff, not_or]
        refine ⟨fun hstart => hend ?_, hin⟩
        -- The end that starts at `c` would need the slash behind `inside` too early.
        exact hstart.trans ⟨↑ '/' :: rest, by simp⟩
      · refine .inr fun d => ?_
        rw [beforeClose?, hnone, Option.map_none]
        rintro r rfl rfl
        exact hend ⟨r, rfl⟩

/-- A text starts with a token, or nothing is read from it. -/
theorem exists_token_or_unread (c : CodePoint) (t : Text) :
    (∃ (tok : Token) (rest : Text), c :: t = tok.text ++ rest ∧ tok.FitsBefore rest) ∨
      ∀ d, beforeClose? .code d (c :: t) = none := by
  by_cases hquote : isQuote c = true
  · have hslash : c ≠ '/' := by
      intro h
      subst h
      exact absurd hquote (by decide)
    rcases exists_enclosed_or_unread (ne_backslash_of_isQuote hquote) t with
      ⟨inside, rest, rfl, hin⟩ | hnone
    · exact .inl ⟨.quoted c inside, rest, by simp [Token.text], hquote, hin⟩
    · exact .inr fun d => by simp [beforeClose?, hslash, hquote, hnone]
  by_cases hopen : c = '\x7b'
  · exact .inl ⟨.openBrace, t, by simp [Token.text, hopen], trivial⟩
  by_cases hclose : c = '\x7d'
  · exact .inl ⟨.closeBrace, t, by simp [Token.text, hclose], trivial⟩
  by_cases hline : (['/', '/'] : Text) <+: c :: t
  · obtain ⟨u, hu⟩ := hline
    obtain ⟨rfl, rfl⟩ := List.cons.inj hu
    rcases exists_line_or_unread u with ⟨inside, rest, rfl, hin⟩ | hnone
    · exact .inl ⟨.lineComment inside, ↑ '\n' :: rest, rfl, hin, rfl⟩
    · exact .inr fun d => by simp [beforeClose?, hnone]
  by_cases hcomment : (['/', '*'] : Text) <+: c :: t
  · obtain ⟨u, hu⟩ := hcomment
    obtain ⟨rfl, rfl⟩ := List.cons.inj hu
    rcases exists_comment_or_unread u with ⟨inside, rest, rfl, hin⟩ | hnone
    · exact .inl ⟨.blockComment inside, rest, by simp [Token.text],
        Text.occursIn_eq_false_iff.2 hin⟩
    · exact .inr fun d => by simp [beforeClose?, hnone]
  refine .inl ⟨.other c, t, rfl, Bool.eq_false_iff.2 hquote, hopen, hclose, ?_⟩
  rintro ⟨rfl, hnext | hnext⟩
  · obtain ⟨u, rfl⟩ := List.head?_eq_some_iff.1 hnext
    exact hline ⟨u, rfl⟩
  · obtain ⟨u, rfl⟩ := List.head?_eq_some_iff.1 hnext
    exact hcomment ⟨u, rfl⟩

/-! ## Reading back -/

/-- **What is read falls into tokens**, and the brace that ends it stands behind them. -/
theorem exists_tokens_of_beforeClose? {n : Nat} (h : beforeClose? .code (n + 1) t = some b) :
    ∃ ts, ∃ more : Text, t = textOf ts ++ ↑ '\x7d' :: more ∧ b = textOf ts ∧ Fit ts ∧
      depthAfter? n ts = some 0 := by
  induction hlength : t.length using Nat.strongRecOn generalizing t b n with
  | ind length ih =>
    subst hlength
    cases t with
    | nil => cases h
    | cons c t =>
      rcases exists_token_or_unread c t with ⟨tok, rest, ht, hfit⟩ | hnone
      · rw [ht] at h ⊢
        rw [beforeClose?_token hfit] at h
        split at h
        · next hclose =>
          obtain ⟨rfl, hn⟩ := hclose
          obtain rfl : n = 0 := by omega
          obtain rfl := Option.some.inj h
          exact ⟨[], rest, rfl, rfl, trivial, rfl⟩
        · next hclose =>
          obtain ⟨b, hread, rfl⟩ := Option.map_eq_some_iff.1 h
          obtain ⟨m, hm, hdepth⟩ := exists_depth (n := n) fun hn =>
            hclose ⟨hn.1, by rw [hn.2]; rfl⟩
          have hshort : rest.length < (c :: t).length := by
            rw [ht, List.length_append]
            exact Nat.lt_add_of_pos_left (List.length_pos_iff.2 tok.text_ne_nil)
          rw [← hm] at hread
          obtain ⟨ts, more, rfl, rfl, hts, hd⟩ := ih _ hshort hread rfl
          exact ⟨tok :: ts, more, by simp [textOf], rfl, ⟨hfit.of_append, hts⟩,
            (hdepth ts).trans hd⟩
      · rw [hnone] at h
        cases h

/-- **A block is read exactly when it has a body**, and as that body. -/
theorem body?_eq_some_iff :
    body? (↑ '\x7b' :: t) = some b ↔ IsBody b ∧ ∃ more : Text, t = b ++ ↑ '\x7d' :: more := by
  constructor
  · intro h
    have hfits : Token.openBrace.FitsBefore t := trivial
    have hopen : beforeClose? .code 0 (↑ '\x7b' :: t) =
        (beforeClose? .code ((0 : Nat) + 1) t).map (↑ '\x7b' :: ·) := beforeClose?_token hfits 0
    rw [body?, hopen, Option.map_map, Option.map_eq_some_iff] at h
    obtain ⟨read, hread, rfl⟩ := h
    obtain ⟨ts, more, rfl, rfl, hfit, hdepth⟩ := exists_tokens_of_beforeClose? hread
    exact ⟨⟨ts, hfit, hdepth, rfl⟩, more, rfl⟩
  · rintro ⟨hbody, more, rfl⟩
    exact body?_of_isBody hbody more

/-! ## Parts of a text -/

/-- The body of the block that opens at `start`, read from the part of the text before `finish`. -/
def bodyBetween? (t : Text) (start finish : Nat) : Option Text := body? ((t.take finish).drop start)

/-- At the offset `start` stands a block with the body `b`. -/
def BlockAt (t : Text) (start : Nat) (b : Text) : Prop :=
  ↑ '\x7b' :: (b ++ (['\x7d'] : Text)) <+: t.drop start ∧ IsBody b

variable {t' : Text} {start finish : Nat}

theorem BlockAt.opens (h : BlockAt t start b) : t[start]? = some ('\x7b' : CodePoint) := by
  obtain ⟨more, hmore⟩ := h.1
  have hfirst : (t.drop start)[0]? = some ('\x7b' : CodePoint) := by
    rw [← hmore]
    rfl
  rwa [List.getElem?_drop, Nat.add_zero] at hfirst

/-- A block does not depend on the text behind it. -/
theorem BlockAt.congr (h : BlockAt t start b)
    (ht : t'.take (start + b.length + 2) = t.take (start + b.length + 2)) :
    BlockAt t' start b := by
  have hlength : (↑ '\x7b' :: (b ++ (['\x7d'] : Text))).length = b.length + 2 := by simp
  refine ⟨?_, h.2⟩
  rw [List.prefix_iff_eq_take, hlength, List.take_drop, ← Nat.add_assoc, ht, Nat.add_assoc,
    ← List.take_drop, ← hlength]
  exact List.prefix_iff_eq_take.1 h.1

/-- A block is read exactly when it ends in the part that is read. -/
theorem bodyBetween?_eq_some_iff (hopen : t[start]? = some ('\x7b' : CodePoint))
    (hlt : start < finish) :
    bodyBetween? t start finish = some b ↔ BlockAt t start b ∧ start + b.length + 2 ≤ finish := by
  obtain ⟨hstart, hchar⟩ := List.getElem?_eq_some_iff.1 hopen
  have hpart : (t.take finish).drop start =
      ↑ '\x7b' :: (t.drop (start + 1)).take (finish - (start + 1)) := by
    rw [List.drop_take, List.drop_eq_getElem_cons hstart, hchar,
      show finish - start = finish - (start + 1) + 1 by omega, List.take_succ_cons]
  have hprefix :
      (∃ more : Text, (t.drop (start + 1)).take (finish - (start + 1)) = b ++ ↑ '\x7d' :: more) ↔
      b ++ (['\x7d'] : Text) <+: (t.drop (start + 1)).take (finish - (start + 1)) := by
    constructor
    · rintro ⟨more, hmore⟩
      exact ⟨more, by rw [hmore, List.append_assoc]; rfl⟩
    · rintro ⟨more, hmore⟩
      exact ⟨more, by rw [← hmore, List.append_assoc]; rfl⟩
  rw [bodyBetween?, hpart, body?_eq_some_iff, hprefix, List.prefix_take_iff, BlockAt,
    List.drop_eq_getElem_cons hstart, hchar, List.cons_prefix_cons, List.length_append,
    List.length_singleton]
  constructor
  · rintro ⟨hbody, hin, hle⟩
    exact ⟨⟨⟨rfl, hin⟩, hbody⟩, by omega⟩
  · rintro ⟨⟨⟨-, hin⟩, hbody⟩, hle⟩
    exact ⟨hbody, hin, by omega⟩

/-- **Blocks are read exactly.** Between a brace and a later offset a body is read if and only if
the brace opens a block with that body which ends before the offset; nothing is read if and only if
there is no such block. What is read does not change with the offset, nor with the text behind the
block. -/
theorem bodyBetween?_exact (t : Text) (start finish : Nat)
    (hopen : t[start]? = some ('\x7b' : CodePoint)) (hlt : start < finish) :
    (∀ b, bodyBetween? t start finish = some b ↔
        BlockAt t start b ∧ start + b.length + 2 ≤ finish) ∧
      (bodyBetween? t start finish = none ↔
        ¬∃ b, BlockAt t start b ∧ start + b.length + 2 ≤ finish) ∧
      ∀ b, bodyBetween? t start finish = some b → ∀ t' finish',
        t'.take (start + b.length + 2) = t.take (start + b.length + 2) →
          start + b.length + 2 ≤ finish' → bodyBetween? t' start finish' = some b := by
  have hread := fun b => bodyBetween?_eq_some_iff (b := b) hopen hlt
  refine ⟨hread, ?_, ?_⟩
  · simp only [Option.eq_none_iff_forall_ne_some, ne_eq, hread, not_exists]
  · intro b hb t' finish' ht hfinish
    have hblock := ((hread b).1 hb).1.congr ht
    exact (bodyBetween?_eq_some_iff hblock.opens (by omega)).2 ⟨hblock, hfinish⟩

/-- A block with closing braces in a string and in a comment, and one more behind it. -/
def nested : Text := "a\x7b'\x7d'//\x7d\n\x7b/\x7d\x7d\x7d"

theorem bodyBetween?_exact_nested :
    nested[1]? = some ('\x7b' : CodePoint) ∧ 1 < 13 ∧
      bodyBetween? nested 1 13 = some ("'\x7d'//\x7d\n\x7b/\x7d" : Text) ∧
      BlockAt nested 1 ("'\x7d'//\x7d\n\x7b/\x7d" : Text) ∧
      bodyBetween? nested 1 14 = some ("'\x7d'//\x7d\n\x7b/\x7d" : Text) := by
  have hopen : nested[1]? = some ('\x7b' : CodePoint) := by decide
  have hbody : bodyBetween? nested 1 13 = some ("'\x7d'//\x7d\n\x7b/\x7d" : Text) := by decide
  obtain ⟨hread, -, hchange⟩ := bodyBetween?_exact nested 1 13 hopen (by decide)
  exact ⟨hopen, by decide, hbody, ((hread _).1 hbody).1, hchange _ hbody nested 14 rfl (by decide)⟩

end Groundplan.Block

import Mathlib.Data.List.Infix
import Groundplan.Flowchart.Label
import Groundplan.Proofs.Text.Run
import Groundplan.Proofs.Text.Search

/-!
# Labels cannot be left

Any text can stand in a label. What is left of it there draws nothing, ends no label and ends no
line.

**Codes.** The replacements of `encode`, one after the other, are one code for each character
(`encode_eq_flatMap`): no code holds a character that is replaced after it.

**Containment.** An escaped text is *plain*: it holds no character that has a code, and no newline
(`isPlain_escape`). So the tags of a label are the breaks between its lines (`ofLines_eq_join`),
and no pattern that needs a `>` but no `/` is found in it (`not_infix_ofLines`).
-/

namespace Groundplan

namespace Text

/-! ## Blanks -/

theorem mem_of_mem_trim {c : CodePoint} {t : Text} (h : c ∈ trim t) : c ∈ t :=
  (List.dropWhile_sublist isBlank).subset ((prefix_dropEnd isBlank _).subset h)

/-- The only blank of a collapsed text is the space. -/
theorem isBlank_eq_false_of_mem_collapse {c : CodePoint} (hc : c ≠ ' ') {t : Text}
    (h : c ∈ collapse t) : isBlank c = false := by
  suffices hrun : ∀ inRun, c ∈ collapseFrom inRun t → isBlank c = false from hrun false h
  clear h
  induction t with
  | nil =>
    intro inRun h
    cases h
  | cons d t ih =>
    intro inRun h
    rw [collapseFrom] at h
    split at h
    · split at h
      · exact ih true h
      · exact ih true (List.mem_of_ne_of_mem hc h)
    · next hd =>
      rcases List.mem_cons.1 h with rfl | h
      · exact Bool.eq_false_iff.2 hd
      · exact ih false h

end Text

namespace Label

/-! ## Codes -/

/-- What a table of codes makes of a character. -/
def codeIn (table : List (CodePoint × Text)) (c : CodePoint) : Text := (table.lookup c).getD [c]

/-- What is written for a character of a label. -/
def code (c : CodePoint) : Text := codeIn codes c

theorem codeIn_of_notMem {table : List (CodePoint × Text)} {c : CodePoint}
    (h : c ∉ table.map Prod.fst) : codeIn table c = [c] := by
  have hnone : table.lookup c = none := by
    rw [List.lookup_eq_none_iff]
    intro p hp
    have hne : c ≠ p.1 := fun hc => h (hc ▸ List.mem_map_of_mem hp)
    exact bne_iff_ne.2 hne
  rw [codeIn, hnone]
  rfl

theorem flatMap_codeIn_of_notMem {table : List (CodePoint × Text)} {t : Text}
    (h : ∀ p ∈ table, p.1 ∉ t) : t.flatMap (codeIn table) = t := by
  induction t with
  | nil => rfl
  | cons c t ih =>
    have hc : c ∉ table.map Prod.fst := by
      intro hc
      obtain ⟨p, hp, rfl⟩ := List.mem_map.1 hc
      exact h p hp (by simp)
    have ht : ∀ p ∈ table, p.1 ∉ t := fun p hp hm => h p hp (List.mem_cons_of_mem c hm)
    rw [List.flatMap_cons, codeIn_of_notMem hc, ih ht]
    rfl

/-- Replacements in a row are one code for each character, if no code holds a character that is
replaced after it. -/
theorem foldl_replaceChar {table : List (CodePoint × Text)}
    (h : table.Pairwise fun p q => q.1 ∉ p.2) (t : Text) :
    table.foldl (fun t (c, code) => replaceChar c code t) t = t.flatMap (codeIn table) := by
  induction table generalizing t with
  | nil => exact (flatMap_codeIn_of_notMem (by simp)).symm
  | cons p table ih =>
    obtain ⟨c, code⟩ := p
    rw [List.pairwise_cons] at h
    have hstep : ∀ a, (if a = c then code else [a]).flatMap (codeIn table) =
        codeIn ((c, code) :: table) a := by
      intro a
      rw [codeIn, List.lookup_cons]
      by_cases ha : a = c
      · rw [if_pos ha, ha, beq_self_eq_true]
        exact flatMap_codeIn_of_notMem h.1
      · rw [if_neg ha, beq_false_of_ne ha, List.flatMap_singleton]
        rfl
    show table.foldl (fun t (c, code) => replaceChar c code t) (replaceChar c code t) = _
    rw [ih h.2, replaceChar, List.flatMap_assoc]
    exact congrArg t.flatMap (funext hstep)

/-- The characters of a label are coded one by one. -/
theorem encode_eq_flatMap (t : Text) : encode t = t.flatMap code :=
  foldl_replaceChar (by decide) t

/-! ## Containment -/

/-- The character would draw something, end a label or end a line. -/
def isMarkup (c : CodePoint) : Bool := (codes.map Prod.fst).contains c || c == '\n'

/-- Nothing of the text is more than text. -/
def IsPlain (t : Text) : Prop := ∀ c ∈ t, isMarkup c = false

instance (t : Text) : Decidable (IsPlain t) := List.decidableBAll _ t

theorem IsPlain.notMem {t : Text} (h : IsPlain t) {c : CodePoint} (hc : isMarkup c = true) :
    c ∉ t := by
  intro hm
  rw [h c hm] at hc
  exact Bool.false_ne_true hc

theorem isPlain_code {c : CodePoint} (h : c ≠ '\n') : IsPlain (code c) := by
  by_cases hc : c ∈ codes.map Prod.fst
  · have hcodes : ∀ p ∈ codes, IsPlain (code p.1) := by decide
    obtain ⟨p, hp, rfl⟩ := List.mem_map.1 hc
    exact hcodes p hp
  · rw [code, codeIn_of_notMem hc]
    intro a ha
    obtain rfl := List.mem_singleton.1 ha
    simp [isMarkup, hc, h]

theorem newline_notMem_normalize (t : Text) : ↑ '\n' ∉ normalize t := by
  intro h
  have hblank := Text.isBlank_eq_false_of_mem_collapse (by decide) (Text.mem_of_mem_trim h)
  exact absurd hblank (by decide)

/-- **Escaped text is plain.** -/
theorem isPlain_escape (t : Text) : IsPlain (escape t) := by
  intro c hc
  rw [escape, encode_eq_flatMap] at hc
  obtain ⟨a, ha, hc⟩ := List.mem_flatMap.1 hc
  have hne : a ≠ '\n' := by
    intro h
    subst h
    exact newline_notMem_normalize t ha
  exact isPlain_code hne c hc

/-- A label is made of plain text and line breaks. -/
theorem ofLines_eq_join (ts : List Text) :
    ∃ pieces, ofLines ts = Text.join lineBreak pieces ∧ ∀ piece ∈ pieces, IsPlain piece := by
  refine ⟨_, rfl, ?_⟩
  intro piece hpiece
  obtain ⟨t, -, rfl⟩ := List.mem_map.1 hpiece
  exact isPlain_escape t

/-- The characters of a break apart, a label holds no markup. In particular it holds neither the
quote that would end it nor a newline. -/
theorem notMem_ofLines (ts : List Text) {c : CodePoint} (hc : isMarkup c = true)
    (hbreak : c ∉ lineBreak) : c ∉ ofLines ts := by
  obtain ⟨pieces, hpieces, hplain⟩ := ofLines_eq_join ts
  have hsep : ∀ a ∈ lineBreak, a ∉ [c] := by
    intro a ha hac
    exact hbreak (List.mem_singleton.1 hac ▸ ha)
  rw [hpieces, ← List.singleton_infix_iff, Text.infix_join_iff (by simp) (by decide) hsep]
  intro h
  obtain ⟨piece, hpiece, h⟩ := h
  exact (hplain piece hpiece).notMem hc ((List.singleton_infix_iff _ _).1 h)

/-- A pattern with a `>` that is not its first character, and without the other characters of a tag,
is not found in a label. -/
theorem not_infix_ofLines {p : Text} (hgt : ↑ '>' ∈ p) (hhead : p.head? ≠ some ↑ '>')
    (hlt : ↑ '<' ∉ p) (hslash : ↑ '/' ∉ p) (ts : List Text) : ¬p <:+: ofLines ts := by
  obtain ⟨pieces, hpieces, hplain⟩ := ofLines_eq_join ts
  have hp : p ≠ [] := List.ne_nil_of_mem hgt
  have hplainText : ∀ {t : Text}, ↑ '>' ∉ t → ¬p <:+: t := fun ht h => ht (h.subset hgt)
  rw [hpieces]
  clear hpieces
  induction pieces with
  | nil => exact fun h => hp (List.infix_nil.1 h)
  | cons a pieces ih =>
    have ha : ¬p <:+: a := hplainText ((hplain a (by simp)).notMem (by decide))
    cases pieces with
    | nil =>
      rw [Text.join_singleton]
      exact ha
    | cons b pieces =>
      have hrest := ih fun piece h => hplain piece (List.mem_cons_of_mem a h)
      have hbreak : lineBreak = (['<', 'b', 'r', '/', '>'] : Text) := rfl
      have htag : ¬p <:+: (['b', 'r'] : Text) := hplainText (by decide)
      rw [Text.join_cons_cons, hbreak, List.append_assoc]
      show ¬p <:+: a ++ ↑ '<' :: ((['b', 'r'] : Text) ++ ↑ '/' :: ↑ '>' :: (_ : Text))
      rw [Text.infix_append_cons_iff hp hlt, Text.infix_append_cons_iff hp hslash]
      intro h
      rcases h with h | h | h
      · exact ha h
      · exact htag h
      · rcases List.infix_cons_iff.1 h with h | h
        · rcases List.prefix_cons_iff.1 h with rfl | ⟨r, rfl, -⟩
          · exact hp rfl
          · exact hhead rfl
        · exact hrest h

end Label

end Groundplan

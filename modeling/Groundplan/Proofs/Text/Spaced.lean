import Groundplan.Proofs.Text.Run
import Groundplan.Proofs.Text.Search

/-!
# Spaces between chunks

**Chunks.** The chunks of a text are what stands between its blanks. Collapsing the blanks of a text
and trimming it leaves its chunks with one space between neighbours (`trim_collapse`).

**Spaced texts.** Chunks with one space between neighbours make a text in which spaces stand one by
one, with something on both sides, and which has no other blank (`isSpaced_join`). Such a text has
these chunks (`chunks_join`), so collapsing and trimming it changes nothing.
-/

namespace Groundplan.Text

variable {t u w front : Text} {ws : List Text} {c : CodePoint}

/-! ## Chunks -/

/-- Characters, at least one, of which none is a blank. -/
def IsChunk (t : Text) : Prop := t ≠ [] ∧ ∀ c ∈ t, isBlank c = false

/-- What stands between the blanks of a text. -/
def chunks (t : Text) : List Text := (split isBlank t).filter fun w => !w.isEmpty

theorem IsChunk.chunks_eq (h : IsChunk t) : chunks t = [t] := by
  rw [chunks, split_of_forall_not h.2]
  simp [h.1]

theorem chunks_append_cons (hc : isBlank c = true) (t u : Text) :
    chunks (t ++ c :: u) = chunks t ++ chunks u := by
  rw [chunks, split_append_cons hc, List.filter_append]
  rfl

theorem isChunk_of_mem_chunks (h : w ∈ chunks t) : IsChunk w := by
  obtain ⟨hpiece, hne⟩ := List.mem_filter.1 h
  exact ⟨by simpa using hne, eq_false_of_mem_split hpiece⟩

/-- Chunks that are joined with spaces are read back. -/
theorem chunks_join (h : ∀ w ∈ ws, IsChunk w) : chunks (join [' '] ws) = ws := by
  by_cases hws : ws = []
  · rw [hws]
    rfl
  · rw [chunks, split_join (by decide) hws fun w hw => (h w hw).2, List.filter_eq_self]
    intro w hw
    simp [(h w hw).1]

/-! ## Spaced texts -/

/-- Spaces stand one by one and inside of the text, and there are no other blanks in it. -/
structure IsSpaced (t : Text) : Prop where
  blank : ∀ c ∈ t, isBlank c = true → c = ' '
  head : t.head? ≠ some ↑ ' '
  last : t.getLast? ≠ some ↑ ' '
  single : ¬([' ', ' '] : Text) <:+: t

theorem IsSpaced.startsNo (h : IsSpaced t) : StartsNo isBlank t := by
  intro c hc
  rw [← Bool.not_eq_true]
  intro hblank
  have hspace := h.blank c (List.mem_of_mem_head? hc) hblank
  exact h.head (hspace ▸ hc)

theorem IsSpaced.endsNo (h : IsSpaced t) : EndsNo isBlank t := by
  intro c hc
  rw [← Bool.not_eq_true]
  intro hblank
  have hspace := h.blank c (List.mem_of_getLast? hc) hblank
  exact h.last (hspace ▸ hc)

/-- A space at an end or behind a space has an empty piece beside it, so chunks make up a spaced
text. -/
theorem isSpaced_join (h : ∀ w ∈ ws, IsChunk w) : IsSpaced (join [' '] ws) := by
  by_cases hws : ws = []
  · subst hws
    exact ⟨by simp [join], by simp [join], by simp [join], by simp [join]⟩
  have hsplit : split isBlank (join [' '] ws) = ws :=
    split_join (by decide) hws fun w hw => (h w hw).2
  have hpiece : ∀ front rest : Text, join [' '] ws = front ++ ↑ ' ' :: rest →
      [] ∉ split isBlank front ∧ [] ∉ split isBlank rest := by
    intro front rest hcut
    have hfull : [] ∉ split isBlank (front ++ ↑ ' ' :: rest) := by
      rw [← hcut, hsplit]
      exact fun hnil => (h [] hnil).1 rfl
    rw [split_append_cons (by decide), List.mem_append, not_or] at hfull
    exact hfull
  refine ⟨?_, ?_, ?_, ?_⟩
  · intro c hc hblank
    by_cases hspace : c = ' '
    · exact hspace
    · obtain ⟨w, hw, hcw⟩ := (mem_join_iff (by simpa using hspace)).1 hc
      rw [(h w hw).2 c hcw] at hblank
      exact absurd hblank Bool.false_ne_true
  · intro hhead
    obtain ⟨rest, hrest⟩ := List.head?_eq_some_iff.1 hhead
    exact (hpiece [] rest hrest).1 (by simp [split])
  · intro hlast
    obtain ⟨front, hfront⟩ := List.getLast?_eq_some_iff.1 hlast
    exact (hpiece front [] hfront).2 (by simp [split])
  · intro hdouble
    obtain ⟨front, rest, hcut⟩ := hdouble
    rw [List.append_assoc] at hcut
    refine (hpiece front (↑ ' ' :: rest) hcut.symm).2 ?_
    rw [← List.nil_append (↑ ' ' :: rest), split_append_cons (by decide)]
    simp [split]

/-! ## Collapsing -/

theorem collapseFrom_false_append (h : ∀ c ∈ front, isBlank c = false) (t : Text) :
    collapseFrom false (front ++ t) = front ++ collapseFrom false t := by
  induction front with
  | nil => rfl
  | cons c front ih =>
    rw [List.forall_mem_cons] at h
    rw [List.cons_append, collapseFrom, h.1, ih h.2]
    rfl

/-- A chunk ends the run of blanks in front of it. -/
theorem IsChunk.collapseFrom_append (h : IsChunk front) (inRun : Bool) (t : Text) :
    collapseFrom inRun (front ++ t) = front ++ collapseFrom false t := by
  obtain ⟨hne, hfront⟩ := h
  cases front with
  | nil => exact absurd rfl hne
  | cons c front =>
    rw [List.forall_mem_cons] at hfront
    rw [List.cons_append, collapseFrom, hfront.1, collapseFrom_false_append hfront.2]
    rfl

theorem collapseFrom_false_cons (hc : isBlank c = true) (t : Text) :
    collapseFrom false (c :: t) = ↑ ' ' :: collapseFrom true t := by
  rw [collapseFrom, if_pos hc, if_neg Bool.false_ne_true]

/-- Behind a run of blanks, collapsing leaves the chunks with one space between neighbours, and
perhaps one at the end. -/
theorem exists_collapseFrom_true (t : Text) : ∃ back,
    collapseFrom true t = join [' '] (chunks t) ++ back ∧ ∀ c ∈ back, isBlank c = true := by
  induction t using split_induction (p := isBlank) with
  | piece t hfree =>
    refine ⟨[], ?_, by simp⟩
    by_cases ht : t = []
    · rw [ht]
      rfl
    · have hchunk : IsChunk t := ⟨ht, hfree⟩
      have hcollapse := hchunk.collapseFrom_append true []
      rw [List.append_nil] at hcollapse
      rw [hcollapse, hchunk.chunks_eq, join_singleton]
      rfl
  | cut front c rest hfront hc ih =>
    obtain ⟨back, hrest, hback⟩ := ih
    rw [chunks_append_cons hc]
    by_cases hne : front = []
    · refine ⟨back, ?_, hback⟩
      rw [hne, List.nil_append, collapseFrom, if_pos hc, if_pos rfl, hrest]
      rfl
    · have hchunk : IsChunk front := ⟨hne, hfront⟩
      rw [hchunk.collapseFrom_append, collapseFrom_false_cons hc, hrest, hchunk.chunks_eq]
      cases chunks rest with
      | nil =>
        refine ⟨↑ ' ' :: back, ?_, List.forall_mem_cons.2 ⟨by decide, hback⟩⟩
        rw [List.append_nil, join_singleton]
        rfl
      | cons w ws =>
        refine ⟨back, ?_, hback⟩
        rw [List.singleton_append, join_cons_cons]
        simp

/-- The two ways to start differ in a space at the front. -/
theorem collapse_cases (t : Text) :
    collapse t = collapseFrom true t ∨ collapse t = ↑ ' ' :: collapseFrom true t := by
  cases t with
  | nil => exact .inl rfl
  | cons c t =>
    cases hc : isBlank c with
    | false =>
      left
      rw [collapse, collapseFrom, collapseFrom, hc]
      rfl
    | true =>
      right
      rw [collapse, collapseFrom_false_cons hc, collapseFrom, if_pos hc, if_pos rfl]

/-- **Collapsing and trimming leaves the chunks, with one space between neighbours.** -/
theorem trim_collapse (t : Text) : trim (collapse t) = join [' '] (chunks t) := by
  obtain ⟨back, hcollapse, hback⟩ := exists_collapseFrom_true t
  have hspaced : IsSpaced (join [' '] (chunks t)) := isSpaced_join fun w => isChunk_of_mem_chunks
  have hnil : ∀ c ∈ ([] : Text), isBlank c = true := by simp
  have hspace : ∀ c ∈ ([' '] : Text), isBlank c = true := List.forall_mem_singleton.2 rfl
  rcases collapse_cases t with h | h
  · rw [h, hcollapse]
    exact trim_append_append hnil hspaced.startsNo hspaced.endsNo hback
  · rw [h, hcollapse]
    exact trim_append_append hspace hspaced.startsNo hspaced.endsNo hback

end Groundplan.Text

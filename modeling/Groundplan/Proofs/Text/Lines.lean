import Groundplan.Proofs.Text.Search
import Groundplan.Text.Lines

/-!
# Lines of text files

**Endings.** No line of a text file holds a character that ends one (`isPlain_of_mem_fileLines`).
Behind a newline, a text goes on with lines of its own (`fileLines_append_newline`).

**Newlines.** Where newlines are the only line ends (`NewlineOnly`), the lines of a text file are
the pieces between its newlines, less an empty piece at the end (`fileLines_eq`). So the pieces say
whether the text ends with a newline (`getLast?_eq_newline_iff`).
-/

namespace Groundplan.Text

variable {t front rest l : Text}

/-! ## Endings -/

/-- No character of the text ends a line. -/
def IsPlain (t : Text) : Prop := ∀ c ∈ t, isLineEnd c = false

theorem IsPlain.newline_notMem (h : IsPlain t) : ↑ '\n' ∉ t := by
  intro hnewline
  have hend := h '\n' hnewline
  exact absurd hend (by decide)

/-- The first line of a text is plain. -/
theorem isPlain_breakLine (t : Text) : IsPlain (breakLine t).1 := by
  fun_induction breakLine t with
  | case1 => simp [IsPlain]
  | case2 => simp [IsPlain]
  | case3 => simp [IsPlain]
  | case4 c r hr hc line rest hbreak ih =>
    rw [hbreak] at ih
    exact List.forall_mem_cons.2 ⟨by simpa using hc, ih⟩

theorem length_breakLine (h : (breakLine t).2 = some rest) : rest.length < t.length := by
  fun_induction breakLine t with
  | case1 => simp at h
  | case2 r =>
    obtain rfl := Option.some.inj h
    simp only [List.length_cons]
    omega
  | case3 c r =>
    obtain rfl := Option.some.inj h
    simp
  | case4 c r hr hc line rest' hbreak ih =>
    rw [hbreak] at ih
    have hlength := ih h
    simp only [List.length_cons]
    omega

theorem breakLine_of_isPlain (h : IsPlain t) : breakLine t = (t, none) := by
  induction t with
  | nil => rfl
  | cons c t ih =>
    rw [IsPlain, List.forall_mem_cons] at h
    have hreturn : c ≠ '\r' := by
      intro hc
      rw [hc] at h
      exact absurd h.1 (by decide)
    simp [breakLine, hreturn, h.1, ih h.2]

theorem breakLine_append_newline (h : IsPlain front) (rest : Text) :
    breakLine (front ++ ↑ '\n' :: rest) = (front, some rest) := by
  induction front with
  | nil => rfl
  | cons c front ih =>
    rw [IsPlain, List.forall_mem_cons] at h
    have hreturn : c ≠ '\r' := by
      intro hc
      rw [hc] at h
      exact absurd h.1 (by decide)
    simp [breakLine, hreturn, h.1, ih h.2]

/-! ## Lines -/

/-- The first line stands in front of the lines of what follows it. -/
theorem fileLinesFrom_succ {fuel : Nat} (h : t ≠ []) : fileLinesFrom (fuel + 1) t =
    (breakLine t).1 :: (breakLine t).2.elim [] (fileLinesFrom fuel) := by
  cases t with
  | nil => exact absurd rfl h
  | cons c t =>
    rw [fileLinesFrom]
    · cases breakLine (c :: t) with
      | mk line rest => cases rest <;> rfl
    · simp

/-- A text has fewer line ends than characters, so the number of them that are allowed does not
matter. -/
theorem fileLinesFrom_eq {m n : Nat} (hm : t.length < m) (hn : t.length < n) :
    fileLinesFrom m t = fileLinesFrom n t := by
  induction m generalizing n t with
  | zero => omega
  | succ m ih =>
    obtain ⟨n, rfl⟩ : ∃ k, n = k + 1 := ⟨n - 1, by omega⟩
    by_cases hne : t = []
    · rw [hne]
      rfl
    · rw [fileLinesFrom_succ hne, fileLinesFrom_succ hne]
      cases hrest : (breakLine t).2 with
      | none => rfl
      | some rest =>
        have hlength := length_breakLine hrest
        show _ :: fileLinesFrom m rest = _ :: fileLinesFrom n rest
        rw [ih (n := n) (by omega) (by omega)]

theorem isPlain_of_mem_fileLinesFrom {fuel : Nat} (h : l ∈ fileLinesFrom fuel t) : IsPlain l := by
  induction fuel generalizing t with
  | zero => simp [fileLinesFrom] at h
  | succ fuel ih =>
    by_cases hne : t = []
    · simp [hne, fileLinesFrom] at h
    · rw [fileLinesFrom_succ hne] at h
      rcases List.mem_cons.1 h with rfl | h
      · exact isPlain_breakLine t
      · cases hrest : (breakLine t).2 with
        | none => simp [hrest] at h
        | some rest =>
          rw [hrest] at h
          exact ih h

/-- No line holds a character that ends one. -/
theorem isPlain_of_mem_fileLines (h : l ∈ fileLines t) : IsPlain l :=
  isPlain_of_mem_fileLinesFrom h

theorem fileLines_eq_nil_iff : fileLines t = [] ↔ t = [] := by
  by_cases hne : t = []
  · simp [hne, fileLines, fileLinesFrom]
  · simp [hne, fileLines, fileLinesFrom_succ]

theorem fileLines_of_isPlain (h : IsPlain t) (hne : t ≠ []) : fileLines t = [t] := by
  rw [fileLines, fileLinesFrom_succ hne, breakLine_of_isPlain h]
  rfl

theorem fileLines_append_newline (h : IsPlain front) (rest : Text) :
    fileLines (front ++ ↑ '\n' :: rest) = front :: fileLines rest := by
  have hlength : rest.length < (front ++ ↑ '\n' :: rest).length := by simp; omega
  rw [fileLines, fileLines, fileLinesFrom_eq (Nat.lt_succ_self rest.length) hlength,
    fileLinesFrom_succ (by simp), breakLine_append_newline h]
  rfl

/-! ## Newlines -/

/-- Only newlines end a line of the text. -/
def NewlineOnly (t : Text) : Prop := ∀ c ∈ t, isLineEnd c = true → c = '\n'

/-! The text is gone through, not the characters that there are. -/

instance (t : Text) : Decidable (NewlineOnly t) := List.decidableBAll _ t

theorem IsPlain.newlineOnly (h : IsPlain t) : NewlineOnly t := by
  intro c hc hend
  rw [h c hc] at hend
  cases hend

theorem NewlineOnly.isPlain (h : NewlineOnly t) (hnewline : ↑ '\n' ∉ t) : IsPlain t := by
  intro c hc
  rw [← Bool.not_eq_true]
  intro hend
  exact hnewline (h c hc hend ▸ hc)

theorem newlineOnly_append {a b : Text} :
    NewlineOnly (a ++ b) ↔ NewlineOnly a ∧ NewlineOnly b := List.forall_mem_append

theorem newlineOnly_cons_newline : NewlineOnly (↑ '\n' :: t) ↔ NewlineOnly t := by
  simp [NewlineOnly]

theorem newlineOnly_join {ls : List Text} (h : ∀ l ∈ ls, IsPlain l) :
    NewlineOnly (join ['\n'] ls) := by
  induction ls with
  | nil => simp [join, NewlineOnly]
  | cons a ls ih =>
    rw [List.forall_mem_cons] at h
    cases ls with
    | nil =>
      rw [join_singleton]
      exact h.1.newlineOnly
    | cons b ls =>
      rw [join_cons_cons, List.append_assoc, newlineOnly_append]
      exact ⟨h.1.newlineOnly, newlineOnly_cons_newline.2 (ih h.2)⟩

/-- The list without an empty text at its end. -/
def closed (ls : List Text) : List Text := if ls.getLast? = some [] then ls.dropLast else ls

theorem mem_of_mem_closed {ls : List Text} (h : l ∈ closed ls) : l ∈ ls := by
  unfold closed at h
  split at h
  · exact List.dropLast_subset ls h
  · exact h

theorem closed_cons {ls : List Text} (h : ls ≠ []) : closed (l :: ls) = l :: closed ls := by
  obtain ⟨b, ls, rfl⟩ := List.exists_cons_of_ne_nil h
  rw [closed, closed, List.getLast?_cons_cons]
  split <;> rfl

theorem getLast?_map_eq_nil_iff {f : Text → Text} (h : ∀ l, f l = [] ↔ l = []) {ls : List Text} :
    (ls.map f).getLast? = some [] ↔ ls.getLast? = some [] := by
  rw [List.getLast?_map, Option.map_eq_some_iff]
  simp [h]

/-- What changes no text into an empty one, or back, does not change which piece is left out. -/
theorem closed_map {f : Text → Text} (h : ∀ l, f l = [] ↔ l = []) (ls : List Text) :
    closed (ls.map f) = (closed ls).map f := by
  have hlast : (ls.map f).getLast? = some [] ↔ ls.getLast? = some [] := getLast?_map_eq_nil_iff h
  rw [closed, closed]
  by_cases hempty : ls.getLast? = some []
  · rw [if_pos (hlast.2 hempty), if_pos hempty, List.map_dropLast]
  · rw [if_neg (mt hlast.1 hempty), if_neg hempty]

theorem lines_ne_nil (t : Text) : lines t ≠ [] := split_ne_nil _ t

/-- **Between newlines.** The lines of the file are the pieces between its newlines, less an empty
piece at the end. -/
theorem fileLines_eq (h : NewlineOnly t) : fileLines t = closed (lines t) := by
  induction t using split_induction (p := (· == '\n')) with
  | piece t hfree =>
    have hnewline : ↑ '\n' ∉ t := fun hmem => absurd (hfree '\n' hmem) (by decide)
    rw [lines, split_of_forall_not hfree]
    by_cases hne : t = []
    · rw [hne]
      rfl
    · rw [fileLines_of_isPlain (h.isPlain hnewline) hne]
      simp [closed, hne]
  | cut front c rest hfront hc ih =>
    obtain rfl : c = '\n' := by simpa using hc
    have hnewline : ↑ '\n' ∉ front := fun hmem => absurd (hfront '\n' hmem) (by decide)
    rw [newlineOnly_append, newlineOnly_cons_newline] at h
    rw [fileLines_append_newline (h.1.isPlain hnewline), ih h.2, lines_append_newline hnewline,
      closed_cons (lines_ne_nil rest)]

theorem join_append_nil {sep : Text} {ls : List Text} (h : ls ≠ []) :
    join sep (ls ++ [[]]) = join sep ls ++ sep := by
  rw [join_append_singleton h, List.append_nil]

/-- A text ends with a newline when its last piece is empty and not the only one. -/
theorem getLast?_eq_newline_iff :
    t.getLast? = some ↑ '\n' ↔ 1 < (lines t).length ∧ (lines t).getLast? = some [] := by
  constructor
  · intro h
    obtain ⟨front, rfl⟩ := List.getLast?_eq_some_iff.1 h
    have hfront := List.length_pos_iff.2 (lines_ne_nil front)
    have hlast : lines [] = [[]] := rfl
    rw [lines_append_cons, hlast]
    simp
    omega
  · intro h
    obtain ⟨hlength, hlast⟩ := h
    obtain ⟨ls, hlines⟩ := List.getLast?_eq_some_iff.1 hlast
    have hne : ls ≠ [] := by
      intro hnil
      simp [hlines, hnil] at hlength
    rw [← join_lines t, hlines, join_append_nil hne]
    simp

end Groundplan.Text

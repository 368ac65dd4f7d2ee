import Groundplan.Proofs.Yaml.Repair

/-!
# Comments behind repaired values

**Where a comment starts.** A comment opens with the first number sign that stands directly behind a
blank (`OpensComment`). The blanks in front of the value belong to no value, so a comment directly
behind them is not seen as one.

**Values with a comment.** Behind a value, the comment is cut off with the blanks in front of it
(`splitComment_append_comment`), and stays behind the second quotation mark.

Main result: `comment_stays_behind_value`.
-/

namespace Groundplan.Yaml.Repair

open Text

variable {t lead rest front comment body gap : Text} {c : Change}

/-- The text behind a colon has its first comment behind `front`. -/
structure OpensComment (rest front comment : Text) : Prop where
  split : rest = front ++ comment
  opens : comment.head? = some ↑ '#'
  behind_blank : ¬EndsNo isBlank front
  first : ∀ a b : Text, front = a ++ ↑ '#' :: b → EndsNo isBlank a

/-- A text without a number sign that ends with a blank may stand in front of a comment. -/
theorem opensComment_of_notMem (hsplit : rest = front ++ comment) (hfront : ↑ '#' ∉ front)
    (hbehind : ¬EndsNo isBlank front) (hopens : comment.head? = some ↑ '#') :
    OpensComment rest front comment where
  split := hsplit
  opens := hopens
  behind_blank := hbehind
  first a b heq := absurd (heq ▸ by simp) hfront

theorem startsNo_of_head? (h : comment.head? = some ↑ '#') : StartsNo isBlank comment := by
  intro c hc
  rw [h] at hc
  obtain rfl := Option.some.inj hc
  decide

/-- The first comment is cut off with the blanks in front of it. -/
theorem splitComment_append_comment (hends : EndsNo isBlank body)
    (hfirst : ∀ a b : Text, body = a ++ ↑ '#' :: b → EndsNo isBlank a) (hgap : IsBlankRun gap)
    (hopens : comment.head? = some ↑ '#') :
    splitComment (body ++ (gap ++ comment)) = (body, gap ++ comment) := by
  have hstarts := startsNo_of_head? hopens
  induction body with
  | nil =>
    obtain ⟨hne, hblank⟩ := hgap
    obtain ⟨d, gap, rfl⟩ := List.exists_cons_of_ne_nil hne
    rw [List.forall_mem_cons] at hblank
    have htrim : trimStart (gap ++ comment) = comment := dropWhile_append_startsNo hblank.2 hstarts
    rw [List.nil_append, List.cons_append, splitComment, htrim]
    simp [hblank.1, hopens]
  | cons d body ih =>
    have hrest := ih (EndsNo.of_append (a := [d]) hends) fun a b hbody =>
      EndsNo.of_append (a := [d]) (hfirst (d :: a) b (by rw [hbody]; rfl))
    have hgoes : ¬(isBlank d = true ∧
        (trimStart (body ++ (gap ++ comment))).head? = some ↑ '#') := by
      rintro ⟨hd, hhead⟩
      obtain ⟨hsolid, indent, hbody, hindent⟩ := trimStart_spec body
      have hblank : ∀ e ∈ d :: indent, isBlank e = true := List.forall_mem_cons.2 ⟨hd, hindent⟩
      have hnot := not_endsNo_of_forall (List.cons_ne_nil d indent) hblank
      cases hvalue : trimStart body with
      | nil =>
        -- Then blanks end the body.
        rw [hvalue, List.append_nil] at hbody
        exact hnot (hbody ▸ hends)
      | cons e value =>
        -- Then a comment opens in the body.
        rw [hvalue] at hbody hsolid
        have htrim : trimStart (body ++ (gap ++ comment)) = e :: value ++ (gap ++ comment) := by
          rw [hbody, List.append_assoc]
          exact dropWhile_append_startsNo hindent (hsolid.append (List.cons_ne_nil e value) _)
        rw [htrim] at hhead
        obtain rfl : e = '#' := Option.some.inj hhead
        exact hnot (hfirst (d :: indent) value (by rw [hbody]; rfl))
    rw [List.cons_append, splitComment, hrest]
    simp only [Bool.and_eq_true, decide_eq_true_eq]
    rw [if_neg hgoes]

/-- A line of a change with its value, as it is put between quotation marks. -/
theorem after_eq_of_mem_changes (hc : c ∈ changes t) (hlead : IsLead lead)
    (hgap : ∀ d ∈ gap, isBlank d = true) {value : Text} (hstarts : StartsNo isBlank value)
    (hne : value ≠ []) (hline : c.before = lead ++ (gap ++ value)) :
    c.after = lead ++ gap ++ ↑ '"' :: escape (splitComment value).1 ++
      ↑ '"' :: (splitComment value).2 := by
  obtain ⟨_, -, -, hafter⟩ := mem_changes_iff.1 hc
  obtain ⟨start, value', hvalue, -, -, hrepair⟩ := line?_eq_some_iff.1 hafter
  have hsame := value?_eq_some_iff.2 ⟨hne, hstarts, lead, gap, hlead, hgap, rfl,
    hline.trans (List.append_assoc ..).symm⟩
  rw [hvalue] at hsame
  obtain ⟨rfl, rfl⟩ := Prod.mk.inj (Option.some.inj hsame)
  exact hrepair

/-- **A comment stays behind its value.** When a line is repaired and a value stands in front of its
first comment, this comment with blanks in front of it is what stands behind the second quotation
mark. Where only blanks stand between the colon and the comment, the comment is taken for the value,
and it starts directly behind the first quotation mark. -/
theorem comment_stays_behind_value (hc : c ∈ changes t) (hlead : IsLead lead)
    (hline : c.before = lead ++ rest) (hcomment : OpensComment rest front comment) :
    ((∃ d ∈ front, isBlank d = false) → ∃ start body gap,
        front = start ++ (body ++ gap) ∧ IsBlankRun gap ∧
        c.after = lead ++ start ++ ↑ '"' :: escape body ++ ↑ '"' :: (gap ++ comment)) ∧
      ((∀ d ∈ front, isBlank d = true) → ∃ body finish : Text, comment = ↑ '#' :: body ++ finish ∧
        c.after = lead ++ front ++ ↑ '"' :: escape (↑ '#' :: body) ++ ↑ '"' :: finish) := by
  obtain ⟨rfl, hopens, hbehind, hfirst⟩ := hcomment
  have hne : comment ≠ [] := by
    rintro rfl
    cases hopens
  constructor
  · rintro ⟨d, hd, hsolid⟩
    obtain ⟨hstarts, start, hfront, hstart⟩ := trimStart_spec front
    obtain ⟨hends, gap, hvalue, hgap⟩ := dropEnd_spec isBlank (trimStart front)
    generalize dropEnd isBlank (trimStart front) = body at hends hvalue
    rw [hvalue] at hfront hstarts
    have hbody : body ≠ [] := by
      rintro rfl
      rw [hfront] at hd
      have hblank := List.forall_mem_append.2 ⟨hstart, hgap⟩ d hd
      rw [hsolid] at hblank
      cases hblank
    have hrun : IsBlankRun gap := by
      refine ⟨?_, hgap⟩
      rintro rfl
      rw [List.append_nil] at hfront
      rw [hfront, endsNo_append hbody] at hbehind
      exact hbehind hends
    have hfree : ∀ a b : Text, body = a ++ ↑ '#' :: b → EndsNo isBlank a := fun a b heq =>
      EndsNo.of_append (hfirst (start ++ a) (b ++ gap) (by rw [hfront, heq]; simp))
    have hvalue_starts : StartsNo isBlank (body ++ (gap ++ comment)) :=
      hstarts.of_append.append hbody _
    have hafter := after_eq_of_mem_changes hc hlead hstart hvalue_starts (by simp [hbody])
      (by rw [hline, hfront]; simp)
    rw [splitComment_append_comment hends hfree hrun hopens] at hafter
    exact ⟨start, body, gap, hfront, hrun, hafter⟩
  · intro hblank
    obtain ⟨comment, rfl⟩ : ∃ r, comment = ↑ '#' :: r := by
      cases comment with
      | nil => exact absurd rfl hne
      | cons d r =>
        obtain rfl := Option.some.inj hopens
        exact ⟨r, rfl⟩
    have hafter := after_eq_of_mem_changes hc hlead hblank (startsNo_of_head? hopens) hne hline
    have hsplit : splitComment (↑ '#' :: comment) =
        (↑ '#' :: (splitComment comment).1, (splitComment comment).2) := by
      rw [splitComment]
      rfl
    rw [hsplit] at hafter
    exact ⟨_, _, by rw [List.cons_append, splitComment_append], hafter⟩

/-- A value with a colon and a comment behind it. -/
def commentedSource : Text := "name: a: b # c: d\n"

theorem comment_stays_behind_value_commented :
    (⟨1, "name: a: b # c: d", "name: \"a: b\" # c: d"⟩ : Change) ∈ changes commentedSource ∧
      OpensComment " a: b # c: d" " a: b " "# c: d" ∧
      ∃ start body gap, (" a: b " : Text) = start ++ (body ++ gap) ∧ IsBlankRun gap ∧
        ("name: \"a: b\" # c: d" : Text) =
          ("name:" : Text) ++ start ++ ↑ '"' :: escape body ++ ↑ '"' ::
            (gap ++ ("# c: d" : Text)) := by
  have hchange : (⟨1, "name: a: b # c: d", "name: \"a: b\" # c: d"⟩ : Change) ∈
      changes commentedSource := by decide +kernel
  have hlead : IsLead "name:" :=
    ⟨[], [], "name", by decide, by simp, .inl rfl, by decide⟩
  have hcomment : OpensComment " a: b # c: d" " a: b " "# c: d" :=
    opensComment_of_notMem rfl (by decide) (by decide) rfl
  exact ⟨hchange, hcomment,
    (comment_stays_behind_value hchange hlead rfl hcomment).1 ⟨↑ 'a', by decide, by decide⟩⟩

/-- A key without a value, and a comment that holds a colon. -/
def emptySource : Text := "name: # note: x\n"

/-- A comment that is put between quotation marks. -/
theorem comment_becomes_value :
    ∃ c ∈ changes emptySource, IsLead "name:" ∧ c.before = ("name:" ++ " # note: x" : Text) ∧
      OpensComment " # note: x" " " "# note: x" ∧ ¬("# note: x" : Text) <:+ c.after ∧
      c.after = "name: \"# note: x\"" := by
  refine ⟨⟨1, "name: # note: x", "name: \"# note: x\""⟩, by decide +kernel,
    ⟨[], [], "name", by decide, by simp, .inl rfl, by decide⟩, by decide,
    opensComment_of_notMem rfl (by decide) (by decide) rfl, by decide, rfl⟩

end Groundplan.Yaml.Repair

import Groundplan.Inference
import Groundplan.Proofs.Declaration.Opening

/-!
# Reading back a list of dependencies

A list of dependencies is written with one identifier on each line, behind it perhaps a comma and a
line comment (`Listing.Entry`, `Listing.listing`). Five passes read it: the list is found, its block
comments and then its line comments are removed, the rest is cut into items, and these are trimmed.

**The list** ends at the first closing bracket, also at one inside a comment (`dependsOn_list`).

**Block comments** are removed before line comments, so the text of a line comment takes part. A
line is read on its own when no block comment that opens in it goes on behind its end (`StaysIn`,
`withoutBlockComments_append_newline`).

**Lines.** What is left of a line is what stands in front of its comment, and that has one item, the
identifier (`Entry.items_front`), which comes in front of what the other lines list
(`Entry.Contained.listItems_append`).

Main result: `dependsOn_listing`. A list is read back if its block comments stay in their lines and
no comment holds a closing bracket; the first closing bracket in a comment ends the list. Without
these conditions entries are lost (`dependsOn_listing_loses`).
-/

namespace Groundplan

namespace Body


variable {t rest : Text} {c : CodePoint}

/-! ## Finding the list -/

theorem dependencyListsFrom_skip (skip : Nat) (t : Text) :
    dependencyListsFrom skip t = dependencyLists (t.drop skip) := by
  induction t generalizing skip with
  | nil => cases skip <;> rfl
  | cons c t ih =>
    cases skip with
    | zero => rfl
    | succ skip => exact ih skip

theorem dependencyList?_list {items : Text} (h : ↑ ']' ∉ items) (rest : Text) :
    dependencyList? (("dependsOn: [" : Text) ++ (items ++ ↑ ']' :: rest)) =
      some (items, items.length + 13) := by
  have hname : Text.after? "dependsOn" (("dependsOn: [" : Text) ++ (items ++ ↑ ']' :: rest)) =
      some ((": [" : Text) ++ (items ++ ↑ ']' :: rest)) := Text.after?_append "dependsOn" _
  have hcolon : Text.after? ":" (Text.trimStart ((": [" : Text) ++ (items ++ ↑ ']' :: rest))) =
      some ((" [" : Text) ++ (items ++ ↑ ']' :: rest)) := rfl
  have hopen : Text.after? "[" (Text.trimStart ((" [" : Text) ++ (items ++ ↑ ']' :: rest))) =
      some (items ++ ↑ ']' :: rest) := rfl
  have hspan : (items ++ ↑ ']' :: rest).takeWhile (· != ↑ ']') = items :=
    Text.takeWhile_append_startsNo (fun c hc => bne_iff_ne.2 fun heq => h (heq ▸ hc))
      (Text.startsNo_cons.2 (bne_self_eq_false _))
  have hclosed : items.length ≠ (items ++ ↑ ']' :: rest).length := by
    rw [List.length_append, List.length_cons]
    omega
  have hlength : (("dependsOn: [" : Text) ++ (items ++ ↑ ']' :: rest)).length -
      (items ++ ↑ ']' :: rest).length + items.length + 1 = items.length + 13 := by
    rw [List.length_append, Nat.add_sub_cancel]
    show 12 + items.length + 1 = items.length + 13
    omega
  simp only [dependencyList?, hname, hcolon, hopen, Option.bind_eq_bind, Option.bind_some, hspan,
    if_neg hclosed, hlength]
  rfl

/-- **The list ends at the first closing bracket**, and the search goes on behind it. -/
theorem dependencyLists_list {items : Text} (h : ↑ ']' ∉ items) (rest : Text) :
    dependencyLists (("dependsOn: [" : Text) ++ (items ++ ↑ ']' :: rest)) =
      items :: dependencyLists rest := by
  have hlist := dependencyList?_list h rest
  obtain ⟨u, hu, hlength⟩ : ∃ u, ("dependsOn: [" : Text) = ↑ 'd' :: u ∧ u.length = 11 :=
    ⟨_, rfl, rfl⟩
  have hdrop : (u ++ (items ++ ↑ ']' :: rest)).drop (items.length + 13 - 1) = rest := by
    have hcut : u ++ (items ++ ↑ ']' :: rest) = (u ++ (items ++ ([']'] : Text))) ++ rest := by simp
    have hfront : (u ++ (items ++ ([']'] : Text))).length = items.length + 13 - 1 := by
      rw [List.length_append, List.length_append, hlength, List.length_singleton]
      omega
    rw [hcut]
    exact List.drop_left' hfront
  rw [hu, List.cons_append] at hlist ⊢
  rw [dependencyLists, dependencyListsFrom, hlist]
  exact congrArg (items :: ·) (by rw [dependencyListsFrom_skip, hdrop])

theorem dependsOn_list {items : Text} (h : ↑ ']' ∉ items) (rest : Text) :
    dependsOn (("dependsOn: [" : Text) ++ (items ++ ↑ ']' :: rest)) =
      listItems items ++ dependsOn rest := by
  rw [dependsOn, dependencyLists_list h, List.flatMap_cons]
  rfl

/-! ## Block comments -/

theorem withoutBlockCommentsFrom_skip (skip : Nat) (t : Text) :
    withoutBlockCommentsFrom skip t = withoutBlockComments (t.drop skip) := by
  induction t generalizing skip with
  | nil => cases skip <;> rfl
  | cons c t ih =>
    cases skip with
    | zero => rfl
    | succ skip => exact ih skip

theorem blockCommentLength?_eq (t : Text) : blockCommentLength? t =
    (Text.after? "/*" t).bind fun u => (Text.breakOn "*/" u).map fun p => p.1.length + 4 := by
  rw [blockCommentLength?]
  cases Text.after? "/*" t with
  | none => rfl
  | some u =>
    show (Text.breakOn "*/" u).bind _ = _
    rw [Option.bind_some, Option.map_eq_bind]
    rfl

/-- A closed block comment is removed. -/
theorem withoutBlockComments_of_breakOn {inside : Text}
    (h : Text.breakOn "*/" t = some (inside, rest)) :
    withoutBlockComments (↑ '/' :: ↑ '*' :: t) = withoutBlockComments rest := by
  have hlength : blockCommentLength? (↑ '/' :: ↑ '*' :: t) = some (inside.length + 4) := by
    have hopen : Text.after? "/*" (↑ '/' :: ↑ '*' :: t) = some t := Text.after?_append "/*" t
    rw [blockCommentLength?_eq, hopen, Option.bind_some, h]
    rfl
  have hdrop : (↑ '*' :: t).drop (inside.length + 4 - 1) = rest := by
    rw [Text.eq_append_of_breakOn h, ← List.cons_append, ← List.cons_append]
    exact List.drop_left' (by simp)
  rw [withoutBlockComments, withoutBlockCommentsFrom, hlength]
  exact (withoutBlockCommentsFrom_skip _ _).trans (by rw [hdrop])

/-- A character stays where no block comment opens that is closed. -/
theorem withoutBlockComments_cons
    (h : ("/*" : Text) <+: c :: t → ¬("*/" : Text) <:+: t.drop 1) :
    withoutBlockComments (c :: t) = c :: withoutBlockComments t := by
  have hlength : blockCommentLength? (c :: t) = none := by
    rw [blockCommentLength?_eq]
    cases hopen : Text.after? "/*" (c :: t) with
    | none => rfl
    | some u =>
      have ht := Text.after?_eq_some_iff.1 hopen
      have hu : t.drop 1 = u := congrArg (List.drop 2) ht
      have hnone := Text.breakOn_eq_none_iff.2 (h ⟨u, ht.symm⟩)
      rw [hu] at hnone
      rw [Option.bind_some, hnone]
      rfl
  rw [withoutBlockComments, withoutBlockCommentsFrom, hlength]
  rfl

/-- Induction along the removal: behind a block comment that is closed, else from character to
character. -/
theorem blockComment_induction {motive : Text → Prop} (nil : motive [])
    (closed : ∀ t inside rest, Text.breakOn "*/" t = some (inside, rest) → motive rest →
      motive (↑ '/' :: ↑ '*' :: t))
    (next : ∀ c t, (("/*" : Text) <+: c :: t → ¬("*/" : Text) <:+: t.drop 1) → motive t →
      motive (c :: t))
    (t : Text) : motive t := by
  induction hn : t.length using Nat.strongRecOn generalizing t with
  | ind n ih =>
    subst hn
    cases t with
    | nil => exact nil
    | cons c t =>
      have hnext : motive t := ih t.length (by simp) t rfl
      by_cases hclosed : ("/*" : Text) <+: c :: t ∧ ("*/" : Text) <:+: t.drop 1
      · obtain ⟨⟨u, hu⟩, hclose⟩ := hclosed
        obtain ⟨rfl, rfl⟩ := List.cons.inj hu
        obtain ⟨⟨inside, rest⟩, hbreak⟩ := Option.ne_none_iff_exists'.1 fun hnone =>
          Text.breakOn_eq_none_iff.1 hnone hclose
        have hrest : rest <:+ u := Text.suffix_of_breakOn hbreak
        have hlength : rest.length < (↑ '/' :: ↑ '*' :: u).length :=
          Nat.lt_succ_of_lt (Nat.lt_succ_of_le hrest.length_le)
        exact closed u inside rest hbreak (ih rest.length hlength rest rfl)
      · exact next c t (fun hopen hclose => hclosed ⟨hopen, hclose⟩) hnext

theorem sublist_withoutBlockComments (t : Text) : (withoutBlockComments t).Sublist t := by
  induction t using blockComment_induction with
  | nil => exact List.Sublist.slnil
  | closed t inside rest hbreak ih =>
    rw [withoutBlockComments_of_breakOn hbreak]
    exact ((ih.trans (Text.suffix_of_breakOn hbreak).sublist).cons ↑ '*').cons ↑ '/'
  | next c t h ih =>
    rw [withoutBlockComments_cons h]
    exact ih.cons_cons c

theorem withoutBlockComments_append_of_notMem {front : Text} (h : ↑ '/' ∉ front) (t : Text) :
    withoutBlockComments (front ++ t) = front ++ withoutBlockComments t := by
  induction front with
  | nil => rfl
  | cons c front ih =>
    rw [List.mem_cons, not_or] at h
    have hopen : ¬("/*" : Text) <+: c :: (front ++ t) := by
      rintro ⟨u, hu⟩
      exact h.1 (List.cons.inj hu).1
    rw [List.cons_append, withoutBlockComments_cons fun hp => absurd hp hopen, ih h.2]
    rfl

/-- No block comment that opens in the line goes on behind its end: where one opens and something
could close it behind the line, something closes it in the line. -/
def StaysIn (rest : Text) : (line : Text) → Prop
  | [] => True
  | c :: t =>
    (("/*" : Text) <+: c :: t → ("*/" : Text) <:+: rest → ("*/" : Text) <:+: t.drop 1) ∧
      StaysIn rest t

instance decidableStaysIn (rest : Text) : (line : Text) → Decidable (StaysIn rest line)
  | [] => inferInstanceAs (Decidable True)
  | c :: t =>
    have : Decidable (StaysIn rest t) := decidableStaysIn rest t
    have : Decidable (("*/" : Text) <:+: rest) := decidable_of_iff _ Text.occursIn_iff
    have : Decidable (("*/" : Text) <:+: t.drop 1) := decidable_of_iff _ Text.occursIn_iff
    inferInstanceAs (Decidable ((("/*" : Text) <+: c :: t → _) ∧ StaysIn rest t))

theorem staysIn_nil (line : Text) : StaysIn [] line := by
  induction line with
  | nil => trivial
  | cons c line ih => exact ⟨fun _ hclose => absurd hclose (by decide), ih⟩

theorem StaysIn.of_append {front line : Text} (h : StaysIn rest (front ++ line)) :
    StaysIn rest line := by
  induction front with
  | nil => exact h
  | cons c front ih => exact ih h.2

theorem StaysIn.mono {line rest' : Text} (h : StaysIn rest line) (hrest : rest' <:+: rest) :
    StaysIn rest' line := by
  induction line with
  | nil => trivial
  | cons c line ih => exact ⟨fun hopen hclose => h.1 hopen (hclose.trans hrest), ih h.2⟩

theorem staysIn_append_of_notMem {front line : Text} (h : ↑ '/' ∉ front)
    (hline : StaysIn rest line) : StaysIn rest (front ++ line) := by
  induction front with
  | nil => exact hline
  | cons c front ih =>
    rw [List.mem_cons, not_or] at h
    refine ⟨?_, ih h.2⟩
    rintro ⟨u, hu⟩
    exact absurd (List.cons.inj hu).1 h.1

/-- **A line is read on its own** if no block comment goes on behind its end. -/
theorem withoutBlockComments_append_newline {line : Text} (h : StaysIn rest line) :
    withoutBlockComments (line ++ ↑ '\n' :: rest) =
      withoutBlockComments line ++ ↑ '\n' :: withoutBlockComments rest := by
  have hopens : ↑ '\n' ∉ ("/*" : Text) := by decide
  have hcloses : ↑ '\n' ∉ ("*/" : Text) := by decide
  have hne : ("*/" : Text) ≠ [] := by decide
  induction line using blockComment_induction with
  | nil =>
    have hnewline : ↑ '/' ∉ (['\n'] : Text) := by decide
    exact withoutBlockComments_append_of_notMem hnewline rest
  | closed t inside behind hbreak ih =>
    have hstay : StaysIn rest behind := by
      have hinside : StaysIn rest t := h.2.2
      rw [Text.eq_append_of_breakOn hbreak] at hinside
      exact hinside.of_append
    calc withoutBlockComments (↑ '/' :: ↑ '*' :: (t ++ ↑ '\n' :: rest))
        = withoutBlockComments (behind ++ ↑ '\n' :: rest) :=
          withoutBlockComments_of_breakOn (Text.breakOn_append_cons hcloses hbreak rest)
      _ = withoutBlockComments behind ++ ↑ '\n' :: withoutBlockComments rest := ih hstay
      _ = withoutBlockComments (↑ '/' :: ↑ '*' :: t) ++ ↑ '\n' :: withoutBlockComments rest := by
          rw [withoutBlockComments_of_breakOn hbreak]
  | next c t hopen ih =>
    -- What opens here is closed neither in the line nor, since it stays in the line, behind it.
    have hunclosed : ("/*" : Text) <+: c :: (t ++ ↑ '\n' :: rest) →
        ¬("*/" : Text) <:+: (t ++ ↑ '\n' :: rest).drop 1 := by
      rw [← List.cons_append, Text.prefix_append_cons_iff hopens]
      intro hp
      obtain ⟨u, hu⟩ := hp
      obtain ⟨rfl, rfl⟩ := List.cons.inj hu
      show ¬("*/" : Text) <:+: u ++ ↑ '\n' :: rest
      rw [Text.infix_append_cons_iff hne hcloses, not_or]
      exact ⟨hopen ⟨u, rfl⟩, fun hrest => hopen ⟨u, rfl⟩ (h.1 ⟨u, rfl⟩ hrest)⟩
    rw [List.cons_append, withoutBlockComments_cons hunclosed, withoutBlockComments_cons hopen,
      ih h.2]
    rfl

/-! ## Line comments -/

theorem withoutLineCommentsFrom_true_append {comment : Text} (h : ↑ '\n' ∉ comment) (t : Text) :
    withoutLineCommentsFrom true (comment ++ t) = withoutLineCommentsFrom true t := by
  induction comment with
  | nil => rfl
  | cons c comment ih =>
    rw [List.mem_cons, not_or] at h
    rw [List.cons_append, withoutLineCommentsFrom, if_neg (Ne.symm h.1), ih h.2]

theorem withoutLineComments_append_of_notMem {front : Text} (h : ↑ '/' ∉ front) (t : Text) :
    withoutLineComments (front ++ t) = front ++ withoutLineComments t := by
  induction front with
  | nil => rfl
  | cons c front ih =>
    rw [List.mem_cons, not_or] at h
    have hc : ∀ r, c = '/' → front ++ t = ↑ '/' :: r → False := fun _ heq _ => h.1 heq.symm
    rw [List.cons_append, withoutLineComments, withoutLineCommentsFrom.eq_4 _ _ hc]
    exact congrArg (c :: ·) (ih h.2)

/-- A line comment is removed up to the end of its line. -/
theorem withoutLineComments_comment {comment : Text} (h : ↑ '\n' ∉ comment) (t : Text) :
    withoutLineComments (↑ '/' :: ↑ '/' :: (comment ++ t)) = withoutLineCommentsFrom true t :=
  withoutLineCommentsFrom_true_append h t

/-! ## Items -/

/-- The items of a text without comments. -/
def items (t : Text) : List Text :=
  ((Text.split isSeparator t).map listItem).filter fun item => !item.isEmpty

theorem listItems_eq (t : Text) :
    listItems t = items (withoutLineComments (withoutBlockComments t)) := rfl

theorem items_append_cons (h : isSeparator c = true) (t u : Text) :
    items (t ++ c :: u) = items t ++ items u := by
  rw [items, Text.split_append_cons h, List.map_append, List.filter_append]
  rfl

theorem items_of_notSeparated (h : ∀ c ∈ t, isSeparator c = false) :
    items t = [listItem t].filter fun item => !item.isEmpty := by
  rw [items, Text.split_of_forall_not h]
  rfl

/-- An identifier between blanks is one item; blanks alone are none. -/
theorem items_word {front word back : Text} (hfront : front.IsIndentation)
    (hword : word.IsWord) (hback : back.IsIndentation) :
    items (front ++ (word ++ back)) = [word].filter fun item => !item.isEmpty := by
  have hindent : ∀ c, isIndent c = true → isSeparator c = false := by
    intro c hc
    simp only [isIndent, Bool.or_eq_true, beq_iff_eq] at hc
    rcases hc with rfl | rfl <;> decide
  have hletter : ∀ d, isWord d = false → ∀ c ∈ word, c ≠ d := by
    rintro d hd c hc rfl
    exact hword.notMem hd hc
  have hcomma := hletter ',' (by decide)
  have hsemicolon := hletter ';' (by decide)
  have hnewline := hletter '\n' (by decide)
  have hfree : ∀ c ∈ front ++ (word ++ back), isSeparator c = false := by
    simp only [List.forall_mem_append]
    exact ⟨fun c hc => hindent c (hfront c hc),
      fun c hc => by simp [isSeparator, hcomma c hc, hnewline c hc],
      fun c hc => hindent c (hback c hc)⟩
  have hpunctuation : ∀ c ∈ word, (c == ',' || c == ';') = false := fun c hc => by
    simp [hcomma c hc, hsemicolon c hc]
  rw [items_of_notSeparated hfree, listItem,
    Text.trim_append (fun c hc => isBlank_of_isIndent (hfront c hc))
      (fun c hc => isBlank_eq_false_of_isWord (hword c hc))
      (fun c hc => isBlank_of_isIndent (hback c hc)),
    Text.dropEnd_eq_self hpunctuation]

end Body

/-! ## Entries -/

namespace Listing

open Body
open Declaration (IsIdentifier)

/-- A line of a list: an identifier with blanks in front of it, and behind it perhaps a comma,
blanks and a line comment. -/
structure Entry where
  indent : Text := []
  id : Text
  comma : Bool := false
  gap : Text := []
  comment : Option Text := none
  isIndentation_indent : indent.IsIndentation := by decide
  isIdentifier_id : IsIdentifier id := by decide
  isIndentation_gap : gap.IsIndentation := by decide
  newline_notMem_comment : ∀ c ∈ comment, ↑ '\n' ∉ c := by decide

namespace Entry

variable {e : Entry} {rest : Text} {c : CodePoint}

/-- What stands in front of the comment. -/
def front (e : Entry) : Text :=
  e.indent ++ (e.id ++ ((if e.comma then [','] else [] : Text) ++ e.gap))

/-- The comment with its marker, if there is one. -/
def remark (e : Entry) : Text :=
  match e.comment with
  | none => []
  | some comment => ↑ '/' :: ↑ '/' :: comment

/-- The line without the newline behind it. -/
def line (e : Entry) : Text := e.front ++ e.remark

theorem notMem_front (e : Entry) (hindent : isIndent c = false) (hword : isWord c = false)
    (hcomma : c ≠ ',') : c ∉ e.front := by
  have hblank : ∀ t : Text, t.IsIndentation → c ∉ t := by
    intro t ht hc
    rw [ht c hc] at hindent
    exact Bool.noConfusion hindent
  have hcommas : c ∉ (if e.comma then [','] else [] : Text) := by
    split
    · simpa using hcomma
    · exact List.not_mem_nil
  simp only [front, List.mem_append, not_or]
  exact ⟨hblank _ e.isIndentation_indent, e.isIdentifier_id.2.notMem hword, hcommas,
    hblank _ e.isIndentation_gap⟩

theorem slash_notMem_front (e : Entry) : ↑ '/' ∉ e.front :=
  e.notMem_front (by decide) (by decide) (by decide)

/-- **In front of its comment a line has one item.** -/
theorem items_front (e : Entry) : items e.front = [e.id] := by
  obtain ⟨hne, hword⟩ := e.isIdentifier_id
  have hnil : Text.IsIndentation [] := by decide
  have hid : [e.id].filter (fun item => !item.isEmpty) = [e.id] := by simp [hne]
  cases hcomma : e.comma with
  | false =>
    have hfront : e.front = e.indent ++ (e.id ++ e.gap) := by simp [front, hcomma]
    rw [hfront, items_word e.isIndentation_indent hword e.isIndentation_gap, hid]
  | true =>
    have hfront :
        e.front = (e.indent ++ (e.id ++ [])) ++ ↑ ',' :: (e.gap ++ ([] ++ []) : Text) := by
      simp [front, hcomma]
    rw [hfront, items_append_cons (by decide), items_word e.isIndentation_indent hword hnil,
      items_word e.isIndentation_gap (by decide) hnil, hid]
    rfl

/-- The comment takes part in no block comment but one inside it: its marker opens none that is
closed in it, and what opens in it does not go on behind the line. -/
def Contained (rest : Text) (e : Entry) : Prop :=
  ∀ comment ∈ e.comment, (("*" : Text) <+: comment → ¬("*/" : Text) <:+: comment.drop 1) ∧
    StaysIn rest (↑ '/' :: comment)

instance (rest : Text) (e : Entry) : Decidable (e.Contained rest) :=
  have : ∀ comment : Text, Decidable (("*/" : Text) <:+: comment.drop 1) :=
    fun _ => decidable_of_iff _ Text.occursIn_iff
  inferInstanceAs (Decidable (∀ comment ∈ e.comment,
    (("*" : Text) <+: comment → ¬("*/" : Text) <:+: comment.drop 1) ∧
      StaysIn rest (↑ '/' :: comment)))

theorem Contained.staysIn (h : e.Contained rest) : StaysIn rest e.line := by
  refine staysIn_append_of_notMem e.slash_notMem_front ?_
  rw [remark]
  split
  · trivial
  · next comment hcomment =>
    refine ⟨?_, (h comment hcomment).2⟩
    rintro ⟨u, hu⟩
    exact absurd (List.cons.inj (List.cons.inj hu).2).1 (by decide)

/-- Without its block comments, a line still has what stands in front of its comment, and perhaps
a comment. -/
theorem Contained.exists_withoutBlockComments (h : e.Contained rest) :
    ∃ comment : Text, ↑ '\n' ∉ comment ∧
      (withoutBlockComments e.line = e.front ∨
        withoutBlockComments e.line = e.front ++ ↑ '/' :: ↑ '/' :: comment) := by
  rw [line, withoutBlockComments_append_of_notMem e.slash_notMem_front, remark]
  split
  · exact ⟨[], by decide, .inl (List.append_nil _)⟩
  · next comment hcomment =>
    have hnewline := e.newline_notMem_comment comment hcomment
    have hfirst : withoutBlockComments (↑ '/' :: ↑ '/' :: comment) =
        ↑ '/' :: withoutBlockComments (↑ '/' :: comment) := by
      refine withoutBlockComments_cons ?_
      rintro ⟨u, hu⟩
      exact absurd (List.cons.inj (List.cons.inj hu).2).1 (by decide)
    have hsecond :
        withoutBlockComments (↑ '/' :: comment) = ↑ '/' :: withoutBlockComments comment := by
      refine withoutBlockComments_cons ?_
      rintro ⟨u, hu⟩
      exact (h comment hcomment).1 ⟨u, (List.cons.inj hu).2⟩
    exact ⟨withoutBlockComments comment,
      fun hmem => hnewline ((sublist_withoutBlockComments comment).subset hmem),
      .inr (by rw [hfirst, hsecond])⟩

/-- What is left of a line without its comments, in front of what follows it. -/
theorem Contained.withoutLineComments_append (h : e.Contained rest) {t : Text}
    (ht : withoutLineCommentsFrom true t = withoutLineCommentsFrom false t) :
    withoutLineComments (withoutBlockComments e.line ++ t) = e.front ++ withoutLineComments t := by
  obtain ⟨comment, hnewline, hline | hline⟩ := h.exists_withoutBlockComments
  · rw [hline, withoutLineComments_append_of_notMem e.slash_notMem_front]
  · rw [hline, List.append_assoc, withoutLineComments_append_of_notMem e.slash_notMem_front]
    show e.front ++ withoutLineComments (↑ '/' :: ↑ '/' :: (comment ++ t)) = _
    rw [withoutLineComments_comment hnewline, ht]
    rfl

/-- **A line adds its identifier** to what the lines behind it list. -/
theorem Contained.listItems_append (h : e.Contained rest) :
    listItems (e.line ++ ↑ '\n' :: rest) = e.id :: listItems rest := by
  have hnewline : withoutLineCommentsFrom true (↑ '\n' :: withoutBlockComments rest) =
      withoutLineCommentsFrom false (↑ '\n' :: withoutBlockComments rest) := rfl
  rw [listItems_eq, withoutBlockComments_append_newline h.staysIn,
    h.withoutLineComments_append hnewline]
  show items (e.front ++ ↑ '\n' :: withoutLineComments (withoutBlockComments rest)) = _
  rw [items_append_cons (by decide), e.items_front]
  rfl

/-- The last line lists its identifier also when no newline ends it. -/
theorem Contained.listItems_line (h : e.Contained rest) : listItems e.line = [e.id] := by
  have hend := h.withoutLineComments_append (t := []) rfl
  rw [List.append_nil] at hend
  rw [listItems_eq, hend, ← e.items_front]
  exact congrArg items (List.append_nil _)

/-- The comment up to a character in it. -/
def cut (e : Entry) (comment : Text) (h : ↑ '\n' ∉ comment) : Entry :=
  { e with
    comment := some comment
    newline_notMem_comment := fun _ hc => Option.some.inj hc ▸ h }

end Entry

/-! ## Lists -/

variable {es : List Entry} {tail : Text}

/-- The lines of a list. -/
def lines (es : List Entry) : Text := es.flatMap fun e => e.line ++ (['\n'] : Text)

/-- The list with one entry on each line. -/
def listing (es : List Entry) : Text :=
  ("dependsOn: [" : Text) ++ ↑ '\n' :: (lines es ++ ([']'] : Text))

/-- No comment goes on into the lines behind it, of which `tail` is the last. -/
def Contained (tail : Text) : List Entry → Prop
  | [] => True
  | e :: es => e.Contained (lines es ++ tail) ∧ Contained tail es

instance decidableContained (tail : Text) : (es : List Entry) → Decidable (Contained tail es)
  | [] => inferInstanceAs (Decidable True)
  | e :: es =>
    have : Decidable (Contained tail es) := decidableContained tail es
    inferInstanceAs (Decidable (e.Contained (lines es ++ tail) ∧ Contained tail es))

theorem listItems_newline (t : Text) : listItems (↑ '\n' :: t) = listItems t := by
  have hstay : StaysIn t [] := trivial
  have hblock : withoutBlockComments (↑ '\n' :: t) = ↑ '\n' :: withoutBlockComments t :=
    withoutBlockComments_append_newline hstay
  rw [listItems_eq, hblock]
  exact items_append_cons (t := []) (c := '\n') (by decide) _

theorem listItems_lines (h : Contained tail es) :
    listItems (lines es ++ tail) = es.map Entry.id ++ listItems tail := by
  induction es with
  | nil => rfl
  | cons e es ih =>
    have hline : lines (e :: es) ++ tail = e.line ++ ↑ '\n' :: (lines es ++ tail) := by simp [lines]
    rw [hline, h.1.listItems_append, ih h.2]
    rfl

theorem lines_cons (e : Entry) (es : List Entry) :
    lines (e :: es) = e.line ++ ↑ '\n' :: lines es := by
  simp [lines]

theorem lines_append (a b : List Entry) : lines (a ++ b) = lines a ++ lines b :=
  List.flatMap_append

theorem Contained.of_append {a b : List Entry} (h : Contained tail (a ++ b)) :
    Contained (lines b ++ tail) a ∧ Contained tail b := by
  induction a with
  | nil => exact ⟨trivial, h⟩
  | cons e a ih =>
    obtain ⟨ha, hb⟩ := ih h.2
    refine ⟨⟨?_, ha⟩, hb⟩
    have he := h.1
    rwa [List.append_eq, lines_append, List.append_assoc] at he

theorem Entry.Contained.mono {e : Entry} {rest rest' : Text} (h : e.Contained rest)
    (hrest : rest' <:+: rest) : e.Contained rest' :=
  fun comment hcomment => ⟨(h comment hcomment).1, (h comment hcomment).2.mono hrest⟩

theorem Contained.mono {tail' : Text} (h : Contained tail es) (htail : tail' <+: tail) :
    Contained tail' es := by
  induction es with
  | nil => trivial
  | cons e es ih =>
    have hlines : lines es ++ tail' <+: lines es ++ tail := (List.prefix_append_right_inj _).2 htail
    exact ⟨h.1.mono hlines.isInfix, ih h.2⟩

theorem bracket_notMem_line {e : Entry} (h : ∀ comment ∈ e.comment, ↑ ']' ∉ comment) :
    ↑ ']' ∉ e.line := by
  have hfront : ↑ ']' ∉ e.front := e.notMem_front (by decide) (by decide) (by decide)
  have hremark : ↑ ']' ∉ e.remark := by
    rw [Entry.remark]
    split
    · exact List.not_mem_nil
    · next comment hcomment =>
      have hbracket := h comment hcomment
      simpa using hbracket
  rw [Entry.line, List.mem_append, not_or]
  exact ⟨hfront, hremark⟩

theorem bracket_notMem_lines (h : ∀ e ∈ es, ∀ comment ∈ e.comment, ↑ ']' ∉ comment) :
    ↑ ']' ∉ lines es := by
  rw [lines, List.mem_flatMap]
  rintro ⟨e, he, hmem⟩
  rcases List.mem_append.1 hmem with hmem | hmem
  · exact bracket_notMem_line (h e he) hmem
  · exact absurd hmem (by decide)

/-- A comment that is cut off is as little part of a block comment as the whole. -/
theorem Entry.Contained.cut {e : Entry} {rest comment behind : Text} (h : e.Contained rest)
    (hcomment : e.comment = some (comment ++ behind)) (hnewline : ↑ '\n' ∉ comment) :
    (e.cut comment hnewline).Contained [] := by
  intro comment' hcomment'
  obtain rfl := Option.some.inj hcomment'
  refine ⟨?_, staysIn_nil _⟩
  rintro ⟨u, rfl⟩ hclose
  obtain ⟨hmarker, -⟩ := h _ hcomment
  exact hmarker ⟨u ++ behind, by simp⟩ (hclose.trans (List.prefix_append u behind).isInfix)

/-- **Reading back a list.** Let the block comments stay in their lines. A list without a closing
bracket in a comment is read back; else the list ends at the first one, with the entry that it
belongs to, and what stands behind it is searched for further lists. -/
theorem dependsOn_listing (es : List Entry) (h : Contained [] es) :
    ((∀ e ∈ es, ∀ comment ∈ e.comment, ↑ ']' ∉ comment) →
      dependsOn (listing es) = es.map Entry.id) ∧
    ∀ (before : List Entry) (e : Entry) (after : List Entry) (comment behind : Text),
      es = before ++ e :: after →
      (∀ d ∈ before, ∀ comment : Text, comment ∈ d.comment → ↑ ']' ∉ comment) →
      e.comment = some (comment ++ ↑ ']' :: behind) → ↑ ']' ∉ comment →
      dependsOn (listing es) =
        before.map Entry.id ++ e.id ::
          dependsOn (behind ++ ↑ '\n' :: (lines after ++ ([']'] : Text))) := by
  constructor
  · intro hbracket
    have hlisting : listing es =
        ("dependsOn: [" : Text) ++ ((↑ '\n' :: lines es) ++ ↑ ']' :: ([] : Text)) := rfl
    have hmem : ↑ ']' ∉ ↑ '\n' :: lines es :=
      List.not_mem_cons_of_ne_of_not_mem (by decide) (bracket_notMem_lines hbracket)
    have hitems := listItems_lines h
    rw [List.append_nil] at hitems
    rw [hlisting, dependsOn_list hmem, listItems_newline, hitems]
    exact (List.append_nil _).trans (List.append_nil _)
  · rintro before e after comment behind rfl hbracket hcomment hfree
    have hnewline : ↑ '\n' ∉ comment := fun hmem =>
      e.newline_notMem_comment _ hcomment (List.mem_append_left _ hmem)
    obtain ⟨hbefore, he, -⟩ := h.of_append
    have hline : e.line = (e.cut comment hnewline).line ++ ↑ ']' :: behind := by
      have hremark : e.remark = ↑ '/' :: ↑ '/' :: comment ++ ↑ ']' :: behind := by
        rw [Entry.remark, hcomment]
        rfl
      rw [Entry.line, hremark, ← List.append_assoc]
      rfl
    have hcut := he.cut hcomment hnewline
    have hlast : Contained (e.cut comment hnewline).line before := by
      refine hbefore.mono ?_
      rw [lines_cons, hline]
      exact ⟨↑ ']' :: behind ++ ↑ '\n' :: lines after, by simp⟩
    have hlines : lines (before ++ e :: after) ++ ([']'] : Text) =
        (lines before ++ (e.cut comment hnewline).line) ++
          ↑ ']' :: (behind ++ ↑ '\n' :: (lines after ++ ([']'] : Text))) := by
      rw [lines_append, lines_cons, hline]
      simp only [List.append_assoc, List.cons_append]
    have hlisting : listing (before ++ e :: after) = ("dependsOn: [" : Text) ++
        ((↑ '\n' :: (lines before ++ (e.cut comment hnewline).line)) ++
          ↑ ']' :: (behind ++ ↑ '\n' :: (lines after ++ ([']'] : Text)))) :=
      congrArg (fun t => ("dependsOn: [" : Text) ++ ↑ '\n' :: t) hlines
    have hmem : ↑ ']' ∉ ↑ '\n' :: (lines before ++ (e.cut comment hnewline).line) := by
      refine List.not_mem_cons_of_ne_of_not_mem (by decide) ?_
      rw [List.mem_append, not_or]
      exact ⟨bracket_notMem_lines hbracket,
        bracket_notMem_line fun c hc => Option.some.inj hc ▸ hfree⟩
    rw [hlisting, dependsOn_list hmem, listItems_newline, listItems_lines hlast,
      hcut.listItems_line, List.append_assoc]
    rfl

/-- Comments with a block comment in them, and with the beginning of one. -/
def commented : List Entry := [
  { indent := "  ", id := "storage", comma := true, gap := " ", comment := some " /* old */ db" },
  { indent := "\t", id := "keyVault", comment := some " all of vaults/*" },
  { indent := "  ", id := "cosmos", comma := true }]

theorem dependsOn_listing_commented :
    Contained [] commented ∧
      dependsOn (listing commented) =
        [("storage" : Text), ("keyVault" : Text), ("cosmos" : Text)] := by
  have h : Contained [] commented := by decide
  exact ⟨h, (dependsOn_listing commented h).1 (by decide)⟩

/-- A reference in brackets, in the comment of the first entry. -/
def bracketed : List Entry := [
  { indent := "  ", id := "a", gap := " ", comment := some " see [1]" },
  { indent := "  ", id := "b" }]

/-- A block comment that opens in the comment of one entry and is closed in that of the next. -/
def spanned : List Entry := [
  { indent := "  ", id := "a", gap := " ", comment := some " x /* y" },
  { indent := "  ", id := "b", gap := " ", comment := some " z */" },
  { indent := "  ", id := "c" }]

/-- **Entries are lost** behind a closing bracket in a comment, and under a block comment that goes
on from one line comment to the next. -/
theorem dependsOn_listing_loses :
    dependsOn (listing bracketed) = [("a" : Text)] ∧
      bracketed.map Entry.id = [("a" : Text), ("b" : Text)] ∧
      dependsOn (listing spanned) = [("a" : Text), ("c" : Text)] ∧
      spanned.map Entry.id = [("a" : Text), ("b" : Text), ("c" : Text)] := by
  decide

end Listing

end Groundplan

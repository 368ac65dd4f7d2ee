import Groundplan.Proofs.Inference.Listing

/-!
# What the listed dependencies look like

A listed dependency is looked up as an identifier, so a character too many in it makes the
dependency vanish.

**Pieces.** A dependency comes from a piece of a list without comments (`pieces`,
`mem_dependsOn_iff`). The list holds no closing bracket, what is left without its line comments no
comment marker (`not_marker_infix_withoutLineComments`), and the piece no separator.

**Ends.** Blanks are taken off the piece first and commas and semicolons behind it afterwards. Where
a blank stands in front of the semicolons (`Loose`), it is what the dependency ends with
(`endsNo_isBlank_listItem_iff`).

**Order.** The dependencies stand in the body in their order (`sublist_flatten_dependsOn`).

Main result: `dependsOn_tidy`. The blank at the end is the one character too many
(`dependsOn_loose_semicolon`).
-/

namespace Groundplan

namespace Body

variable {t piece item body inside : Text} {c : CodePoint}

/-! ## The lists of a body -/

/-- What a list is, and what the text has around it. -/
theorem exists_of_dependencyList? {length : Nat} (h : dependencyList? t = some (inside, length)) :
    ∃ front rest : Text, t = front ++ (inside ++ ↑ ']' :: rest) ∧
      length = front.length + inside.length + 1 ∧ ↑ ']' ∉ inside := by
  have hskip : ∀ {p u r : Text}, Text.after? p (Text.trimStart u) = some r → r <:+ u :=
    fun hafter => (Text.suffix_of_after? hafter).trans (List.dropWhile_suffix _)
  simp only [dependencyList?, Option.bind_eq_bind, Option.bind_eq_some_iff,
    Option.ite_none_left_eq_some, Option.pure_def, Option.some.injEq, Prod.mk.injEq] at h
  obtain ⟨behindName, hname, behindColon, hcolon, list, hopen, hclosed, rfl, rfl⟩ := h
  obtain ⟨front, rfl⟩ : list <:+ t :=
    ((hskip hopen).trans (hskip hcolon)).trans (Text.suffix_of_after? hname)
  obtain ⟨hcut, hin, hbehind⟩ := (Text.span_iff (p := (· != ']')) (t := list)).1 ⟨rfl, rfl⟩
  have hfree : ↑ ']' ∉ list.takeWhile (· != ↑ ']') := fun hmem => bne_iff_ne.1 (hin _ hmem) rfl
  cases hrest : list.dropWhile (· != ↑ ']') with
  | nil =>
    rw [hrest, List.append_nil] at hcut
    exact absurd (congrArg List.length hcut).symm hclosed
  | cons c rest =>
    rw [hrest, Text.startsNo_cons, bne_eq_false_iff_eq] at hbehind
    rw [hrest, hbehind] at hcut
    refine ⟨front, rest, congrArg (front ++ ·) hcut, ?_, hfree⟩
    rw [List.length_append]
    omega

/-- Induction along the lists: behind a list that is found, else from character to character. -/
theorem dependencyLists_induction {motive : Text → Prop} (nil : motive [])
    (list : ∀ front inside rest, ↑ ']' ∉ inside →
      dependencyLists (front ++ (inside ++ ↑ ']' :: rest)) = inside :: dependencyLists rest →
      motive rest → motive (front ++ (inside ++ ↑ ']' :: rest)))
    (next : ∀ c t, dependencyLists (c :: t) = dependencyLists t → motive t → motive (c :: t))
    (t : Text) : motive t := by
  induction hn : t.length using Nat.strongRecOn generalizing t with
  | ind n ih =>
    subst hn
    cases t with
    | nil => exact nil
    | cons c t =>
      cases hlist : dependencyList? (c :: t) with
      | none =>
        have hnext : dependencyLists (c :: t) = dependencyLists t := by
          rw [dependencyLists, dependencyListsFrom, hlist]
          rfl
        exact next c t hnext (ih t.length (by simp) t rfl)
      | some found =>
        obtain ⟨inside, length⟩ := found
        have hlists : dependencyLists (c :: t) =
            inside :: dependencyLists ((c :: t).drop length) := by
          obtain ⟨front, rest, -, rfl, -⟩ := exists_of_dependencyList? hlist
          rw [dependencyLists, dependencyListsFrom, hlist]
          exact congrArg (inside :: ·) (dependencyListsFrom_skip _ _)
        obtain ⟨front, rest, ht, rfl, hfree⟩ := exists_of_dependencyList? hlist
        have hdrop : (c :: t).drop (front.length + inside.length + 1) = rest := by
          have hcut : c :: t = (front ++ (inside ++ ([']'] : Text))) ++ rest := by rw [ht]; simp
          rw [hcut]
          exact List.drop_left' (by simp; omega)
        have hlength : rest.length < (c :: t).length := by
          rw [ht, List.length_append, List.length_append, List.length_cons]
          omega
        rw [hdrop, ht] at hlists
        rw [ht]
        exact list front inside rest hfree hlists (ih rest.length hlength rest rfl)

/-- A list ends in front of its first closing bracket. -/
theorem bracket_notMem_of_mem_dependencyLists (h : inside ∈ dependencyLists t) :
    ↑ ']' ∉ inside := by
  induction t using dependencyLists_induction with
  | nil => exact absurd h List.not_mem_nil
  | list front inside' rest hfree hlists ih =>
    rw [hlists, List.mem_cons] at h
    rcases h with rfl | h
    · exact hfree
    · exact ih h
  | next c t hlists ih => exact ih (hlists ▸ h)

theorem sublist_flatten_dependencyLists (t : Text) : (dependencyLists t).flatten.Sublist t := by
  induction t using dependencyLists_induction with
  | nil => exact List.Sublist.slnil
  | list front inside rest hfree hlists ih =>
    rw [hlists, List.flatten_cons]
    exact ((List.Sublist.refl inside).append (ih.cons ↑ ']')).trans (List.sublist_append_right _ _)
  | next c t hlists ih =>
    rw [hlists]
    exact ih.cons c

/-! ## Without comments -/

theorem sublist_withoutLineCommentsFrom (inComment : Bool) (t : Text) :
    (withoutLineCommentsFrom inComment t).Sublist t := by
  fun_induction withoutLineCommentsFrom inComment t with
  | case1 => exact List.Sublist.slnil
  | case2 r ih => exact ih.cons_cons _
  | case3 c r hc ih => exact ih.cons c
  | case4 r ih => exact (ih.cons ↑ '/').cons ↑ '/'
  | case5 c r hmarker ih => exact ih.cons_cons c

/-- No two slashes come together where a line comment is removed. -/
theorem head?_of_withoutLineComments (h : (withoutLineComments t).head? = some ↑ '/') :
    t.head? = some ↑ '/' := by
  cases t with
  | nil => exact h
  | cons c t =>
    by_cases hmarker : ∃ r, c = '/' ∧ t = ↑ '/' :: r
    · obtain ⟨r, rfl, -⟩ := hmarker
      rfl
    · have hnext := withoutLineCommentsFrom.eq_4 c t fun r hc ht => hmarker ⟨r, hc, ht⟩
      rwa [withoutLineComments, hnext] at h

/-- **Without its line comments a text holds no comment marker.** -/
theorem not_marker_infix_withoutLineCommentsFrom (inComment : Bool) (t : Text) :
    ¬("//" : Text) <:+: withoutLineCommentsFrom inComment t := by
  fun_induction withoutLineCommentsFrom inComment t with
  | case1 => exact fun h => absurd (List.infix_nil.1 h) (by decide)
  | case2 r ih => rwa [Text.infix_cons_iff_of_notMem (by decide) (by decide)]
  | case3 c r hc ih => exact ih
  | case4 r ih => exact ih
  | case5 c r hmarker ih =>
    rw [List.infix_cons_iff, not_or]
    refine ⟨?_, ih⟩
    rintro ⟨u, hu⟩
    obtain ⟨hc, hrest⟩ := List.cons.inj hu
    have hhead : (withoutLineComments r).head? = some ↑ '/' := by
      rw [withoutLineComments, ← hrest]
      rfl
    obtain ⟨r', hr⟩ := List.head?_eq_some_iff.1 (head?_of_withoutLineComments hhead)
    exact hmarker r' hc.symm hr

/-! ## Items -/

theorem endsNo_listItem (piece : Text) :
    Text.EndsNo (fun c => c == ',' || c == ';') (listItem piece) :=
  (Text.dropEnd_spec _ _).1

/-- An item stands in its piece, and starts with no blank. -/
theorem exists_listItem_eq (piece : Text) : Text.StartsNo isBlank (listItem piece) ∧
    ∃ front punctuation back, piece = front ++ (listItem piece ++ (punctuation ++ back)) ∧
      Text.EndsNo isBlank (listItem piece ++ punctuation) ∧
      (∀ c ∈ punctuation, c = ',' ∨ c = ';') ∧ ∀ c ∈ back, isBlank c = true := by
  obtain ⟨hstarts, hends, front, back, hpiece, -, hback⟩ := Text.trim_spec piece
  obtain ⟨-, punctuation, htrim, hpunctuation⟩ :=
    Text.dropEnd_spec (fun c => c == ',' || c == ';') (Text.trim piece)
  have hitem : Text.trim piece = listItem piece ++ punctuation := htrim
  rw [hitem] at hstarts hends hpiece
  refine ⟨hstarts.of_append, front, punctuation, back, ?_, hends, ?_, hback⟩
  · rwa [List.append_assoc] at hpiece
  · exact fun c hc => by simpa using hpunctuation c hc

theorem infix_listItem (piece : Text) : listItem piece <:+: piece := by
  obtain ⟨-, front, punctuation, back, hpiece, -⟩ := exists_listItem_eq piece
  exact ⟨front, punctuation ++ back, by rw [List.append_assoc]; exact hpiece.symm⟩

/-- A blank stands between what a piece lists and the semicolons behind it. -/
def Loose (piece : Text) : Prop :=
  ∃ front blank semicolons back, piece = front ++ blank :: (semicolons ++ back) ∧
    (∃ c ∈ front, isBlank c = false) ∧ isBlank blank = true ∧
    (semicolons ≠ [] ∧ ∀ c ∈ semicolons, c = ';') ∧ ∀ c ∈ back, isBlank c = true

theorem isPunctuation_of_isBlank (h : isBlank c = true) : (c == ',' || c == ';') = false := by
  rw [← Bool.not_eq_true, Bool.or_eq_true, beq_iff_eq, beq_iff_eq]
  rintro (rfl | rfl)
  · exact absurd h (by decide)
  · exact absurd h (by decide)

/-- Trimming stops at the semicolons, and what is dropped behind them leaves the blank. -/
theorem listItem_of_loose {front semicolons back : Text} {blank : CodePoint}
    (hsolid : ∃ c ∈ front, isBlank c = false) (hblank : isBlank blank = true)
    (hne : semicolons ≠ []) (hall : ∀ c ∈ semicolons, c = ';')
    (hback : ∀ c ∈ back, isBlank c = true) :
    listItem (front ++ blank :: (semicolons ++ back)) = front.dropWhile isBlank ++ [blank] := by
  obtain ⟨hcut, hfront, hstarts⟩ := (Text.span_iff (p := isBlank) (t := front)).1 ⟨rfl, rfl⟩
  have hword : front.dropWhile isBlank ≠ [] := by
    obtain ⟨c, hc, hsolid⟩ := hsolid
    intro hnil
    rw [hnil, List.append_nil] at hcut
    rw [hfront c (hcut ▸ hc)] at hsolid
    cases hsolid
  generalize front.dropWhile isBlank = word, front.takeWhile isBlank = blanks
    at hcut hfront hstarts hword ⊢
  subst hcut
  have hpiece : blanks ++ word ++ blank :: (semicolons ++ back) =
      blanks ++ (word ++ blank :: semicolons ++ back) := by simp
  have hlast : Text.EndsNo isBlank semicolons := fun c hc => by
    rw [hall c (List.mem_of_getLast? hc)]
    decide
  have hends : Text.EndsNo isBlank (word ++ blank :: semicolons) :=
    (Text.endsNo_append (List.cons_ne_nil _ _) _).2 ((Text.endsNo_append hne [blank]).2 hlast)
  rw [listItem, hpiece, Text.trim_append_append hfront (hstarts.append hword _) hends hback]
  exact Text.dropEnd_eq_iff.2 ⟨Text.endsNo_append_singleton.2 (isPunctuation_of_isBlank hblank),
    semicolons, by simp, fun c hc => by simp [hall c hc]⟩

/-- **An item ends with a blank exactly when one stands in front of the semicolons behind it.** -/
theorem endsNo_isBlank_listItem_iff (h : ↑ ',' ∉ piece) :
    Text.EndsNo isBlank (listItem piece) ↔ ¬Loose piece := by
  constructor
  · rintro hends ⟨front, blank, semicolons, back, rfl, hsolid, hblank, ⟨hne, hall⟩, hback⟩
    rw [listItem_of_loose hsolid hblank hne hall hback, Text.endsNo_append_singleton,
      hblank] at hends
    cases hends
  · intro hloose c hc
    rw [← Bool.not_eq_true]
    intro hblank
    obtain ⟨hstarts, front, punctuation, back, hpiece, hends, hpunctuation, hback⟩ :=
      exists_listItem_eq piece
    obtain ⟨word, hword⟩ := List.getLast?_eq_some_iff.1 hc
    rw [hword] at hstarts hpiece hends
    refine hloose ⟨front ++ word, c, punctuation, back, ?_, ?_, hblank, ⟨?_, ?_⟩, hback⟩
    · rw [hpiece]
      simp
    · cases word with
      | nil =>
        rw [List.nil_append, Text.startsNo_cons, hblank] at hstarts
        cases hstarts
      | cons d word =>
        exact ⟨d, List.mem_append_right _ List.mem_cons_self, Text.startsNo_cons.1 hstarts⟩
    · rintro rfl
      rw [List.append_nil, Text.endsNo_append_singleton, hblank] at hends
      cases hends
    · intro d hd
      refine (hpunctuation d hd).resolve_left ?_
      rintro rfl
      exact h (by rw [hpiece]; simp [hd])

theorem listItem_ne_nil_of_loose (h : Loose piece) : listItem piece ≠ [] := by
  obtain ⟨front, blank, semicolons, back, rfl, hsolid, hblank, ⟨hne, hall⟩, hback⟩ := h
  rw [listItem_of_loose hsolid hblank hne hall hback]
  exact List.append_ne_nil_of_right_ne_nil _ (List.cons_ne_nil _ _)

/-! ## The dependencies of a body -/

/-- The pieces between the separators of every list, without the comments. -/
def pieces (body : Text) : List Text :=
  (dependencyLists body).flatMap fun inside =>
    Text.split isSeparator (withoutLineComments (withoutBlockComments inside))

/-- The dependencies are the items of the pieces that have one. -/
theorem mem_dependsOn_iff :
    item ∈ dependsOn body ↔ item ≠ [] ∧ ∃ piece ∈ pieces body, listItem piece = item := by
  simp only [dependsOn, listItems, pieces, List.mem_flatMap, List.mem_filter, List.mem_map,
    Bool.not_eq_true', List.isEmpty_eq_false_iff]
  constructor
  · rintro ⟨inside, hinside, ⟨piece, hpiece, hitem⟩, hne⟩
    exact ⟨hne, piece, ⟨inside, hinside, hpiece⟩, hitem⟩
  · rintro ⟨hne, piece, ⟨inside, hinside, hpiece⟩, hitem⟩
    exact ⟨inside, hinside, ⟨piece, hpiece, hitem⟩, hne⟩

/-- What a piece is free of. -/
theorem notMem_of_mem_pieces (h : piece ∈ pieces body) :
    ↑ ',' ∉ piece ∧ ↑ '\n' ∉ piece ∧ ↑ ']' ∉ piece ∧ ¬("//" : Text) <:+: piece := by
  obtain ⟨inside, hinside, hpiece⟩ := List.mem_flatMap.1 h
  have hseparator := Text.eq_false_of_mem_split hpiece
  have hstands := Text.infix_of_mem_split hpiece
  have hlist : (withoutLineComments (withoutBlockComments inside)).Sublist inside :=
    (sublist_withoutLineCommentsFrom false _).trans (sublist_withoutBlockComments inside)
  refine ⟨fun hmem => ?_, fun hmem => ?_, fun hmem => ?_, fun hmarker => ?_⟩
  · exact absurd (hseparator _ hmem) (by decide)
  · exact absurd (hseparator _ hmem) (by decide)
  · exact bracket_notMem_of_mem_dependencyLists hinside (hlist.subset (hstands.subset hmem))
  · exact not_marker_infix_withoutLineCommentsFrom false _ (hmarker.trans hstands)

/-- The items of a list stand in it in their order. -/
theorem sublist_flatten_listItems (inside : Text) : (listItems inside).flatten.Sublist inside := by
  have hcomments : (withoutLineComments (withoutBlockComments inside)).Sublist inside :=
    (sublist_withoutLineCommentsFrom false _).trans (sublist_withoutBlockComments inside)
  have hitems : ∀ pieces : List Text,
      ((pieces.map listItem).filter fun item => !item.isEmpty).flatten.Sublist pieces.flatten := by
    intro pieces
    induction pieces with
    | nil => exact List.Sublist.slnil
    | cons piece pieces ih =>
      rw [List.map_cons, List.filter_cons, List.flatten_cons]
      split
      · exact (infix_listItem piece).sublist.append ih
      · exact ih.trans (List.sublist_append_right _ _)
  exact (hitems _).trans ((Text.sublist_flatten_split _ _).trans hcomments)

/-- The dependencies stand in the body in their order. -/
theorem sublist_flatten_dependsOn (body : Text) : (dependsOn body).flatten.Sublist body := by
  have hitems : ∀ lists : List Text, (lists.flatMap listItems).flatten.Sublist lists.flatten := by
    intro lists
    induction lists with
    | nil => exact List.Sublist.slnil
    | cons inside lists ih =>
      rw [List.flatMap_cons, List.flatten_append, List.flatten_cons]
      exact (sublist_flatten_listItems inside).append ih
  exact (hitems _).trans (sublist_flatten_dependencyLists body)

/-- What every dependency is, whatever the body says. -/
structure Tidy (item : Text) : Prop where
  ne_nil : item ≠ []
  startsNo_isBlank : Text.StartsNo isBlank item
  endsNo_punctuation : Text.EndsNo (fun c => c == ',' || c == ';') item
  comma_notMem : ↑ ',' ∉ item
  newline_notMem : ↑ '\n' ∉ item
  bracket_notMem : ↑ ']' ∉ item
  not_marker_infix : ¬("//" : Text) <:+: item

theorem tidy_of_mem_dependsOn (h : item ∈ dependsOn body) : Tidy item := by
  obtain ⟨hne, piece, hpiece, rfl⟩ := mem_dependsOn_iff.1 h
  obtain ⟨hcomma, hnewline, hbracket, hmarker⟩ := notMem_of_mem_pieces hpiece
  have hstands := infix_listItem piece
  exact {
    ne_nil := hne
    startsNo_isBlank := (exists_listItem_eq piece).1
    endsNo_punctuation := endsNo_listItem piece
    comma_notMem := fun hmem => hcomma (hstands.subset hmem)
    newline_notMem := fun hmem => hnewline (hstands.subset hmem)
    bracket_notMem := fun hmem => hbracket (hstands.subset hmem)
    not_marker_infix := fun hmem => hmarker (hmem.trans hstands) }

/-- **What the listed dependencies look like.** Every dependency of every body is tidy. It ends with
a blank exactly where a blank stands in front of semicolons that end a piece of a list, so without
such pieces every dependency is free of blanks at both ends. -/
theorem dependsOn_tidy (body : Text) :
    (∀ item ∈ dependsOn body, Tidy item) ∧
      (∀ item ∈ dependsOn body, ¬Text.EndsNo isBlank item ↔
        ∃ piece ∈ pieces body, listItem piece = item ∧ Loose piece) ∧
      ((∀ item ∈ dependsOn body, Text.EndsNo isBlank item) ↔
        ∀ piece ∈ pieces body, ¬Loose piece) := by
  have hends : ∀ piece ∈ pieces body, (Text.EndsNo isBlank (listItem piece) ↔ ¬Loose piece) :=
    fun piece hpiece => endsNo_isBlank_listItem_iff (notMem_of_mem_pieces hpiece).1
  refine ⟨fun item => tidy_of_mem_dependsOn, fun item hitem => ⟨fun hblank => ?_, ?_⟩, ?_, ?_⟩
  · obtain ⟨-, piece, hpiece, rfl⟩ := mem_dependsOn_iff.1 hitem
    have hloose := mt (hends piece hpiece).2 hblank
    exact ⟨piece, hpiece, rfl, Classical.not_not.1 hloose⟩
  · rintro ⟨piece, hpiece, rfl, hloose⟩ hblank
    exact (hends piece hpiece).1 hblank hloose
  · intro hall piece hpiece hloose
    have hitem := mem_dependsOn_iff.2 ⟨listItem_ne_nil_of_loose hloose, piece, hpiece, rfl⟩
    exact (hends piece hpiece).1 (hall _ hitem) hloose
  · intro hall item hitem
    obtain ⟨-, piece, hpiece, rfl⟩ := mem_dependsOn_iff.1 hitem
    exact (hends piece hpiece).2 (hall piece hpiece)

/-- A list with comments, commas and semicolons. -/
def punctuated : Text := "dependsOn: [\n  storage, // primary\n  keyVault;\n  /* old */ cosmos\n]"

theorem dependsOn_tidy_punctuated :
    ("keyVault" : Text) ∈ dependsOn punctuated ∧ Tidy "keyVault" ∧
      Text.EndsNo isBlank ("keyVault" : Text) := by
  have hmem : ("keyVault" : Text) ∈ dependsOn punctuated := by decide
  exact ⟨hmem, (dependsOn_tidy punctuated).1 _ hmem, by decide⟩

/-- **A blank in front of the semicolon stays**, so the dependency is not the identifier that is
listed. -/
theorem dependsOn_loose_semicolon :
    dependsOn "dependsOn: [a ;]" = [("a " : Text)] ∧ ¬Text.EndsNo isBlank ("a " : Text) := by
  decide

end Body

end Groundplan

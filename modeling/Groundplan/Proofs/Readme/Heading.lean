import Mathlib.Data.List.Forall2
import Groundplan.Proofs.Readme.Insertion

/-!
# Headings of a document

**Headings as a grammar.** A heading is a marker, a title and an indentation (`IsHeading`). A marker
is one to six number signs and a gap (`IsMarker`), and a title spells its words in any case
(`Spells`). The tests of a line decide this grammar (`isArchitectureHeading_iff`,
`isRequirementsHeading_iff`).

**The first line of a class.** It can be looked for in two ways: among the lines of the document
(`IsFirst`), or in its text, as a place where such a line starts and ends (`StandsAt`) such that
there is none further in front (`FindsFirst`).

Main result: `findsFirst_iff`, the two ways find the same line.
-/

namespace Groundplan

namespace Readme

open Text (lines StartsNo)

/-! ## The grammar -/

/-- The text is the word, which is given in lower case, when case is ignored. -/
def Spells (word t : Text) : Prop :=
  List.Forall₂ (fun letter c => isLetter letter c = true) word t

/-- Spaces and tabs, at least one. -/
def IsGap (t : Text) : Prop := t ≠ [] ∧ t.IsIndentation

/-- One to six number signs and a gap. -/
def IsMarker (t : Text) : Prop :=
  ∃ signs gap, t = signs ++ gap ∧ (∀ c ∈ signs, c = '#') ∧ 1 ≤ signs.length ∧ signs.length ≤ 6 ∧
    IsGap gap

/-- The line is a heading with such a title. -/
def IsHeading (IsTitle : Text → Prop) (line : Text) : Prop :=
  ∃ marker title tail, line = marker ++ (title ++ tail) ∧ IsMarker marker ∧ IsTitle title ∧
    tail.IsIndentation

/-- `Architecture`, or `Architecture` and `Diagram` with a gap between them. -/
def IsArchitectureTitle (t : Text) : Prop :=
  Spells "architecture" t ∨
    ∃ first gap second, t = first ++ (gap ++ second) ∧ Spells "architecture" first ∧ IsGap gap ∧
      Spells "diagram" second

/-- `Requirements`. -/
def IsRequirementsTitle (t : Text) : Prop := Spells "requirements" t

/-! ## Words -/

variable {word t rest line : Text}

theorem spells_cons {letter : CodePoint} :
    Spells (letter :: word) t ↔ ∃ c r, t = c :: r ∧ isLetter letter c = true ∧ Spells word r := by
  rw [Spells, List.forall₂_cons_left_iff]
  constructor
  · rintro ⟨c, r, hc, hr, rfl⟩
    exact ⟨c, r, rfl, hc, hr⟩
  · rintro ⟨c, r, rfl, hc, hr⟩
    exact ⟨c, r, hc, hr, rfl⟩

theorem afterWord?_eq_some_iff :
    afterWord? word t = some rest ↔ ∃ spelled, t = spelled ++ rest ∧ Spells word spelled := by
  induction word generalizing t with
  | nil => simp [afterWord?, Spells]
  | cons letter word ih =>
    cases t with
    | nil => simp [afterWord?, spells_cons]
    | cons c t =>
      rw [afterWord?]
      constructor
      · intro h
        split at h
        · next hc =>
          obtain ⟨spelled, rfl, hspelled⟩ := ih.1 h
          exact ⟨c :: spelled, rfl, spells_cons.2 ⟨c, spelled, rfl, hc, hspelled⟩⟩
        · cases h
      · rintro ⟨spelled, ht, hspelled⟩
        obtain ⟨d, r, rfl, hd, hr⟩ := spells_cons.1 hspelled
        obtain ⟨rfl, rfl⟩ := List.cons.inj ht
        rw [if_pos hd]
        exact ih.2 ⟨r, rfl, hr⟩

/-- Only itself is a space, a tab, a newline or a number sign when case is ignored. -/
theorem eq_of_isLetter {letter c : CodePoint} (h : isLetter letter c = true)
    (hc : c ∈ ([' ', '\t', '\n', '#'] : Text)) : c = letter := by
  have hfixed : ∀ c ∈ ([' ', '\t', '\n', '#'] : Text),
      c.toLower = c ∧ c ≠ 'ı' ∧ c ≠ 'İ' ∧ c ≠ 'ſ' :=
    Text.forall_mem_of_all (by decide)
  obtain ⟨hlower, hdotless, hdotted, hlong⟩ := hfixed c hc
  simpa [isLetter, hlower, hdotless, hdotted, hlong] using h

theorem Spells.notMem {c : CodePoint} (h : Spells word t)
    (hc : c ∈ ([' ', '\t', '\n', '#'] : Text)) (hword : c ∉ word) : c ∉ t := by
  induction h with
  | nil => exact List.not_mem_nil
  | cons hletter _ ih =>
    rw [List.mem_cons, not_or] at hword ⊢
    exact ⟨fun heq => hword.1 (heq ▸ eq_of_isLetter hletter (heq ▸ hc)), ih hword.2⟩

/-- A text that starts with a word does not start with a gap. -/
theorem Spells.startsNo_indent (h : Spells word t)
    (hword : (word.head?.any fun letter => !isIndent letter) = true) (r : Text) :
    StartsNo isIndent (t ++ r) := by
  obtain ⟨letter, hletter, hindent⟩ := (Option.any_eq_true _ _).1 hword
  obtain ⟨word, rfl⟩ := List.head?_eq_some_iff.1 hletter
  obtain ⟨c, t, rfl, hc, -⟩ := spells_cons.1 h
  refine Text.startsNo_cons.2 ?_
  rw [← Bool.not_eq_true]
  intro hcindent
  have hmem : c ∈ ([' ', '\t', '\n', '#'] : Text) := by
    rw [isIndent, Bool.or_eq_true, beq_iff_eq, beq_iff_eq] at hcindent
    rcases hcindent with rfl | rfl <;> decide
  rw [← eq_of_isLetter hc hmem, hcindent] at hindent
  cases hindent

/-! ## Lines that are headings -/

theorem isBare_iff : isBare t = true ↔ t.IsIndentation := List.all_eq_true

/-- A text starts with a gap, or with no indentation. -/
theorem gap_iff : t.head?.any isIndent = true ∧ t.dropWhile isIndent = rest ↔
    ∃ gap, t = gap ++ rest ∧ IsGap gap ∧ StartsNo isIndent rest := by
  constructor
  · rintro ⟨hhead, hrest⟩
    obtain ⟨ht, hgap, hstarts⟩ := Text.span_iff.1 ⟨rfl, hrest⟩
    refine ⟨_, ht, ⟨fun hnil => ?_, hgap⟩, hstarts⟩
    rw [hnil, List.nil_append] at ht
    obtain ⟨c, hc, hindent⟩ := (Option.any_eq_true _ _).1 hhead
    rw [hstarts c (ht ▸ hc)] at hindent
    cases hindent
  · rintro ⟨gap, rfl, ⟨hne, hgap⟩, hstarts⟩
    refine ⟨?_, Text.dropWhile_append_startsNo hgap hstarts⟩
    obtain ⟨c, gap, rfl⟩ := List.exists_cons_of_ne_nil hne
    simpa using hgap c List.mem_cons_self

theorem IsGap.startsNo_sign {gap : Text} (h : IsGap gap) (r : Text) :
    StartsNo (· == '#') (gap ++ r) := by
  obtain ⟨hne, hgap⟩ := h
  obtain ⟨c, gap, rfl⟩ := List.exists_cons_of_ne_nil hne
  refine Text.startsNo_cons.2 (beq_false_of_ne ?_)
  rintro rfl
  exact absurd (hgap '#' List.mem_cons_self) (by decide)

theorem afterMarker?_eq_some_iff : afterMarker? line = some rest ↔
    ∃ marker, line = marker ++ rest ∧ IsMarker marker ∧ StartsNo isIndent rest := by
  unfold afterMarker?
  dsimp only
  constructor
  · intro h
    split at h
    · next hmarker =>
      simp only [Bool.and_eq_true, decide_eq_true_eq] at hmarker
      obtain ⟨⟨hone, hsix⟩, hhead⟩ := hmarker
      obtain ⟨hline, hsigns, -⟩ := (Text.span_iff (p := (· == '#')) (t := line)).1 ⟨rfl, rfl⟩
      obtain ⟨gap, hrest, hgap, hstarts⟩ := gap_iff.1 ⟨hhead, Option.some.inj h⟩
      refine ⟨_, ?_, ⟨_, gap, rfl, fun c hc => beq_iff_eq.1 (hsigns c hc), hone, hsix, hgap⟩,
        hstarts⟩
      rw [List.append_assoc, ← hrest]
      exact hline
    · cases h
  · rintro ⟨_, rfl, ⟨signs, gap, rfl, hsigns, hone, hsix, hgap⟩, hstarts⟩
    obtain ⟨htake, hdrop⟩ := Text.span_iff.2 ⟨List.append_assoc signs gap rest,
      fun c hc => beq_iff_eq.2 (hsigns c hc), hgap.startsNo_sign rest⟩
    obtain ⟨hhead, hrest⟩ := gap_iff.2 ⟨gap, rfl, hgap, hstarts⟩
    rw [htake, hdrop, hhead, hrest]
    simp [hone, hsix]

/-- What stands behind the marker and the word of a heading. -/
theorem exists_after_marker_iff
    (hword : (word.head?.any fun letter => !isIndent letter) = true) {p : Text → Bool} :
    ((afterMarker? line).bind (afterWord? word)).any p = true ↔
      ∃ marker spelled r, line = marker ++ (spelled ++ r) ∧ IsMarker marker ∧ Spells word spelled ∧
        p r = true := by
  simp only [Option.any_eq_true, Option.bind_eq_some_iff, afterMarker?_eq_some_iff,
    afterWord?_eq_some_iff]
  constructor
  · rintro ⟨r, ⟨_, ⟨marker, rfl, hmarker, -⟩, spelled, rfl, hspelled⟩, hr⟩
    exact ⟨marker, spelled, r, rfl, hmarker, hspelled, hr⟩
  · rintro ⟨marker, spelled, r, rfl, hmarker, hspelled, hr⟩
    exact ⟨r, ⟨_, ⟨marker, rfl, hmarker, hspelled.startsNo_indent hword r⟩, spelled, rfl, hspelled⟩,
      hr⟩

theorem isRequirementsHeading_iff :
    isRequirementsHeading line = true ↔ IsHeading IsRequirementsTitle line := by
  rw [isRequirementsHeading, exists_after_marker_iff (by decide)]
  simp only [isBare_iff, IsHeading, IsRequirementsTitle]

/-- What may stand behind the first word of an architecture heading. -/
theorem isBare_or_diagram_iff :
    (isBare t || (t.head?.any isIndent &&
        (afterWord? "diagram" (t.dropWhile isIndent)).any isBare)) = true ↔
      t.IsIndentation ∨ ∃ gap spelled tail, t = gap ++ (spelled ++ tail) ∧ IsGap gap ∧
        Spells "diagram" spelled ∧ tail.IsIndentation := by
  rw [Bool.or_eq_true, Bool.and_eq_true, isBare_iff]
  refine or_congr_right ?_
  simp only [Option.any_eq_true, afterWord?_eq_some_iff, isBare_iff]
  constructor
  · rintro ⟨hhead, tail, ⟨spelled, hrest, hspelled⟩, htail⟩
    obtain ⟨gap, ht, hgap, -⟩ := gap_iff.1 ⟨(Option.any_eq_true _ _).2 hhead, hrest⟩
    exact ⟨gap, spelled, tail, ht, hgap, hspelled, htail⟩
  · rintro ⟨gap, spelled, tail, ht, hgap, hspelled, htail⟩
    obtain ⟨hhead, hrest⟩ := gap_iff.2
      ⟨gap, ht, hgap, hspelled.startsNo_indent (by decide) tail⟩
    exact ⟨(Option.any_eq_true _ _).1 hhead, tail, ⟨spelled, hrest, hspelled⟩, htail⟩

theorem isArchitectureHeading_iff :
    isArchitectureHeading line = true ↔ IsHeading IsArchitectureTitle line := by
  have hany : isArchitectureHeading line =
      ((afterMarker? line).bind (afterWord? "architecture")).any fun rest =>
        isBare rest || (rest.head?.any isIndent &&
          (afterWord? "diagram" (rest.dropWhile isIndent)).any isBare) := by
    unfold isArchitectureHeading
    cases (afterMarker? line).bind (afterWord? "architecture") <;> rfl
  rw [hany, exists_after_marker_iff (by decide)]
  simp only [isBare_or_diagram_iff]
  constructor
  · rintro ⟨marker, first, r, rfl, hmarker, hfirst, hr⟩
    rcases hr with htail | ⟨gap, second, tail, rfl, hgap, hsecond, htail⟩
    · exact ⟨marker, first, r, rfl, hmarker, .inl hfirst, htail⟩
    · refine ⟨marker, first ++ (gap ++ second), tail, ?_, hmarker,
        .inr ⟨first, gap, second, rfl, hfirst, hgap, hsecond⟩, htail⟩
      simp only [List.append_assoc]
  · rintro ⟨marker, title, tail, rfl, hmarker, htitle, htail⟩
    rcases htitle with hfirst | ⟨first, gap, second, rfl, hfirst, hgap, hsecond⟩
    · exact ⟨marker, title, tail, rfl, hmarker, hfirst, .inl htail⟩
    · refine ⟨marker, first, gap ++ (second ++ tail), ?_, hmarker, hfirst,
        .inr ⟨gap, second, tail, rfl, hgap, hsecond, htail⟩⟩
      simp only [List.append_assoc]

/-! ## Headings are single lines -/

theorem newline_notMem_of_isIndentation {gap : Text} (h : gap.IsIndentation) : ↑ '\n' ∉ gap :=
  fun hmem => absurd (h '\n' hmem) (by decide)

theorem IsHeading.newline_notMem {IsTitle : Text → Prop} (htitle : ∀ t, IsTitle t → ↑ '\n' ∉ t)
    (h : IsHeading IsTitle line) : ↑ '\n' ∉ line := by
  obtain ⟨_, title, tail, rfl, ⟨signs, gap, rfl, hsigns, -, -, -, hgap⟩, ht, htail⟩ := h
  simp only [List.mem_append, not_or]
  refine ⟨⟨fun hmem => ?_, newline_notMem_of_isIndentation hgap⟩, htitle title ht,
    newline_notMem_of_isIndentation htail⟩
  exact absurd (hsigns '\n' hmem) (by decide)

theorem IsArchitectureTitle.newline_notMem (h : IsArchitectureTitle t) : ↑ '\n' ∉ t := by
  rcases h with h | ⟨first, gap, second, rfl, hfirst, ⟨-, hgap⟩, hsecond⟩
  · exact h.notMem (by decide) (by decide)
  · simp only [List.mem_append, not_or]
    exact ⟨hfirst.notMem (by decide) (by decide), newline_notMem_of_isIndentation hgap,
      hsecond.notMem (by decide) (by decide)⟩

theorem IsRequirementsTitle.newline_notMem (h : IsRequirementsTitle t) : ↑ '\n' ∉ t :=
  Spells.notMem h (by decide) (by decide)

/-! ## Lines and the text behind them -/

/-- Lines, each behind a newline. -/
def below (ls : List Text) : Text := ls.flatMap fun line => ↑ '\n' :: line

theorem below_cons (l : Text) (ls : List Text) : below (l :: ls) = ↑ '\n' :: (l ++ below ls) := by
  simp [below]

theorem join_cons (l : Text) (ls : List Text) : Text.join ['\n'] (l :: ls) = l ++ below ls := by
  induction ls generalizing l with
  | nil => simp [below]
  | cons a ls ih =>
    rw [Text.join_cons_cons, ih, below_cons, List.append_assoc, List.singleton_append]

theorem below_lines (t : Text) : below (lines t) = ↑ '\n' :: t := by
  obtain ⟨l, ls, hlines⟩ := List.exists_cons_of_ne_nil (Text.split_ne_nil (· == '\n') t)
  have ht : Text.join ['\n'] (l :: ls) = t := by
    rw [← hlines]
    exact Text.join_lines t
  rw [lines, hlines, below_cons, ← join_cons, ht]

/-- Without their leading newlines, lines do not depend on what joins them. -/
theorem dropWhile_below (ls : List Text) :
    (below ls).dropWhile (· == ↑ '\n') = (Text.join ['\n'] ls).dropWhile (· == ↑ '\n') := by
  cases ls with
  | nil => rfl
  | cons l ls =>
    rw [join_cons, below_cons]
    rfl

theorem lines_append_below (hline : ↑ '\n' ∉ line) {ls : List Text} (hls : ∀ l ∈ ls, ↑ '\n' ∉ l) :
    lines (line ++ below ls) = line :: ls := by
  induction ls generalizing line with
  | nil =>
    rw [below, List.flatMap_nil, List.append_nil]
    exact Text.split_of_forall_not fun c hc => beq_false_of_ne fun h => hline (h ▸ hc)
  | cons l ls ih =>
    rw [List.forall_mem_cons] at hls
    rw [below_cons, Text.lines_append_newline hline, ih hls.1 hls.2]

theorem join_append_cons (ls : List Text) (l : Text) (ls' : List Text) :
    Text.join ['\n'] (ls ++ l :: ls') = unlines ls ++ (l ++ below ls') := by
  have hne : ls ++ l :: ls' ≠ [] := by simp
  refine (List.append_left_inj (['\n'] : Text)).1 ?_
  rw [join_append_newline hne, unlines_append, ← join_append_newline (List.cons_ne_nil l ls'),
    join_cons]
  simp only [List.append_assoc]

/-! ## The first line of a class -/

/-- The first of the lines that is of the class `P`, between the lines in front of it and the lines
behind it. -/
structure IsFirst (P : Text → Prop) (ls before : List Text) (found : Text) (after : List Text) :
    Prop where
  lines_eq : ls = before ++ found :: after
  holds : P found
  not_before : ∀ l ∈ before, ¬P l

/-- A place in a text where a line of the class `P` stands: it starts where the text does or behind
a newline, and ends where the text does or in front of a newline. -/
structure StandsAt (P : Text → Prop) (content before found rest : Text) : Prop where
  content_eq : content = before ++ (found ++ rest)
  starts : before = [] ∨ (['\n'] : Text) <:+ before
  ends : rest = [] ∨ (['\n'] : Text) <+: rest
  holds : P found

/-- The place that is furthest in front. -/
structure FindsFirst (P : Text → Prop) (content before found rest : Text) : Prop
    extends StandsAt P content before found rest where
  le_length : ∀ before' found' rest', StandsAt P content before' found' rest' →
    before.length ≤ before'.length

section First

variable {P : Text → Prop} {p : Text → Bool} {content before found rest : Text}
variable {ls front after : List Text}

theorem IsFirst.mem (h : IsFirst P ls front found after) : found ∈ ls := by
  rw [h.lines_eq]
  exact List.mem_append_right front List.mem_cons_self

theorem breakAt?_eq_some_iff_isFirst (hp : ∀ l, p l = true ↔ P l) :
    breakAt? p ls = some (front, found, after) ↔ IsFirst P ls front found after := by
  rw [breakAt?_eq_some_iff, hp]
  constructor
  · rintro ⟨hls, hfound, hfront⟩
    exact ⟨hls, hfound, fun l hl hP => Bool.false_ne_true ((hfront l hl).symm.trans ((hp l).2 hP))⟩
  · rintro ⟨hls, hfound, hfront⟩
    exact ⟨hls, hfound, fun l hl => Bool.eq_false_iff.2 fun hP => hfront l hl ((hp l).1 hP)⟩

/-- Where the class is decided by a test, there is one first line. -/
theorem IsFirst.unique {before' after' : List Text} {found' : Text} (hp : ∀ l, p l = true ↔ P l)
    (h : IsFirst P ls front found after) (h' : IsFirst P ls before' found' after') :
    front = before' ∧ found = found' ∧ after = after' := by
  have heq := ((breakAt?_eq_some_iff_isFirst hp).2 h).symm.trans
    ((breakAt?_eq_some_iff_isFirst hp).2 h')
  simpa using heq

theorem breakAt?_eq_none_iff (hp : ∀ l, p l = true ↔ P l) :
    breakAt? p ls = none ↔ ∀ l ∈ ls, ¬P l := by
  induction ls with
  | nil => simp [breakAt?]
  | cons l ls ih =>
    rw [breakAt?, List.forall_mem_cons, ← hp, ← ih]
    cases p l <;> simp

/-- The places of lines in a text are those of the lines that it is cut into. -/
theorem standsAt_iff (hP : ∀ l, P l → ↑ '\n' ∉ l) :
    StandsAt P content before found rest ↔ P found ∧ ∃ front after,
      lines content = front ++ found :: after ∧ before = unlines front ∧ rest = below after := by
  constructor
  · rintro ⟨rfl, hstarts, hends, hfound⟩
    have hbefore : ∃ front, before = unlines front ∧ ∀ l ∈ front, ↑ '\n' ∉ l := by
      rcases hstarts with rfl | ⟨t, rfl⟩
      · exact ⟨[], rfl, by simp⟩
      · exact ⟨lines t, (unlines_lines t).symm, fun l hl => Text.newline_notMem_of_mem_lines hl⟩
    have hrest : ∃ after, rest = below after ∧ ∀ l ∈ after, ↑ '\n' ∉ l := by
      rcases hends with rfl | ⟨t, rfl⟩
      · exact ⟨[], rfl, by simp⟩
      · exact ⟨lines t, (below_lines t).symm, fun l hl => Text.newline_notMem_of_mem_lines hl⟩
    obtain ⟨front, rfl, hfront⟩ := hbefore
    obtain ⟨after, rfl, hafter⟩ := hrest
    refine ⟨hfound, front, after, ?_, rfl, rfl⟩
    rw [lines_unlines_append hfront, lines_append_below (hP found hfound) hafter]
  · rintro ⟨hfound, front, after, hlines, rfl, rfl⟩
    refine ⟨?_, ?_, ?_, hfound⟩
    · rw [← Text.join_lines content, hlines, join_append_cons]
    · rcases List.eq_nil_or_concat front with rfl | ⟨front, l, rfl⟩
      · exact .inl rfl
      · refine .inr ⟨unlines front ++ l, ?_⟩
        rw [List.concat_eq_append, unlines_append, unlines_cons, unlines_nil, List.append_nil,
          List.append_assoc]
    · cases after with
      | nil => exact .inl rfl
      | cons l after => exact .inr ⟨l ++ below after, (below_cons l after).symm⟩

theorem length_unlines_le_of_prefix {ls' : List Text} (h : ls <+: ls') :
    (unlines ls).length ≤ (unlines ls').length := by
  obtain ⟨us, rfl⟩ := h
  rw [unlines_append, List.length_append]
  omega

/-- **The first line of a class is the same in the text and among its lines.** -/
theorem findsFirst_iff (hP : ∀ l, P l → ↑ '\n' ∉ l) :
    FindsFirst P content before found rest ↔ ∃ front after,
      IsFirst P (lines content) front found after ∧ before = unlines front ∧
        rest = below after := by
  constructor
  · rintro ⟨hstands, hle⟩
    obtain ⟨hfound, front, after, hlines, rfl, rfl⟩ := (standsAt_iff hP).1 hstands
    refine ⟨front, after, ⟨hlines, hfound, fun l hl hl' => ?_⟩, rfl, rfl⟩
    -- A line of the class in front of the one found would be a place further in front.
    obtain ⟨us, vs, rfl⟩ := List.append_of_mem hl
    have hplace := (standsAt_iff hP).2
      ⟨hl', us, vs ++ found :: after, by simpa using hlines, rfl, rfl⟩
    have hlength := hle _ _ _ hplace
    rw [unlines_append, unlines_cons] at hlength
    simp only [List.length_append, List.length_singleton] at hlength
    omega
  · rintro ⟨front, after, ⟨hlines, hfound, hnone⟩, rfl, rfl⟩
    refine ⟨(standsAt_iff hP).2 ⟨hfound, front, after, hlines, rfl, rfl⟩, ?_⟩
    intro before' found' rest' hstands
    obtain ⟨hfound', front', after', hlines', rfl, rfl⟩ := (standsAt_iff hP).1 hstands
    rw [hlines] at hlines'
    rcases List.append_eq_append_iff.1 hlines' with ⟨us, rfl, -⟩ | ⟨us, rfl, hus⟩
    · exact length_unlines_le_of_prefix (List.prefix_append front us)
    · cases us with
      | nil => simp
      | cons u us =>
        obtain ⟨rfl, -⟩ := List.cons.inj hus
        exact absurd hfound' (hnone _ (by simp))

end First

end Readme

end Groundplan

import Groundplan.Proofs.Text.Lines
import Groundplan.Proofs.Text.Run
import Groundplan.Yaml.Repair

/-!
# What a repair does to lines

**Values.** A value of free text stands behind its lead, which is blanks, a dash or none, a key and
a colon, and behind the blanks that follow (`value?_eq_some_iff`). So whatever starts with no blank
is the value in its place.

**Lines.** A repair puts a part of the value between quotes, and this in the unquoted lines only
(`exists_line?_iff`). What it puts there is read back, up to the second quote (`unescape?_escape`).
The new value starts with a quote, and so it is left alone from then on (`line?_of_line?`).

**Texts.** A repaired text consists of the repaired lines (`fileLines_text`), and a change is a line
that differs (`mem_changes_iff`). A second repair finds nothing to do (`text_text`).

Main result: `repairs_line_by_line`.
-/

namespace Groundplan.Yaml.Repair

open Text

variable {t line lead rest start value after : Text}

/-! ## Values -/

/-- What stands in front of a value: blanks, a dash with blanks behind it or no dash, a key of free
text, and a colon. -/
def IsLead (lead : Text) : Prop :=
  ∃ indent dash key, lead = indent ++ (dash ++ (key ++ ([':'] : Text))) ∧
    (∀ c ∈ indent, isBlank c = true) ∧
    (dash = [] ∨ ∃ gap, dash = ↑ '-' :: gap ∧ ∀ c ∈ gap, isBlank c = true) ∧ key ∈ freeTextKeys

theorem colon_notMem_freeTextKeys : ∀ key ∈ freeTextKeys, ∀ c ∈ key, (c != ':') = true := by
  have hkeys : ∀ key ∈ freeTextKeys, key.all (· != ↑ ':') = true := by decide +kernel
  exact fun key hkey => List.all_eq_true.1 (hkeys key hkey)

/-- A key starts with neither a blank nor a dash. -/
theorem startsNo_freeTextKeys :
    ∀ key ∈ freeTextKeys, key ≠ [] ∧ StartsNo (fun c => isBlank c || c == '-') key := by
  have hkeys : ∀ key ∈ freeTextKeys,
      (key.head?.any fun c => !isBlank c && c != '-') = true := by decide +kernel
  intro key hkey
  have hhead := hkeys key hkey
  cases key with
  | nil => simp at hhead
  | cons c key =>
    refine ⟨List.cons_ne_nil c key, startsNo_cons.2 ?_⟩
    simpa using hhead

theorem afterKey?_eq_some_iff :
    afterKey? t = some rest ↔ ∃ key ∈ freeTextKeys, t = key ++ ↑ ':' :: rest := by
  have hsound : ∀ {rest}, afterKey? t = some rest →
      ∃ key ∈ freeTextKeys, t = key ++ ↑ ':' :: rest := by
    intro rest h
    obtain ⟨key, hkey, hafter⟩ := List.exists_of_findSome?_eq_some h
    exact ⟨key, hkey, by rw [eq_append_of_after? hafter]; simp⟩
  refine ⟨hsound, ?_⟩
  rintro ⟨key, hkey, rfl⟩
  have hsome : (afterKey? (key ++ ↑ ':' :: rest)).isSome = true := by
    rw [afterKey?, List.findSome?_isSome_iff]
    refine ⟨key, hkey, ?_⟩
    have happend := after?_append (key ++ ([':'] : Text)) rest
    rw [List.append_assoc, List.singleton_append] at happend
    rw [happend]
    rfl
  obtain ⟨rest', hrest⟩ := Option.isSome_iff_exists.1 hsome
  obtain ⟨key', hkey', heq⟩ := hsound hrest
  -- No key holds a colon, so both texts have their first colon behind their key.
  have hcolon : ∀ r : Text, StartsNo (· != ':') (↑ ':' :: r) := fun r => startsNo_cons.2 (by simp)
  obtain ⟨-, hcut⟩ := span_inj heq (colon_notMem_freeTextKeys key hkey) (hcolon rest)
    (colon_notMem_freeTextKeys key' hkey') (hcolon rest')
  rw [hrest, (List.cons.inj hcut).2]

theorem skipDash_of_ne (h : ∀ r, t ≠ ↑ '-' :: r) : skipDash t = t := by
  unfold skipDash
  split
  · next r => exact absurd rfl (h r)
  · rfl

theorem exists_isLead (h : afterKey? (skipDash (trimStart line)) = some rest) :
    ∃ lead, IsLead lead ∧ line = lead ++ rest := by
  obtain ⟨key, hkey, hskip⟩ := afterKey?_eq_some_iff.1 h
  obtain ⟨-, indent, hline, hindent⟩ := trimStart_spec line
  by_cases hdash : ∃ r, trimStart line = ↑ '-' :: r
  · obtain ⟨r, hr⟩ := hdash
    obtain ⟨-, gap, hcut, hgap⟩ := trimStart_spec r
    rw [hr] at hskip hline
    have hskip : trimStart r = key ++ ↑ ':' :: rest := hskip
    refine ⟨_, ⟨indent, _, key, rfl, hindent, .inr ⟨gap, rfl, hgap⟩, hkey⟩, ?_⟩
    rw [hskip] at hcut
    rw [hline, hcut]
    simp
  · rw [skipDash_of_ne fun r hr => hdash ⟨r, hr⟩] at hskip
    refine ⟨_, ⟨indent, [], key, rfl, hindent, .inl rfl, hkey⟩, ?_⟩
    rw [hskip] at hline
    rw [hline]
    simp

theorem afterKey?_of_isLead (h : IsLead lead) (rest : Text) :
    afterKey? (skipDash (trimStart (lead ++ rest))) = some rest := by
  obtain ⟨indent, dash, key, rfl, hindent, hdash, hkey⟩ := h
  obtain ⟨hne, hstarts⟩ := startsNo_freeTextKeys key hkey
  have hkeyed : StartsNo (fun c => isBlank c || c == '-') (key ++ ↑ ':' :: rest) :=
    hstarts.append hne _
  have hsolid : StartsNo isBlank (key ++ ↑ ':' :: rest) := by
    intro c hc
    exact (Bool.or_eq_false_iff.1 (hkeyed c hc)).1
  refine afterKey?_eq_some_iff.2 ⟨key, hkey, ?_⟩
  rcases hdash with rfl | ⟨gap, rfl, hgap⟩
  · have htrim : trimStart (indent ++ (key ++ ↑ ':' :: rest)) = key ++ ↑ ':' :: rest :=
      dropWhile_append_startsNo hindent hsolid
    have hdash : ∀ r, key ++ ↑ ':' :: rest ≠ ↑ '-' :: r := by
      intro r hr
      rw [hr, startsNo_cons] at hkeyed
      simp at hkeyed
    simp only [List.append_assoc, List.nil_append, List.singleton_append]
    rw [htrim, skipDash_of_ne hdash]
  · have htrim : trimStart (indent ++ (↑ '-' :: (gap ++ (key ++ ↑ ':' :: rest)))) =
        ↑ '-' :: (gap ++ (key ++ ↑ ':' :: rest)) :=
      dropWhile_append_startsNo hindent (startsNo_cons.2 (by decide))
    simp only [List.append_assoc, List.cons_append, List.nil_append]
    rw [htrim]
    exact dropWhile_append_startsNo hgap hsolid

/-- A value is what starts with no blank behind a lead and blanks. -/
theorem value?_eq_some_iff : value? line = some (start, value) ↔
    value ≠ [] ∧ StartsNo isBlank value ∧ ∃ lead gap, IsLead lead ∧
      (∀ c ∈ gap, isBlank c = true) ∧ start = lead ++ gap ∧ line = start ++ value := by
  have htake : ∀ start value : Text,
      (start ++ value).take ((start ++ value).length - value.length) = start := by
    intro start value
    exact List.take_left' (by simp)
  constructor
  · intro h
    obtain ⟨rest, hrest, hvalue⟩ := Option.bind_eq_some_iff.1 h
    obtain ⟨lead, hlead, rfl⟩ := exists_isLead hrest
    obtain ⟨hstarts, gap, hcut, hgap⟩ := trimStart_spec rest
    dsimp only at hvalue
    split at hvalue
    · cases hvalue
    · next hne =>
      have hline : lead ++ rest = lead ++ gap ++ trimStart rest := by
        rw [List.append_assoc, ← hcut]
      rw [hline, htake] at hvalue
      obtain ⟨rfl, rfl⟩ := Prod.mk.inj (Option.some.inj hvalue)
      exact ⟨by simpa using hne, hstarts, lead, gap, hlead, hgap, rfl, hline⟩
  · rintro ⟨hne, hstarts, lead, gap, hlead, hgap, rfl, rfl⟩
    have htrim : trimStart (gap ++ value) = value := dropWhile_append_startsNo hgap hstarts
    have hrest := afterKey?_of_isLead hlead (gap ++ value)
    rw [← List.append_assoc] at hrest
    rw [value?, hrest]
    show (if (trimStart (gap ++ value)).isEmpty then none else _) = _
    rw [htrim, htake]
    simp [hne]

/-! ## Quotes -/

/-- A value is its body and the comment behind it. -/
theorem splitComment_append (value : Text) :
    (splitComment value).1 ++ (splitComment value).2 = value := by
  induction value with
  | nil => rfl
  | cons c r ih =>
    rw [splitComment]
    split
    · rfl
    · simp [ih]

/-- Undoes the escapes of backslashes and quotation marks. A text with one of these characters that
is not escaped is refused. -/
def unescape? : Text → Option Text
  | [] => some []
  | '\\' :: c :: r => if c = '\\' ∨ c = '"' then (unescape? r).map (c :: ·) else none
  | c :: r => if c = '\\' ∨ c = '"' then none else (unescape? r).map (c :: ·)

theorem unescape?_escaped {c : CodePoint} (hc : c = '\\' ∨ c = '"') (t : Text) :
    unescape? (↑ '\\' :: c :: t) = (unescape? t).map (c :: ·) := by
  rw [unescape?, if_pos hc]

theorem unescape?_plain {c : CodePoint} (hc : ¬(c = '\\' ∨ c = '"')) (t : Text) :
    unescape? (c :: t) = (unescape? t).map (c :: ·) := by
  have hbackslash : c ≠ '\\' := fun h => hc (.inl h)
  rw [unescape?]
  · rw [if_neg hc]
  · simp [hbackslash]

theorem escape_cons (c : CodePoint) (t : Text) :
    escape (c :: t) = (if c = '\\' ∨ c = '"' then [↑ '\\', c] else [c]) ++ escape t := rfl

/-- Every quotation mark in the text is escaped: it stands behind a backslash, and what is in front
of this backslash is read to the end, so that the backslash is not escaped itself. -/
def EscapesQuotes (t : Text) : Prop :=
  ∀ front back : Text, t = front ++ ↑ '"' :: back →
    ∃ front' : Text, front = front' ++ (['\\'] : Text) ∧ (unescape? front').isSome = true

/-- **What is escaped is read back.** -/
theorem unescape?_escape (t : Text) : unescape? (escape t) = some t := by
  induction t with
  | nil => rfl
  | cons c t ih =>
    rw [escape_cons]
    by_cases hc : c = '\\' ∨ c = '"'
    · rw [if_pos hc]
      exact (unescape?_escaped hc (escape t)).trans (by rw [ih]; rfl)
    · rw [if_neg hc]
      exact (unescape?_plain hc (escape t)).trans (by rw [ih]; rfl)

/-- What is read to the end holds no quotation mark that is not escaped. -/
theorem escapesQuotes_of_unescape? (h : (unescape? t).isSome = true) : EscapesQuotes t := by
  fun_induction unescape? t with
  | case1 =>
    intro front back heq
    simp at heq
  | case2 c r hc ih =>
    rw [Option.isSome_map] at h
    intro front back heq
    match front with
    | [] => simp at heq
    | [d] =>
      obtain ⟨rfl, -⟩ := List.cons.inj heq
      exact ⟨[], rfl, rfl⟩
    | d :: e :: front =>
      simp only [List.cons_append, List.cons.injEq] at heq
      obtain ⟨rfl, rfl, hrest⟩ := heq
      obtain ⟨front', rfl, hfront⟩ := ih h front back hrest
      refine ⟨↑ '\\' :: c :: front', rfl, ?_⟩
      rw [unescape?_escaped hc, Option.isSome_map, hfront]
  | case3 c r hc => cases h
  | case4 c r hne hc => cases h
  | case5 c r hne hc ih =>
    rw [Option.isSome_map] at h
    intro front back heq
    cases front with
    | nil =>
      obtain ⟨rfl, -⟩ := List.cons.inj heq
      simp at hc
    | cons d front =>
      obtain ⟨rfl, hrest⟩ := List.cons.inj heq
      obtain ⟨front', rfl, hfront⟩ := ih h front back hrest
      refine ⟨c :: front', rfl, ?_⟩
      rw [unescape?_plain hc, Option.isSome_map, hfront]

theorem isPlain_escape (h : IsPlain t) : IsPlain (escape t) := by
  intro c hc
  obtain ⟨d, hd, hmem⟩ := List.mem_flatMap.1 hc
  have hplain := h d hd
  split at hmem
  · simp only [List.mem_cons, List.not_mem_nil, or_false] at hmem
    rcases hmem with rfl | rfl
    · decide
    · exact hplain
  · rw [List.mem_singleton] at hmem
    rw [hmem]
    exact hplain

/-! ## Lines -/

/-- A line is repaired when its value is not marked and its body needs quotes. -/
theorem line?_eq_some_iff : line? line = some after ↔
    ∃ start value, value? line = some (start, value) ∧ isMarked value = false ∧
      needsQuotes (splitComment value).1 = true ∧
      after =
        start ++ ↑ '"' :: escape (splitComment value).1 ++ ↑ '"' :: (splitComment value).2 := by
  rw [line?, Option.bind_eq_bind, Option.bind_eq_some_iff]
  constructor
  · rintro ⟨⟨start, value⟩, hvalue, h⟩
    dsimp only at h
    split at h
    · cases h
    · next hmarked =>
      split at h
      · next hneeds =>
        exact ⟨start, value, hvalue, by simpa using hmarked, hneeds, (Option.some.inj h).symm⟩
      · cases h
  · rintro ⟨start, value, hvalue, hmarked, hneeds, rfl⟩
    exact ⟨(start, value), hvalue, by simp [hmarked, hneeds]⟩

theorem needsQuotes_iff : needsQuotes t = true ↔
    ∃ a b, t = a ++ ↑ ':' :: b ∧ StartsNo (fun c => !isBlank c) b := by
  induction t with
  | nil => simp [needsQuotes]
  | cons c r ih =>
    have hhere : (c == ':' && r.head?.all isBlank) = true ↔
        c = ':' ∧ StartsNo (fun c => !isBlank c) r := by
      simp [StartsNo, Option.all_eq_true]
    rw [needsQuotes, Bool.or_eq_true, hhere, ih]
    constructor
    · rintro (⟨rfl, hr⟩ | ⟨a, b, rfl, hb⟩)
      · exact ⟨[], r, rfl, hr⟩
      · exact ⟨c :: a, b, rfl, hb⟩
    · rintro ⟨a, b, heq, hb⟩
      cases a with
      | nil =>
        obtain ⟨rfl, rfl⟩ := List.cons.inj heq
        exact .inl ⟨rfl, hb⟩
      | cons d a => exact .inr ⟨a, b, (List.cons.inj heq).2, hb⟩

/-- The line has a value of free text that is not marked and that holds, in front of its comment, a
colon before a blank or at its end. -/
def IsUnquoted (line : Text) : Prop :=
  ∃ lead gap body comment, IsLead lead ∧ (∀ c ∈ gap, isBlank c = true) ∧
    line = lead ++ gap ++ (body ++ comment) ∧ StartsNo isBlank (body ++ comment) ∧
    isMarked (body ++ comment) = false ∧ splitComment (body ++ comment) = (body, comment) ∧
    ∃ a b, body = a ++ ↑ ':' :: b ∧ StartsNo (fun c => !isBlank c) b

/-- **The unquoted lines are repaired**, and no others. -/
theorem exists_line?_iff : (∃ after, line? line = some after) ↔ IsUnquoted line := by
  constructor
  · rintro ⟨after, h⟩
    obtain ⟨start, value, hvalue, hmarked, hneeds, -⟩ := line?_eq_some_iff.1 h
    obtain ⟨-, hstarts, lead, gap, hlead, hgap, rfl, hline⟩ := value?_eq_some_iff.1 hvalue
    refine ⟨lead, gap, (splitComment value).1, (splitComment value).2, hlead, hgap, ?_⟩
    rw [splitComment_append]
    exact ⟨hline, hstarts, hmarked, rfl, needsQuotes_iff.1 hneeds⟩
  · rintro ⟨lead, gap, body, comment, hlead, hgap, hline, hstarts, hmarked, hsplit, hcolon⟩
    have hne : body ++ comment ≠ [] := by
      obtain ⟨a, b, rfl, -⟩ := hcolon
      simp
    have hvalue := value?_eq_some_iff.2 ⟨hne, hstarts, lead, gap, hlead, hgap, rfl, hline⟩
    refine ⟨_, line?_eq_some_iff.2 ⟨_, _, hvalue, hmarked, ?_, rfl⟩⟩
    rw [hsplit]
    exact needsQuotes_iff.2 hcolon

/-- A repair leaves the line as it is up to its value, and puts the body of the value between
quotation marks. -/
theorem exists_of_line? (h : line? line = some after) : ∃ lead gap body comment,
    IsLead lead ∧ (∀ c ∈ gap, isBlank c = true) ∧
      line = lead ++ gap ++ (body ++ comment) ∧
      after = lead ++ gap ++ ↑ '"' :: escape body ++ ↑ '"' :: comment := by
  obtain ⟨start, value, hvalue, -, -, hafter⟩ := line?_eq_some_iff.1 h
  obtain ⟨-, -, lead, gap, hlead, hgap, rfl, hline⟩ := value?_eq_some_iff.1 hvalue
  rw [← splitComment_append value] at hline
  exact ⟨lead, gap, _, _, hlead, hgap, hline, hafter⟩

/-- **A repaired line is left alone.** Its value starts with a quotation mark. -/
theorem line?_of_line? (h : line? line = some after) : line? after = none := by
  obtain ⟨lead, gap, body, comment, hlead, hgap, -, hafter⟩ := exists_of_line? h
  have hquoted : value? after = some (lead ++ gap, ↑ '"' :: (escape body ++ ↑ '"' :: comment)) := by
    refine value?_eq_some_iff.2 ⟨by simp, startsNo_cons.2 (by decide), lead, gap, hlead, hgap,
      rfl, ?_⟩
    rw [hafter]
    simp
  rw [line?, hquoted]
  rfl

theorem isPlain_of_line? (h : line? line = some after) (hplain : IsPlain line) :
    IsPlain after := by
  obtain ⟨lead, gap, body, comment, -, -, rfl, rfl⟩ := exists_of_line? h
  simp only [IsPlain, List.forall_mem_append] at hplain
  obtain ⟨hstart, hbody, hcomment⟩ := hplain
  have hquote : isLineEnd '"' = false := by decide
  simp only [IsPlain, List.forall_mem_append, List.forall_mem_cons]
  exact ⟨⟨hstart, hquote, isPlain_escape hbody⟩, hquote, hcomment⟩

/-- A line as it is after a repair. -/
def repaired (line : Text) : Text := (line? line).getD line

theorem repaired_nil : repaired [] = [] := rfl

theorem line?_repaired (line : Text) : line? (repaired line) = none := by
  unfold repaired
  cases h : line? line with
  | none => exact h
  | some after => exact line?_of_line? h

theorem repaired_repaired (line : Text) : repaired (repaired line) = repaired line := by
  rw [repaired, line?_repaired]
  rfl

theorem isPlain_repaired (h : IsPlain line) : IsPlain (repaired line) := by
  unfold repaired
  cases hline : line? line with
  | none => exact h
  | some after => exact isPlain_of_line? hline h

theorem repaired_eq_nil_iff (line : Text) : repaired line = [] ↔ line = [] := by
  unfold repaired
  cases hline : line? line with
  | none => rfl
  | some after =>
    obtain ⟨_, _, _, _, ⟨_, _, key, rfl, -⟩, -, rfl, rfl⟩ := exists_of_line? hline
    simp

/-- A line is repaired when it is another one afterwards. -/
theorem line?_eq_some_iff_ne :
    line? line = some after ↔ repaired line = after ∧ line ≠ after := by
  constructor
  · intro h
    refine ⟨by rw [repaired, h]; rfl, ?_⟩
    rintro rfl
    rw [line?_of_line? h] at h
    cases h
  · rintro ⟨rfl, hne⟩
    unfold repaired at hne ⊢
    cases hline : line? line with
    | none => simp [hline] at hne
    | some after => rfl

/-! ## Texts -/

/-- The pieces that a repaired text is joined from: the repaired lines, and an empty one behind a
last newline. -/
def pieces (t : Text) : List Text :=
  (fileLines t).map repaired ++ if t.getLast? = some ↑ '\n' then [[]] else []

theorem text_eq_join (t : Text) : text t = join ['\n'] (pieces t) := by
  by_cases hend : t.getLast? = some ↑ '\n'
  · have hne : (fileLines t).map repaired ≠ [] := by
      rw [ne_eq, List.map_eq_nil_iff, fileLines_eq_nil_iff]
      rintro rfl
      simp at hend
    rw [pieces, if_pos hend, join_append_nil hne, text, if_pos hend]
    rfl
  · rw [pieces, if_neg hend, List.append_nil, text, if_neg hend, List.append_nil]
    rfl

/-- Every piece is a repaired line; the empty one is too. -/
theorem exists_repaired_of_mem_pieces {l : Text} (h : l ∈ pieces t) :
    ∃ line, IsPlain line ∧ l = repaired line := by
  rcases List.mem_append.1 h with h | h
  · obtain ⟨line, hline, rfl⟩ := List.mem_map.1 h
    exact ⟨line, isPlain_of_mem_fileLines hline, rfl⟩
  · split at h
    · exact ⟨[], by simp [IsPlain], List.mem_singleton.1 h⟩
    · simp at h

theorem isPlain_of_mem_pieces {l : Text} (h : l ∈ pieces t) : IsPlain l := by
  obtain ⟨line, hline, rfl⟩ := exists_repaired_of_mem_pieces h
  exact isPlain_repaired hline

theorem newlineOnly_text (t : Text) : NewlineOnly (text t) := by
  rw [text_eq_join]
  exact newlineOnly_join fun l hl => isPlain_of_mem_pieces hl

theorem pieces_eq (h : NewlineOnly t) (hne : t ≠ []) : pieces t = (lines t).map repaired := by
  rw [pieces, fileLines_eq h]
  by_cases hlast : (lines t).getLast? = some []
  · obtain ⟨ls, hlines⟩ := List.getLast?_eq_some_iff.1 hlast
    have hlength : 1 < (lines t).length := by
      cases ls with
      | nil =>
        have hjoin := join_lines t
        rw [hlines] at hjoin
        exact absurd hjoin.symm hne
      | cons l ls => simp [hlines]
    rw [if_pos (getLast?_eq_newline_iff.2 ⟨hlength, hlast⟩), closed, if_pos hlast, hlines]
    simp [repaired_nil]
  · rw [if_neg fun hend => hlast (getLast?_eq_newline_iff.1 hend).2, closed, if_neg hlast,
      List.append_nil]

/-- The pieces between the newlines are repaired one by one. -/
theorem lines_text (h : NewlineOnly t) : lines (text t) = (lines t).map repaired := by
  by_cases hne : t = []
  · rw [hne]
    rfl
  · rw [text_eq_join, ← pieces_eq h hne]
    refine lines_join ?_ fun l hl => (isPlain_of_mem_pieces hl).newline_notMem
    rw [pieces_eq h hne]
    simp [lines_ne_nil]

/-- **Line by line.** The lines of a repaired text are the repaired lines. -/
theorem fileLines_text (h : NewlineOnly t) : fileLines (text t) = (fileLines t).map repaired := by
  rw [fileLines_eq (newlineOnly_text t), lines_text h, closed_map repaired_eq_nil_iff,
    fileLines_eq h]

theorem getLast?_text (h : NewlineOnly t) :
    (text t).getLast? = some ↑ '\n' ↔ t.getLast? = some ↑ '\n' := by
  rw [getLast?_eq_newline_iff, getLast?_eq_newline_iff, lines_text h, List.length_map,
    getLast?_map_eq_nil_iff repaired_eq_nil_iff]

theorem lines_text_eq_pieces (hne : text t ≠ []) : lines (text t) = pieces t := by
  have hpieces : pieces t ≠ [] := by
    intro hnil
    rw [text_eq_join, hnil] at hne
    exact hne rfl
  rw [text_eq_join]
  exact lines_join hpieces fun l hl => (isPlain_of_mem_pieces hl).newline_notMem

/-- **A second repair changes nothing.** -/
theorem text_text (t : Text) : text (text t) = text t := by
  by_cases hne : text t = []
  · rw [hne]
    rfl
  · rw [text_eq_join (text t), pieces_eq (newlineOnly_text t) hne, lines_text_eq_pieces hne]
    have hsame : (pieces t).map repaired = pieces t := by
      refine (List.map_congr_left fun l hl => ?_).trans (List.map_id _)
      obtain ⟨line, -, rfl⟩ := exists_repaired_of_mem_pieces hl
      exact repaired_repaired line
    rw [hsame, ← text_eq_join]

/-! ## Changes -/

/-- A change is a line that is repaired, with its number. -/
theorem mem_changes_iff {c : Change} : c ∈ changes t ↔ ∃ i, c.line = i + 1 ∧
    (fileLines t)[i]? = some c.before ∧ line? c.before = some c.after := by
  rw [changes, List.mem_filterMap]
  constructor
  · rintro ⟨⟨line, i⟩, hline, hchange⟩
    obtain ⟨after, hafter, rfl⟩ := Option.map_eq_some_iff.1 hchange
    exact ⟨i, rfl, List.mem_zipIdx_iff_getElem?.1 hline, hafter⟩
  · rintro ⟨i, hnumber, hline, hafter⟩
    refine ⟨(c.before, i), List.mem_zipIdx_iff_getElem?.2 hline, ?_⟩
    show (line? c.before).map (fun after => (⟨i + 1, c.before, after⟩ : Change)) = some c
    rw [hafter, Option.map_some, ← hnumber]

/-- Changes are listed from the first line to the last. -/
theorem pairwise_changes (t : Text) : (changes t).Pairwise fun c d => c.line < d.line := by
  have hnumbers : (fileLines t).zipIdx.Pairwise fun a b => a.2 < b.2 := by
    rw [← List.pairwise_map (f := Prod.snd) (R := fun i j => i < j), List.zipIdx_map_snd]
    exact List.pairwise_lt_range'
  rw [changes, List.pairwise_filterMap]
  refine hnumbers.imp fun {a b} hlt c hc d hd => ?_
  obtain ⟨_, -, rfl⟩ := Option.map_eq_some_iff.1 hc
  obtain ⟨_, -, rfl⟩ := Option.map_eq_some_iff.1 hd
  exact Nat.succ_lt_succ hlt

/-- A line is listed when it is unquoted. -/
theorem exists_mem_changes_iff {i : Nat} (hline : (fileLines t)[i]? = some line) :
    (∃ c ∈ changes t, c.line = i + 1) ↔ IsUnquoted line := by
  rw [← exists_line?_iff]
  constructor
  · rintro ⟨c, hc, hnumber⟩
    obtain ⟨j, hj, hbefore, hafter⟩ := mem_changes_iff.1 hc
    obtain rfl : j = i := by omega
    rw [hline, Option.some.injEq] at hbefore
    exact ⟨c.after, hbefore ▸ hafter⟩
  · rintro ⟨after, hafter⟩
    exact ⟨⟨i + 1, line, after⟩, mem_changes_iff.2 ⟨i, rfl, hline, hafter⟩, rfl⟩

/-- Nothing is left to be changed in a repaired text. -/
theorem changes_text (t : Text) : changes (text t) = [] := by
  rw [List.eq_nil_iff_forall_not_mem]
  intro c hc
  obtain ⟨i, -, hline, hafter⟩ := mem_changes_iff.1 hc
  have hmem := List.mem_of_getElem? hline
  rw [fileLines_eq (newlineOnly_text t)] at hmem
  have hne : text t ≠ [] := by
    intro hnil
    rw [hnil] at hline
    simp [fileLines, fileLinesFrom] at hline
  have hpiece := mem_of_mem_closed hmem
  rw [lines_text_eq_pieces hne] at hpiece
  obtain ⟨line, -, hrepaired⟩ := exists_repaired_of_mem_pieces hpiece
  rw [hrepaired, line?_repaired] at hafter
  cases hafter

/-- In a text with newlines only, a change is a line that differs. -/
theorem mem_changes_iff_ne (h : NewlineOnly t) {c : Change} : c ∈ changes t ↔ ∃ i, c.line = i + 1 ∧
    (fileLines t)[i]? = some c.before ∧ (fileLines (text t))[i]? = some c.after ∧
      c.before ≠ c.after := by
  rw [mem_changes_iff]
  refine exists_congr fun i => and_congr_right fun _ => and_congr_right fun hline => ?_
  rw [line?_eq_some_iff_ne, fileLines_text h, List.getElem?_map, hline, Option.map_some,
    Option.some.injEq]

/-! ## The repair -/

/-- One line becomes another by quotation marks: a part of it, escaped, stands between them, and
what is in front of this part and behind it stays as it is. -/
def Quotes (before after : Text) : Prop :=
  ∃ start escaped body finish, before = start ++ body ++ finish ∧
    after = start ++ ↑ '"' :: escaped ++ ↑ '"' :: finish ∧
    unescape? escaped = some body ∧ EscapesQuotes escaped

theorem quotes_of_line? (h : line? line = some after) : Quotes line after := by
  obtain ⟨lead, gap, body, comment, -, -, hline, hafter⟩ := exists_of_line? h
  have hread := unescape?_escape body
  refine ⟨lead ++ gap, _, body, comment, ?_, hafter, hread, ?_⟩
  · rw [hline, ← List.append_assoc]
  · exact escapesQuotes_of_unescape? (by rw [hread]; rfl)

/-- **A repair goes line by line, quotes faithfully, and is complete.** Where only newlines end
lines, the repaired text has as many lines and the same last newline. The changes are the lines that
differ, each with its number and with what it was and is, from the first line to the last. Each of
them puts a part of the line between quotation marks, from where it can be read back. Whatever ends
lines, the unquoted lines are changed and no others, and a second repair changes nothing. -/
theorem repairs_line_by_line (t : Text) :
    (NewlineOnly t →
      (fileLines (text t)).length = (fileLines t).length ∧
        ((text t).getLast? = some ↑ '\n' ↔ t.getLast? = some ↑ '\n') ∧
        (changes t).Pairwise (fun c d => c.line < d.line) ∧
        (∀ c, c ∈ changes t ↔ ∃ i, c.line = i + 1 ∧ (fileLines t)[i]? = some c.before ∧
          (fileLines (text t))[i]? = some c.after ∧ c.before ≠ c.after) ∧
        ∀ c ∈ changes t, Quotes c.before c.after) ∧
      (∀ (i : Nat) (line : Text), (fileLines t)[i]? = some line →
        ((∃ c ∈ changes t, c.line = i + 1) ↔ IsUnquoted line)) ∧
      text (text t) = text t ∧ changes (text t) = [] := by
  refine ⟨fun h => ⟨?_, getLast?_text h, pairwise_changes t, fun c => mem_changes_iff_ne h, ?_⟩,
    fun i line hline => exists_mem_changes_iff hline, text_text t, changes_text t⟩
  · rw [fileLines_text h, List.length_map]
  · intro c hc
    obtain ⟨_, -, -, hafter⟩ := mem_changes_iff.1 hc
    exact quotes_of_line? hafter

/-- Three lines, of which the first two need quotes. -/
def unquotedSource : Text :=
  "title: Say \"hi\": now # greeting\n- name: C:\\ or D: drive\nlabel: plain\n"

theorem repairs_line_by_line_unquoted :
    NewlineOnly unquotedSource ∧
      changes unquotedSource =
        [⟨1, "title: Say \"hi\": now # greeting", "title: \"Say \\\"hi\\\": now\" # greeting"⟩,
          ⟨2, "- name: C:\\ or D: drive", "- name: \"C:\\\\ or D: drive\""⟩] ∧
      (fileLines (text unquotedSource)).length = 3 ∧ IsUnquoted "- name: C:\\ or D: drive" ∧
      text (text unquotedSource) = text unquotedSource ∧ changes (text unquotedSource) = [] := by
  have hnewlines : NewlineOnly unquotedSource := by decide +kernel
  obtain ⟨hlines, hunquoted, htwice, hnone⟩ := repairs_line_by_line unquotedSource
  have hlength : (fileLines unquotedSource).length = 3 := by decide +kernel
  have hsecond : (fileLines unquotedSource)[1]? = some ("- name: C:\\ or D: drive" : Text) := by
    decide +kernel
  exact ⟨hnewlines, by decide +kernel, (hlines hnewlines).1.trans hlength,
    (hunquoted 1 _ hsecond).1 (by decide +kernel), htwice, hnone⟩

end Groundplan.Yaml.Repair

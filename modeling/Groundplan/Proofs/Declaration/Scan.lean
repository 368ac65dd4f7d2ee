import Groundplan.Proofs.Declaration.Opening

/-!
# Scanning a text for declarations

The searches for declarations go over a text from left to right and carry one bit: whether the
last character was a word character, so that no word starts at the next one (`wordGoesOn`).

**Places.** `AtWordStart P inWord t` says that `P` holds of the text from some place on where a
word can start.

**Steps.** Where a declaration stands, `allFrom` goes on behind it (`allFrom_of_header`); at every
other place it goes on with the next character (`allFrom_cons_of_none`).

**Quiet text.** Over a text in which no declaration opens, `allFrom`, `firstBlockFrom?` and
`untilDeclaration` find nothing and arrive at its end (`allFrom_append_of_quiet`,
`firstBlockFrom?_append_of_quiet`, `untilDeclaration_append_of_quiet`).
-/

namespace Groundplan.Declaration

open Text (IsWord IsBlankRun StartsNo)

/-! ## Where words start -/

/-- A word goes on behind the text; `inWord` says so for the empty text. -/
def wordGoesOn : (inWord : Bool) → Text → Bool
  | inWord, [] => inWord
  | _, c :: t => wordGoesOn (isWord c) t

@[simp] theorem wordGoesOn_nil (w : Bool) : wordGoesOn w [] = w := rfl

@[simp] theorem wordGoesOn_cons (w : Bool) (c : CodePoint) (t : Text) :
    wordGoesOn w (c :: t) = wordGoesOn (isWord c) t := rfl

@[simp] theorem wordGoesOn_append (w : Bool) (a b : Text) :
    wordGoesOn w (a ++ b) = wordGoesOn (wordGoesOn w a) b := by
  induction a generalizing w with
  | nil => rfl
  | cons c a ih => exact ih (isWord c)

/-- The last word of a text starts where a word can start; it is empty if the text ends with another
character. -/
theorem exists_lastWord (t : Text) :
    ∃ before word, t = before ++ word ∧ IsWord word ∧ wordGoesOn false before = false := by
  induction t with
  | nil => exact ⟨[], [], rfl, by decide, rfl⟩
  | cons c t ih =>
    obtain ⟨before, word, rfl, hword, hbefore⟩ := ih
    cases before with
    | nil =>
      cases hc : isWord c with
      | true => exact ⟨[], c :: word, rfl, List.forall_mem_cons.2 ⟨hc, hword⟩, rfl⟩
      | false => exact ⟨[c], word, rfl, hword, hc⟩
    | cons a before => exact ⟨c :: a :: before, word, rfl, hword, hbefore⟩

/-- `P` holds of the text from a place on where a word can start. -/
def AtWordStart (P : Text → Prop) (inWord : Bool) (t : Text) : Prop :=
  ∃ before after, t = before ++ after ∧ wordGoesOn inWord before = false ∧ P after

variable {P : Text → Prop} {w : Bool} {c : CodePoint} {t rest : Text}

theorem atWordStart_nil : AtWordStart P w [] ↔ w = false ∧ P [] := by
  constructor
  · intro h
    obtain ⟨before, after, h, hw, hP⟩ := h
    obtain ⟨rfl, rfl⟩ := List.append_eq_nil_iff.1 h.symm
    exact ⟨hw, hP⟩
  · intro h
    obtain ⟨hw, hP⟩ := h
    exact ⟨[], [], rfl, hw, hP⟩

theorem atWordStart_cons :
    AtWordStart P w (c :: t) ↔ (w = false ∧ P (c :: t)) ∨ AtWordStart P (isWord c) t := by
  constructor
  · intro h
    obtain ⟨before, after, h, hw, hP⟩ := h
    cases before with
    | nil =>
      subst h
      exact .inl ⟨hw, hP⟩
    | cons a before =>
      obtain ⟨rfl, rfl⟩ := List.cons.inj h
      exact .inr ⟨before, after, rfl, hw, hP⟩
  · intro h
    rcases h with ⟨hw, hP⟩ | ⟨before, after, rfl, hw, hP⟩
    · exact ⟨[], c :: t, rfl, hw, hP⟩
    · exact ⟨c :: before, after, rfl, hw, hP⟩

instance decidableAtWordStart [DecidablePred P] :
    (inWord : Bool) → (t : Text) → Decidable (AtWordStart P inWord t)
  | _, [] => decidable_of_iff _ atWordStart_nil.symm
  | inWord, c :: t =>
    have : Decidable (AtWordStart P (isWord c) t) := decidableAtWordStart (isWord c) t
    decidable_of_iff _ (atWordStart_cons (w := inWord)).symm

/-- A place behind `a` is a place of `a ++ b`. -/
theorem AtWordStart.append_left {a b : Text} (h : AtWordStart P (wordGoesOn w a) b) :
    AtWordStart P w (a ++ b) := by
  obtain ⟨before, after, rfl, hw, hP⟩ := h
  exact ⟨a ++ before, after, by rw [List.append_assoc], by rwa [wordGoesOn_append], hP⟩

theorem AtWordStart.behind_quote {a : Text} (h : AtWordStart P false t) :
    AtWordStart P w (a ++ ↑ '\'' :: t) := by
  have hquote : wordGoesOn w (a ++ (['\''] : Text)) = false := by
    rw [wordGoesOn_append]
    rfl
  rw [← hquote] at h
  simpa using h.append_left

/-! ## The word in front of every declaration -/

/-- Where the word `resource` and a blank stand, a character that ends a word and starts no blank
cannot be missed. -/
theorem startsWord_append_cons (hc : c ∉ keyword) (hb : isBlank c = false) (t rest : Text) :
    startsWord (t ++ c :: rest) = startsWord t := by
  rw [startsWord, startsWord, Text.after?_append_cons hc]
  cases h : Text.after? keyword t with
  | none => rfl
  | some u => cases u <;> simp [hb]

theorem startsWord_of_opens {id : Text} (h : Opens id rest t) : startsWord t = true := by
  obtain ⟨s₁, s₂, ⟨hne, hs⟩, -, -, rfl⟩ := h
  cases s₁ with
  | nil => exact absurd rfl hne
  | cons c s₁ =>
    rw [startsWord, Text.after?_append]
    exact hs c (by simp)

theorem opening?_eq_none_of_startsWord (h : startsWord t = false) : opening? t = none := by
  refine Option.eq_none_iff_forall_ne_some.2 fun ⟨id, rest⟩ hopen => ?_
  rw [startsWord_of_opens (opening?_eq_some_iff.1 hopen)] at h
  exact Bool.noConfusion h

theorem startsWord_nil : startsWord [] = false := rfl

theorem startsWord_cons_of_ne (h : c ≠ 'r') (t : Text) : startsWord (c :: t) = false := by
  rw [startsWord, keyword_eq, Text.after?, if_neg (Ne.symm h)]

/-! ## Steps of the search -/

/-- A declaration starts with a letter and ends with a quote. -/
theorem Declares.exists_before {d : Declaration} (h : Declares d rest t) :
    ∃ before, t = ↑ 'r' :: (before ++ ↑ '\'' :: rest) := by
  obtain ⟨⟨s₁, s₂, -, -, -, ht⟩, -, -⟩ := h
  rw [keyword_eq] at ht
  exact ⟨(['e', 's', 'o', 'u', 'r', 'c', 'e'] : Text) ++ (s₁ ++ (d.id ++ (s₂ ++ ↑ '\'' :: d.type))),
    by simpa using ht⟩

/-- A declaration that stands at the beginning is found, and the search goes on behind it. -/
theorem allFrom_of_header {d : Declaration} (h : header? t = some (d, rest)) :
    allFrom false 0 t = d :: allFrom false 0 rest := by
  obtain ⟨before, rfl⟩ := (header?_eq_some_iff.1 h).exists_before
  have hcut : before ++ ↑ '\'' :: rest = (before ++ (['\''] : Text)) ++ rest := by simp
  have hdrop : (before ++ ↑ '\'' :: rest).drop ((before ++ ↑ '\'' :: rest).length - rest.length) =
      rest := by
    rw [hcut, List.length_append, Nat.add_sub_cancel, List.drop_left]
  rw [allFrom, if_neg Bool.false_ne_true, h]
  exact congrArg (d :: ·) (by rw [allFrom_skip, hdrop])

theorem allFrom_cons_of_none (h : w = false → header? (c :: t) = none) :
    allFrom w 0 (c :: t) = allFrom (isWord c) 0 t := by
  rw [allFrom]
  cases w with
  | true => rfl
  | false => simp [h rfl]

theorem firstBlockFrom?_of_openBlock {id r : Text} (h : openBlock? id (c :: t) = some r) :
    firstBlockFrom? id false (c :: t) = some r := by
  rw [firstBlockFrom?, if_neg Bool.false_ne_true, h]
  rfl

theorem firstBlockFrom?_cons_of_none {id : Text} (h : w = false → openBlock? id (c :: t) = none) :
    firstBlockFrom? id w (c :: t) = firstBlockFrom? id (isWord c) t := by
  rw [firstBlockFrom?]
  cases w with
  | true => rfl
  | false => simp [h rfl]

/-- Induction along the search: behind a declaration that is found, else from character to
character. -/
theorem scan_induction {motive : Bool → Text → Prop} (nil : ∀ w, motive w [])
    (found : ∀ t d rest, header? t = some (d, rest) → motive false rest → motive false t)
    (next : ∀ w c t, (w = false → header? (c :: t) = none) → motive (isWord c) t →
      motive w (c :: t)) (w : Bool) (t : Text) : motive w t := by
  induction hn : t.length using Nat.strongRecOn generalizing w t with
  | ind n ih =>
    subst hn
    cases t with
    | nil => exact nil w
    | cons c t =>
      have hnext : motive (isWord c) t := ih t.length (by simp) (isWord c) t rfl
      cases w with
      | true => exact next true c t (fun hw => Bool.noConfusion hw) hnext
      | false =>
        cases h : header? (c :: t) with
        | none => exact next false c t (fun _ => h) hnext
        | some p =>
          obtain ⟨d, rest⟩ := p
          obtain ⟨before, ht⟩ := (header?_eq_some_iff.1 h).exists_before
          have hlt : rest.length < (c :: t).length := by
            rw [ht, List.length_cons, List.length_append, List.length_cons]
            omega
          exact found _ d rest h (ih rest.length hlt false rest rfl)

/-- What the search finds is declared where a word can start. -/
theorem atWordStart_of_mem_allFrom {d : Declaration} (w : Bool) (t : Text)
    (h : d ∈ allFrom w 0 t) : AtWordStart (fun u => ∃ rest, Declares d rest u) w t := by
  induction w, t using scan_induction with
  | nil w => cases h
  | found t e rest ht ih =>
    have he := header?_eq_some_iff.1 ht
    rw [allFrom_of_header ht] at h
    rcases List.mem_cons.1 h with rfl | h
    · exact ⟨[], t, rfl, rfl, rest, he⟩
    · obtain ⟨before, rfl⟩ := he.exists_before
      exact (ih h).behind_quote (a := ↑ 'r' :: before)
  | next w c t hnone ih =>
    rw [allFrom_cons_of_none hnone] at h
    exact atWordStart_cons.2 (.inr (ih h))

/-! ## Quiet text -/

/-- No declaration opens in the text when `rest` follows it. -/
def Quiet (rest : Text) : (inWord : Bool) → Text → Prop
  | _, [] => True
  | inWord, c :: t =>
    (inWord = false → opening? (c :: t ++ rest) = none) ∧ Quiet rest (isWord c) t

theorem quiet_append {a b : Text} :
    Quiet rest w (a ++ b) ↔ Quiet (b ++ rest) w a ∧ Quiet rest (wordGoesOn w a) b := by
  induction a generalizing w with
  | nil => simp [Quiet]
  | cons c a ih =>
    rw [List.cons_append, Quiet, Quiet, ih, and_assoc, wordGoesOn_cons, List.cons_append,
      List.append_assoc, List.cons_append]

/-- No declaration opens inside a word. -/
theorem quiet_of_isWord (h : IsWord t) : Quiet rest true t := by
  induction t with
  | nil => trivial
  | cons c t ih =>
    refine ⟨fun hw => Bool.noConfusion hw, ?_⟩
    rw [h c (by simp)]
    exact ih fun a ha => h a (by simp [ha])

theorem quiet_of_notMem (h : ↑ 'r' ∉ t) : Quiet rest w t := by
  induction t generalizing w with
  | nil => trivial
  | cons c t ih =>
    rw [List.mem_cons, not_or] at h
    exact ⟨fun _ => opening?_eq_none_of_startsWord (startsWord_cons_of_ne (Ne.symm h.1) _), ih h.2⟩

/-- No declaration opens in a text without the word `resource` in front of a blank, if what follows
the text goes on with neither. -/
theorem quiet_of_not_startsWord (hc : c ∉ keyword) (hb : isBlank c = false)
    (h : ¬AtWordStart (startsWord · = true) w t) : Quiet (c :: rest) w t := by
  induction t generalizing w with
  | nil => trivial
  | cons a t ih =>
    rw [atWordStart_cons, not_or, not_and] at h
    refine ⟨fun hw => opening?_eq_none_of_startsWord ?_, ih h.2⟩
    rw [startsWord_append_cons hc hb]
    exact Bool.eq_false_iff.2 (h.1 hw)

theorem wordGoesOn_of_isBlankRun (h : IsBlankRun t) : wordGoesOn w t = false := by
  obtain ⟨hne, ht⟩ := h
  rcases List.eq_nil_or_concat t with rfl | ⟨s, c, rfl⟩
  · exact absurd rfl hne
  · rw [List.concat_eq_append, wordGoesOn_append]
    exact isWord_eq_false_of_isBlank (ht c (by simp))

/-- No declaration opens at the identifier of a declaration: the quote in front of the type stands
where another identifier would have to stand. -/
theorem opening?_identifier {id s : Text} (hid : IsIdentifier id) (hs : IsBlankRun s)
    (rest : Text) : opening? (id ++ (s ++ ↑ '\'' :: rest)) = none := by
  refine Option.eq_none_iff_forall_ne_some.2 fun ⟨id', rest'⟩ h => ?_
  obtain ⟨s₁, s₂, h₁, hid', -, ht⟩ := opening?_eq_some_iff.1 h
  have hkey : IsWord keyword := by decide
  obtain ⟨-, hbehind⟩ := Text.span_inj ht hid.2 (IsBlankRun.startsNo_isWord hs _) hkey
    (IsBlankRun.startsNo_isWord h₁ _)
  obtain ⟨-, hquote⟩ := Text.span_inj hbehind hs.2 (Text.startsNo_cons.2 isBlank_quote) h₁.2
    (hid'.startsNo_isBlank _)
  obtain ⟨hne, hword⟩ := hid'
  cases id' with
  | nil => exact hne rfl
  | cons c id' =>
    obtain ⟨rfl, -⟩ := List.cons.inj hquote
    exact absurd (hword '\'' (by simp)) (by decide)

theorem quiet_identifier {id s : Text} (hid : IsIdentifier id) (hs : IsBlankRun s) (rest : Text) :
    Quiet (s ++ ↑ '\'' :: rest) false id := by
  have hopen := opening?_identifier hid hs rest
  obtain ⟨hne, hw⟩ := hid
  cases id with
  | nil => trivial
  | cons c id =>
    refine ⟨fun _ => hopen, ?_⟩
    rw [hw c (by simp)]
    exact quiet_of_isWord fun a ha => hw a (by simp [ha])

theorem quiet_blanks (h : IsBlankRun t) : Quiet rest w t :=
  quiet_of_notMem fun hr => absurd (h.2 'r' hr) (by decide)

/-- Behind its first letter and in front of its quote an opening opens no other declaration. -/
theorem Opens.exists_quiet {id : Text} (h : Opens id rest t) :
    ∃ front, t = ↑ 'r' :: (front ++ ↑ '\'' :: rest) ∧ Quiet (↑ '\'' :: rest) true front := by
  obtain ⟨s₁, s₂, h₁, hid, h₂, rfl⟩ := h
  refine ⟨(['e', 's', 'o', 'u', 'r', 'c', 'e'] : Text) ++ (s₁ ++ (id ++ s₂)), by simp [keyword_eq],
    ?_⟩
  simp only [quiet_append, wordGoesOn_of_isBlankRun h₁]
  exact ⟨quiet_of_isWord (by decide), quiet_blanks h₁, quiet_identifier hid h₂ rest,
    quiet_blanks h₂⟩

theorem Quiet.opening?_eq_none {a b : Text} (h : Quiet rest w (a ++ b)) (hb : b ≠ [])
    (hword : wordGoesOn w a = false) : opening? (b ++ rest) = none := by
  obtain ⟨-, hbehind⟩ := quiet_append.1 h
  rw [hword] at hbehind
  cases b with
  | nil => exact absurd rfl hb
  | cons c b => exact hbehind.1 rfl

theorem allFrom_append_of_quiet (h : Quiet rest w t) :
    allFrom w 0 (t ++ rest) = allFrom (wordGoesOn w t) 0 rest := by
  induction t generalizing w with
  | nil => rfl
  | cons c t ih =>
    have hnone : w = false → header? (c :: (t ++ rest)) = none := fun hw => header?_eq_none (h.1 hw)
    rw [List.cons_append, allFrom_cons_of_none hnone, ih h.2, wordGoesOn_cons]

theorem firstBlockFrom?_append_of_quiet {id : Text} (hid : IsIdentifier id) (h : Quiet rest w t) :
    firstBlockFrom? id w (t ++ rest) = firstBlockFrom? id (wordGoesOn w t) rest := by
  induction t generalizing w with
  | nil => rfl
  | cons c t ih =>
    have hnone : w = false → openBlock? id (c :: (t ++ rest)) = none := by
      intro hw
      have hopen : opening? (c :: (t ++ rest)) = none := h.1 hw
      rw [openBlock?_eq hid, header?_eq_none hopen, Option.bind_none]
    rw [List.cons_append, firstBlockFrom?_cons_of_none hnone, ih h.2, wordGoesOn_cons]

/-! ## Lines -/

theorem isWord_eq_false_of_isIndent (h : isIndent c = true) : isWord c = false :=
  isWord_eq_false_of_isBlank (isBlank_of_isIndent h)

/-- The line of a declaration needs its word, in the text itself if what follows the text goes on
with no part of it. -/
theorem startsLine_append_cons (hc : c ∉ keyword) (hb : isBlank c = false)
    (h : ¬AtWordStart (startsWord · = true) false t) : startsLine (t ++ c :: rest) = false := by
  induction t with
  | nil =>
    have hi : isIndent c = false := by
      rw [← Bool.not_eq_true]
      intro hi
      rw [isBlank_of_isIndent hi] at hb
      exact Bool.noConfusion hb
    have hword := startsWord_append_cons hc hb [] rest
    rw [List.nil_append] at hword
    rw [List.nil_append, startsLine, List.dropWhile_cons_of_neg (by simp [hi]), hword]
    rfl
  | cons a t ih =>
    rw [atWordStart_cons, not_or, not_and] at h
    cases ha : isIndent a with
    | true =>
      rw [isWord_eq_false_of_isIndent ha] at h
      rw [startsLine, List.cons_append, List.dropWhile_cons_of_pos ha]
      exact ih h.2
    | false =>
      rw [startsLine, List.cons_append, List.dropWhile_cons_of_neg (by simp [ha]),
        ← List.cons_append, startsWord_append_cons hc hb]
      exact Bool.eq_false_iff.2 (h.1 rfl)

/-- A block goes on over a text without the word `resource` in front of a blank. -/
theorem untilDeclaration_append_of_quiet {lineStart : Bool} (hline : lineStart = true → w = false)
    (hc : c ∉ keyword) (hb : isBlank c = false) (h : ¬AtWordStart (startsWord · = true) w t) :
    untilDeclaration lineStart (t ++ c :: rest) = t ++ c :: untilDeclaration (c == '\n') rest := by
  induction t generalizing w lineStart with
  | nil =>
    have hstart : startsLine (c :: rest) = false :=
      startsLine_append_cons (t := []) hc hb (by simp [atWordStart_nil, startsWord_nil])
    rw [List.nil_append, untilDeclaration, hstart, Bool.and_false, if_neg Bool.false_ne_true]
    rfl
  | cons a t ih =>
    have hstart : ¬(lineStart && startsLine (a :: (t ++ c :: rest))) = true := by
      intro hs
      rw [Bool.and_eq_true] at hs
      rw [hline hs.1] at h
      rw [← List.cons_append, startsLine_append_cons hc hb h] at hs
      exact Bool.noConfusion hs.2
    rw [atWordStart_cons, not_or] at h
    have hnext : (a == '\n') = true → isWord a = false := by
      intro ha
      rw [beq_iff_eq.1 ha]
      decide
    rw [List.cons_append, untilDeclaration, if_neg hstart, ih hnext h.2, List.cons_append]

end Groundplan.Declaration

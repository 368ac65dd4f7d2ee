import Groundplan.Proofs.Declaration.Collect
import Groundplan.Proofs.Declaration.Scan

/-!
# The border between two parts of a source

A source is cut in front of a declaration, behind a newline. What stands in the first part may be
broken in any way, as long as the quote in front of every type has its partner there (`Closed`).

**Every search stops at the border.** The reading of an opening does not cross it
(`opening?_append`): behind blanks at the end of the first part it meets a word where it needs an
identifier and a quote, or a quote. The search for a brace stops at the word `resource`
(`afterBrace?_append`), and a block ends at the line of the next declaration
(`blockBody_append`).

**The parts do not interfere.** The declarations of the whole are those of the parts
(`allFrom_append`), and a body comes from the first part that has one (`body?_append`).

Main result: `extract_append`.
-/

namespace Groundplan

namespace Declaration

open Text (IsWord IsBlankRun StartsNo)

/-! ## The two parts -/

/-- A declaration of `id` opens somewhere in the text. -/
def Declared (id t : Text) : Prop := AtWordStart (fun u => ∃ rest, Opens id rest u) false t

/-- The quote in front of a type is followed by a quote, wherever a declaration opens. -/
def Closed (inWord : Bool) (t : Text) : Prop :=
  ¬AtWordStart (fun u => ∃ id rest : Text, Opens id rest u ∧ ↑ '\'' ∉ rest) inWord t

/-- The text ends with a newline. -/
def EndsLine (t : Text) : Prop := t.getLast? = some ↑ '\n'

/-- The text starts with a declaration. -/
def StartsDeclaration (t : Text) : Prop := ∃ d rest, Declares d rest t

variable {t u : Text}

/-! These are decided by the readers of openings and declarations. -/

theorem exists_opens_iff {id : Text} :
    (∃ rest, Opens id rest t) ↔ (opening? t).map Prod.fst = some id := by
  simp only [Option.map_eq_some_iff, Prod.exists, exists_and_right, exists_eq_right,
    opening?_eq_some_iff]

theorem exists_opens_unclosed_iff :
    (∃ id rest : Text, Opens id rest t ∧ ↑ '\'' ∉ rest) ↔ ∃ p ∈ opening? t, ↑ '\'' ∉ p.2 := by
  simp only [Option.mem_def, Prod.exists, opening?_eq_some_iff]

theorem startsDeclaration_iff : StartsDeclaration t ↔ (header? t).isSome = true := by
  simp only [StartsDeclaration, Option.isSome_iff_exists, Prod.exists, header?_eq_some_iff]

instance (id : Text) : DecidablePred fun u => ∃ rest, Opens id rest u :=
  fun _ => decidable_of_iff _ exists_opens_iff.symm

instance : DecidablePred fun u => ∃ id rest : Text, Opens id rest u ∧ ↑ '\'' ∉ rest :=
  fun _ => decidable_of_iff _ exists_opens_unclosed_iff.symm

instance (id t : Text) : Decidable (Declared id t) := decidableAtWordStart false t

instance (w : Bool) (t : Text) : Decidable (Closed w t) :=
  inferInstanceAs (Decidable (¬AtWordStart _ w t))

instance (t : Text) : Decidable (EndsLine t) := inferInstanceAs (Decidable (_ = _))

instance (t : Text) : Decidable (StartsDeclaration t) :=
  decidable_of_iff _ startsDeclaration_iff.symm

/-! What the assumptions say of characters. -/

theorem endsLine_iff : EndsLine t ↔ ∃ s, t = s ++ (['\n'] : Text) := List.getLast?_eq_some_iff

theorem EndsLine.ne_nil (h : EndsLine t) : t ≠ [] := by
  intro h
  subst h
  cases h

theorem EndsLine.of_append {a : Text} (h : EndsLine (a ++ t)) (ht : t ≠ []) : EndsLine t := by
  rw [EndsLine, List.getLast?_append] at h
  cases hl : t.getLast? with
  | none => exact absurd (List.getLast?_eq_none_iff.1 hl) ht
  | some c =>
    rw [hl] at h
    exact hl.trans h

theorem EndsLine.of_cons {c : CodePoint} (h : EndsLine (c :: t)) :
    t = [] ∧ c = '\n' ∨ EndsLine t := by
  cases t with
  | nil => exact .inl ⟨rfl, by simpa [EndsLine] using h⟩
  | cons d t => exact .inr (h.of_append (a := [c]) (by simp))

theorem EndsLine.behind_quote {a : Text} (h : EndsLine (a ++ ↑ '\'' :: t)) : EndsLine t := by
  rcases (h.of_append (List.cons_ne_nil _ _)).of_cons with ⟨-, hq⟩ | ht
  · exact absurd hq (by decide)
  · exact ht

theorem newline_notMem_keyword : ↑ '\n' ∉ keyword := by decide

theorem newline_notMem_of_isIdentifier {id : Text} (h : IsIdentifier id) : ↑ '\n' ∉ id :=
  h.2.notMem (by decide)

theorem StartsDeclaration.startsWord (h : StartsDeclaration u) : startsWord u = true := by
  obtain ⟨d, rest, hopen, -, -⟩ := h
  exact startsWord_of_opens hopen

theorem StartsDeclaration.exists_cons (h : StartsDeclaration u) : ∃ v, u = ↑ 'r' :: v := by
  obtain ⟨d, rest, hd⟩ := h
  obtain ⟨before, hu⟩ := hd.exists_before
  exact ⟨_, hu⟩

/-! ## Openings at the border -/

theorem afterBlanks?_append (ht : t ≠ []) (hu : StartsNo isBlank u) :
    afterBlanks? (t ++ u) = (afterBlanks? t).map (· ++ u) := by
  cases t with
  | nil => exact absurd rfl ht
  | cons c t =>
    rw [List.cons_append, afterBlanks?, afterBlanks?, List.dropWhile_append]
    cases isBlank c with
    | false => rfl
    | true =>
      cases hd : t.dropWhile isBlank with
      | cons d r => rfl
      | nil =>
        have hself : u.dropWhile isBlank = u :=
          Text.dropWhile_append_startsNo (a := []) (by simp) hu
        simp [hself]

theorem identifier?_append (ht : EndsLine t) :
    identifier? (t ++ u) = (identifier? t).map fun (id, r) => (id, r ++ u) := by
  obtain ⟨s, rfl⟩ := endsLine_iff.1 ht
  have hnl : isWord '\n' = false := by decide
  rw [List.append_assoc, List.singleton_append]
  simp only [identifier?, Text.takeWhile_append_cons hnl, Text.dropWhile_append_cons hnl]
  split
  · rfl
  · simp

/-- A declaration is no identifier in front of a type: behind its first word stands another one. -/
theorem identifier?_of_startsDeclaration (hu : StartsDeclaration u) :
    ((identifier? u).bind fun (id, v) => (afterBlanks? v).bind fun e =>
      (Text.after? ['\''] e).bind fun rest => some (id, rest)) = none := by
  obtain ⟨d, rest, ⟨s₁, s₂, h₁, hid, -, rfl⟩, -, -⟩ := hu
  have hkey : IsIdentifier keyword := by decide
  have hword := identifier?_eq_some_iff.2
    ⟨hkey, rfl, IsBlankRun.startsNo_isWord h₁
      (d.id ++ (s₂ ++ ↑ '\'' :: (d.type ++ ↑ '\'' :: rest)))⟩
  have hblanks := afterBlanks?_eq_some_iff.2
    ⟨s₁, h₁, rfl, hid.startsNo_isBlank (s₂ ++ ↑ '\'' :: (d.type ++ ↑ '\'' :: rest))⟩
  have hquote :
      Text.after? ['\''] (d.id ++ (s₂ ++ ↑ '\'' :: (d.type ++ ↑ '\'' :: rest))) = none := by
    obtain ⟨hne, hw⟩ := hid
    cases hd : d.id with
    | nil => exact absurd hd hne
    | cons c id =>
      have hc : '\'' ≠ c := by
        intro h
        subst h
        exact absurd (hw '\'' (by simp [hd])) (by decide)
      rw [List.cons_append, Text.after?, if_neg hc]
  simp only [hword, Option.bind_some, hblanks, hquote, Option.bind_none]

/-- **Openings do not cross the border.** -/
theorem opening?_append (ht : EndsLine t) (hu : StartsDeclaration u) :
    opening? (t ++ u) = (opening? t).map fun (id, rest) => (id, rest ++ u) := by
  obtain ⟨v, hv⟩ := hu.exists_cons
  have hblank : StartsNo isBlank u := by
    rw [hv]
    exact Text.startsNo_cons.2 (by decide)
  obtain ⟨s, rfl⟩ := endsLine_iff.1 ht
  have hcut : s ++ (['\n'] : Text) ++ u = s ++ ↑ '\n' :: u := by simp
  simp only [opening?, Option.bind_eq_bind, Option.pure_def]
  rw [hcut, Text.after?_append_cons newline_notMem_keyword,
    Text.after?_append_cons newline_notMem_keyword]
  cases hkey : Text.after? keyword s with
  | none => rfl
  | some a =>
    simp only [Option.map_some, Option.bind_some]
    rw [show a ++ ↑ '\n' :: u = a ++ (['\n'] : Text) ++ u by simp,
      afterBlanks?_append (by simp) hblank]
    cases hb : afterBlanks? (a ++ (['\n'] : Text)) with
    | none => rfl
    | some b =>
      simp only [Option.map_some, Option.bind_some]
      obtain ⟨s₁, -, hsplit, -⟩ := afterBlanks?_eq_some_iff.1 hb
      have hends : EndsLine (s₁ ++ b) := endsLine_iff.2 ⟨a, hsplit.symm⟩
      by_cases hne : b = []
      · -- The blanks reach the border, so the declaration behind it would have to be an identifier.
        subst hne
        exact identifier?_of_startsDeclaration hu
      · have hbe := hends.of_append hne
        rw [identifier?_append hbe]
        cases hid : identifier? b with
        | none => rfl
        | some p =>
          obtain ⟨id, c⟩ := p
          obtain ⟨hword, rfl, -⟩ := identifier?_eq_some_iff.1 hid
          have hc : c ≠ [] := by
            intro h
            subst h
            obtain ⟨r, hr⟩ := endsLine_iff.1 hbe
            exact newline_notMem_of_isIdentifier hword (by rw [List.append_nil] at hr; simp [hr])
          simp only [Option.map_some, Option.bind_some]
          rw [afterBlanks?_append hc hblank]
          cases he : afterBlanks? c with
          | none => rfl
          | some e =>
            simp only [Option.map_some, Option.bind_some]
            cases e with
            | nil => simp [hv, Text.after?]
            | cons q e =>
              by_cases hq : '\'' = q
              · subst hq
                simp [Text.after?]
              · simp [Text.after?, hq]

/-! ## Declarations at the border -/

theorem quotedType?_quote {a : Text} (ha : ↑ '\'' ∉ a) (b : Text) :
    quotedType? (↑ '\'' :: (a ++ ↑ '\'' :: b)) = if a = [] then none else some (a, b) := by
  split
  · next h =>
    subst h
    rfl
  · next h => exact quotedType?_eq_some_iff.2 ⟨rfl, h, ha⟩

theorem quotedType?_append (h : ↑ '\'' ∈ t) :
    quotedType? (↑ '\'' :: (t ++ u)) =
      (quotedType? (↑ '\'' :: t)).map fun (type, rest) => (type, rest ++ u) := by
  obtain ⟨a, b, rfl, ha⟩ := List.eq_append_cons_of_mem h
  rw [List.append_assoc, List.cons_append, quotedType?_quote ha, quotedType?_quote ha]
  split
  · rfl
  · rfl

theorem Closed.of_cons {w : Bool} {c : CodePoint} (h : Closed w (c :: t)) : Closed (isWord c) t :=
  fun hp => h (atWordStart_cons.2 (.inr hp))

theorem Closed.behind_quote {w : Bool} {a : Text} (h : Closed w (a ++ ↑ '\'' :: t)) :
    Closed false t := fun hp => h hp.behind_quote

/-- A declaration stands at a place of the first part in the whole source exactly when it stands
there in the first part alone. -/
theorem header?_append (ht : EndsLine t) (hclosed : Closed false t) (hu : StartsDeclaration u) :
    header? (t ++ u) = (header? t).map fun (d, rest) => (d, rest ++ u) := by
  rw [header?_eq, header?_eq, opening?_append ht hu]
  cases h : opening? t with
  | none => rfl
  | some p =>
    obtain ⟨id, rest⟩ := p
    have hquote : ↑ '\'' ∈ rest := by
      refine Decidable.of_not_not fun hq => hclosed ⟨[], t, rfl, rfl, id, rest, ?_, hq⟩
      exact opening?_eq_some_iff.1 h
    simp [quotedType?_append hquote, Function.comp_def]

/-- **The declarations of a source are those of its parts.** -/
theorem allFrom_append (w : Bool) (ht : EndsLine t) (hclosed : Closed w t)
    (hu : StartsDeclaration u) : allFrom w 0 (t ++ u) = allFrom w 0 t ++ allFrom false 0 u := by
  induction w, t using scan_induction with
  | nil w => exact absurd rfl ht.ne_nil
  | found t d rest h ih =>
    have happ := header?_append ht hclosed hu
    rw [h] at happ
    obtain ⟨before, rfl⟩ := (header?_eq_some_iff.1 h).exists_before
    rw [allFrom_of_header happ, allFrom_of_header h, List.cons_append]
    exact congrArg (d :: ·) (ih (ht.behind_quote (a := ↑ 'r' :: before))
      (hclosed.behind_quote (a := ↑ 'r' :: before)))
  | next w c t h ih =>
    have hnone : w = false → header? (c :: (t ++ u)) = none := by
      intro hw
      subst hw
      have happ := header?_append ht hclosed hu
      rwa [h rfl] at happ
    rw [List.cons_append, allFrom_cons_of_none hnone, allFrom_cons_of_none h]
    rcases ht.of_cons with ⟨rfl, rfl⟩ | ht
    · rfl
    · exact ih ht hclosed.of_cons

/-! ## Blocks at the border -/

theorem startsWord_append (ht : EndsLine t) (u : Text) : startsWord (t ++ u) = startsWord t := by
  obtain ⟨s, rfl⟩ := endsLine_iff.1 ht
  rw [List.append_assoc, List.singleton_append, startsWord, startsWord,
    Text.after?_append_cons newline_notMem_keyword, Text.after?_append_cons newline_notMem_keyword]
  cases Text.after? keyword s with
  | none => rfl
  | some v => cases v <;> rfl

theorem afterBrace?_of_startsDeclaration (hu : StartsDeclaration u) :
    afterBrace? false u = none := by
  have hword := hu.startsWord
  obtain ⟨v, rfl⟩ := hu.exists_cons
  rw [afterBrace?, hword]
  rfl

theorem untilDeclaration_of_startsDeclaration (hu : StartsDeclaration u) :
    untilDeclaration true u = [] := by
  have hword := hu.startsWord
  obtain ⟨v, rfl⟩ := hu.exists_cons
  have hline : startsLine (↑ 'r' :: v) = true := hword
  rw [untilDeclaration, hline]
  rfl

/-- The search for a brace stops at the word that starts the second part. -/
theorem afterBrace?_append (w : Bool) (ht : EndsLine t) (hu : StartsDeclaration u) :
    afterBrace? w (t ++ u) = (afterBrace? w t).map (· ++ u) := by
  induction t generalizing w with
  | nil => exact absurd rfl ht.ne_nil
  | cons c t ih =>
    have hword := startsWord_append ht u
    rw [List.cons_append] at hword ⊢
    rw [afterBrace?, afterBrace?, hword]
    split
    · rfl
    · split
      · rfl
      · rcases ht.of_cons with ⟨rfl, rfl⟩ | ht
        · exact afterBrace?_of_startsDeclaration hu
        · exact ih (isWord c) ht

theorem exists_before_of_afterBrace? {w : Bool} {r : Text} (h : afterBrace? w t = some r) :
    ∃ before, t = before ++ ↑ '\x7b' :: r := by
  induction t generalizing w with
  | nil => cases h
  | cons c t ih =>
    rw [afterBrace?] at h
    split at h
    · next hc =>
      obtain rfl := Option.some.inj h
      exact ⟨[], by rw [hc]; rfl⟩
    · split at h
      · cases h
      · obtain ⟨before, rfl⟩ := ih h
        exact ⟨c :: before, rfl⟩

theorem openBlock?_append {id : Text} (hid : IsIdentifier id) (ht : EndsLine t)
    (hclosed : Closed false t) (hu : StartsDeclaration u) :
    openBlock? id (t ++ u) = (openBlock? id t).map (· ++ u) := by
  rw [openBlock?_eq hid, openBlock?_eq hid, header?_append ht hclosed hu]
  cases h : header? t with
  | none => rfl
  | some p =>
    obtain ⟨d, rest⟩ := p
    obtain ⟨before, rfl⟩ := (header?_eq_some_iff.1 h).exists_before
    have hbrace := afterBrace?_append false (ht.behind_quote (a := ↑ 'r' :: before)) hu
    by_cases hd : d.id = id
    · simp [hd, hbrace]
    · simp [hd]

theorem firstBlockFrom?_append {id : Text} (hid : IsIdentifier id) (w : Bool) (ht : EndsLine t)
    (hclosed : Closed w t) (hu : StartsDeclaration u) :
    firstBlockFrom? id w (t ++ u) =
      ((firstBlockFrom? id w t).map (· ++ u)).or (firstBlockFrom? id false u) := by
  induction t generalizing w with
  | nil => exact absurd rfl ht.ne_nil
  | cons c t ih =>
    have hnext : firstBlockFrom? id (isWord c) (t ++ u) =
        ((firstBlockFrom? id (isWord c) t).map (· ++ u)).or (firstBlockFrom? id false u) := by
      rcases ht.of_cons with ⟨rfl, rfl⟩ | ht
      · rfl
      · exact ih (isWord c) ht hclosed.of_cons
    rw [List.cons_append]
    cases w with
    | true =>
      rw [firstBlockFrom?_cons_of_none Bool.noConfusion,
        firstBlockFrom?_cons_of_none Bool.noConfusion, hnext]
    | false =>
      have hopen := openBlock?_append hid ht hclosed hu
      rw [List.cons_append] at hopen
      cases h : openBlock? id (c :: t) with
      | none =>
        rw [h, Option.map_none] at hopen
        rw [firstBlockFrom?_cons_of_none fun _ => hopen, firstBlockFrom?_cons_of_none fun _ => h,
          hnext]
      | some r =>
        rw [h, Option.map_some] at hopen
        rw [firstBlockFrom?_of_openBlock hopen, firstBlockFrom?_of_openBlock h]
        rfl

theorem startsLine_append (ht : EndsLine t) (u : Text) : startsLine (t ++ u) = startsLine t := by
  obtain ⟨s, rfl⟩ := endsLine_iff.1 ht
  have hnl : isIndent '\n' = false := by decide
  have hends : EndsLine (s.dropWhile isIndent ++ (['\n'] : Text)) := endsLine_iff.2 ⟨_, rfl⟩
  rw [List.append_assoc, List.singleton_append, startsLine, startsLine,
    Text.dropWhile_append_cons hnl, Text.dropWhile_append_cons hnl, ← startsWord_append hends u]
  simp

/-- The text before the next declaration ends at the border. -/
theorem untilDeclaration_append {lineStart : Bool} (ht : EndsLine t) (hu : StartsDeclaration u) :
    untilDeclaration lineStart (t ++ u) = untilDeclaration lineStart t := by
  induction t generalizing lineStart with
  | nil => exact absurd rfl ht.ne_nil
  | cons c t ih =>
    have hline := startsLine_append ht u
    rw [List.cons_append] at hline ⊢
    rw [untilDeclaration, untilDeclaration, hline]
    split
    · rfl
    · refine congrArg (c :: ·) ?_
      rcases ht.of_cons with ⟨rfl, rfl⟩ | ht
      · exact untilDeclaration_of_startsDeclaration hu
      · exact ih ht

/-- **Blocks end at the border.** -/
theorem blockBody_append (ht : EndsLine t) (hu : StartsDeclaration u) :
    blockBody (t ++ u) = blockBody t := by
  simp only [blockBody, untilDeclaration_append ht hu]

/-! ## What is declared where -/

theorem atWordStart_of_firstBlockFrom? {id r : Text} {w : Bool}
    (h : firstBlockFrom? id w t = some r) : AtWordStart (openBlock? id · = some r) w t := by
  induction t generalizing w with
  | nil => cases h
  | cons c t ih =>
    by_cases hopen : w = false → openBlock? id (c :: t) = none
    · rw [firstBlockFrom?_cons_of_none hopen] at h
      exact atWordStart_cons.2 (.inr (ih h))
    · obtain ⟨rfl, hsome⟩ := Classical.not_imp.1 hopen
      obtain ⟨r', hr'⟩ := Option.ne_none_iff_exists'.1 hsome
      rw [firstBlockFrom?_of_openBlock hr'] at h
      exact atWordStart_cons.2 (.inl ⟨rfl, hr'.trans h⟩)

theorem exists_append_of_afterBlanksThen? {α : Type} {next : Text → Option α} {r : α}
    (h : afterBlanksThen? next t = some r) : ∃ s v, t = s ++ v ∧ next v = some r := by
  induction t with
  | nil => cases h
  | cons c t ih =>
    rw [afterBlanksThen?] at h
    split at h
    · rw [Option.orElse_eq_orElse, Option.orElse_eq_or, Option.or_eq_some_iff] at h
      rcases h with h | ⟨-, h⟩
      · obtain ⟨s, v, rfl, hv⟩ := ih h
        exact ⟨c :: s, v, rfl, hv⟩
      · exact ⟨[c], t, rfl, h⟩
    · cases h

/-- A brace stands in front of a block, whatever the identifier is. -/
theorem exists_brace_of_openBlock? {id r : Text} (h : openBlock? id t = some r) :
    ∃ before, t = before ++ ↑ '\x7b' :: r := by
  simp only [openBlock?, Option.bind_eq_bind, Option.bind_eq_some_iff,
    Text.after?_eq_some_iff, Prod.exists] at h
  obtain ⟨a, rfl, b, hb, type, rest, htype, hbrace⟩ := h
  obtain ⟨s, v, rfl, hv⟩ := exists_append_of_afterBlanksThen? hb
  obtain ⟨e, he, hblanks⟩ := Option.bind_eq_some_iff.1 hv
  obtain ⟨s', -, rfl, -⟩ := afterBlanks?_eq_some_iff.1 hblanks
  obtain ⟨rfl, -, -⟩ := quotedType?_eq_some_iff.1 htype
  obtain ⟨gap, rfl⟩ := exists_before_of_afterBrace? hbrace
  obtain rfl := Text.after?_eq_some_iff.1 he
  exact ⟨keyword ++ (s ++ (id ++ (s' ++ ↑ '\'' :: (type ++ ↑ '\'' :: gap)))), by simp⟩

theorem exists_opens_of_openBlock? {id r : Text} (hid : IsIdentifier id)
    (h : openBlock? id t = some r) : ∃ rest, Opens id rest t := by
  rw [openBlock?_eq hid] at h
  obtain ⟨⟨d, rest⟩, hheader, hbrace⟩ := Option.bind_eq_some_iff.1 h
  obtain ⟨rfl, -⟩ := Option.ite_none_right_eq_some.1 hbrace
  exact ⟨_, (header?_eq_some_iff.1 hheader).1⟩

/-- A brace stands in front of the block that is found, whatever the identifier is. -/
theorem exists_brace_of_firstBlockFrom? {id r : Text} {w : Bool}
    (h : firstBlockFrom? id w t = some r) : ∃ before, t = before ++ ↑ '\x7b' :: r := by
  obtain ⟨front, after, rfl, -, hopen⟩ := atWordStart_of_firstBlockFrom? h
  obtain ⟨before, rfl⟩ := exists_brace_of_openBlock? hopen
  exact ⟨front ++ before, by rw [List.append_assoc]⟩

theorem body?_eq_none {id : Text} (hid : IsIdentifier id) (h : ¬Declared id t) :
    body? t id = none := by
  rw [body?, Option.map_eq_none_iff, Option.eq_none_iff_forall_ne_some]
  intro r hr
  obtain ⟨before, after, ht, hword, hopen⟩ := atWordStart_of_firstBlockFrom? hr
  exact h ⟨before, after, ht, hword, exists_opens_of_openBlock? hid hopen⟩

/-- **A body comes from the first part that has one.** -/
theorem body?_append {id : Text} (hid : IsIdentifier id) (ht : EndsLine t)
    (hclosed : Closed false t) (hu : StartsDeclaration u) :
    body? (t ++ u) id = (body? t id).or (body? u id) := by
  rw [body?, body?, body?, firstBlockFrom?_append hid false ht hclosed hu]
  cases h : firstBlockFrom? id false t with
  | none => simp
  | some r =>
    obtain ⟨front, rfl⟩ := exists_brace_of_firstBlockFrom? h
    have hends : EndsLine (↑ '\x7b' :: r) := ht.of_append (List.cons_ne_nil _ _)
    rcases hends.of_cons with ⟨-, hbrace⟩ | hends
    · exact absurd hbrace (by decide)
    · simp [blockBody_append hends hu]

theorem declared_of_mem_all {d : Declaration} (h : d ∈ all t) :
    IsIdentifier d.id ∧ Declared d.id t := by
  obtain ⟨before, after, ht, hword, rest, hd⟩ := atWordStart_of_mem_allFrom false t h
  obtain ⟨_, _, -, hid, -⟩ := hd.1
  exact ⟨hid, before, after, ht, hword, _, hd.1⟩

theorem find?_gives_eq_none {id : Text} (h : ¬Declared id t) : (all t).find? (gives id) = none := by
  rw [List.find?_eq_none]
  intro d hd hgives
  rw [gives, Bool.and_eq_true, beq_iff_eq] at hgives
  exact h (hgives.2 ▸ (declared_of_mem_all hd).2)

theorem isIdentifier_of_find?_gives {id : Text} {d : Declaration}
    (h : (all t).find? (gives id) = some d) : IsIdentifier id := by
  have hgives := List.find?_some h
  rw [gives, Bool.and_eq_true, beq_iff_eq] at hgives
  exact hgives.2 ▸ (declared_of_mem_all (List.mem_of_find?_eq_some h)).1

end Declaration

/-! ## Extraction from two parts -/

namespace ResourceSet

open Declaration

variable {t u : Text}

/-- A resource has the type of its first declaration whose type is not blank, and the body of its
first block. -/
theorem get?_extract (t id : Text) :
    (extract t).get? id =
      ((all t).find? (gives id)).map fun d => { d.resource with body := body? t id } := by
  rw [extract, OrderedMap.get?_mapValues, get?_foldl_declare, OrderedMap.get?_empty, Option.none_or,
    Option.map_map]
  rfl

theorem keys_extract (t : Text) : (extract t).keys = ((all t).foldl declare ∅).keys :=
  OrderedMap.keys_mapValues _ _

/-- A resource of the whole has its type from the first part that declares it with a type, and its
body from the first part that has a block for it. -/
theorem get?_extract_append (ht : EndsLine t) (hclosed : Closed false t)
    (hu : StartsDeclaration u) (id : Text) :
    (extract (t ++ u)).get? id =
      (((all t).find? (gives id)).or ((all u).find? (gives id))).map fun d =>
        { d.resource with body := (body? t id).or (body? u id) } := by
  have hfind : (all (t ++ u)).find? (gives id) =
      ((all t).find? (gives id)).or ((all u).find? (gives id)) := by
    rw [all, allFrom_append false ht hclosed hu, List.find?_append]
    rfl
  rw [get?_extract, hfind]
  refine Option.map_congr ?_
  intro d hd
  have hword : IsIdentifier id := by
    rcases Option.or_eq_some_iff.1 hd with hd | ⟨-, hd⟩
    · exact isIdentifier_of_find?_gives hd
    · exact isIdentifier_of_find?_gives hd
  rw [body?_append hword ht hclosed hu]

/-- A resource that only the first part declares. -/
theorem get?_extract_append_left (ht : EndsLine t) (hclosed : Closed false t)
    (hu : StartsDeclaration u) {id : Text} (hid : ¬Declared id u) :
    (extract (t ++ u)).get? id = (extract t).get? id := by
  rw [get?_extract_append ht hclosed hu, find?_gives_eq_none hid, Option.or_none, get?_extract]
  refine Option.map_congr ?_
  intro d hd
  rw [body?_eq_none (isIdentifier_of_find?_gives hd) hid, Option.or_none]

/-- A resource that only the second part declares. -/
theorem get?_extract_append_right (ht : EndsLine t) (hclosed : Closed false t)
    (hu : StartsDeclaration u) {id : Text} (hid : ¬Declared id t) :
    (extract (t ++ u)).get? id = (extract u).get? id := by
  rw [get?_extract_append ht hclosed hu, find?_gives_eq_none hid, Option.none_or, get?_extract]
  refine Option.map_congr ?_
  intro d hd
  rw [body?_eq_none (isIdentifier_of_find?_gives hd) hid, Option.none_or]

/-- The identifiers of the first part come first, then those that only the second part adds. -/
theorem keys_extract_append (ht : EndsLine t) (hclosed : Closed false t)
    (hu : StartsDeclaration u) :
    (extract (t ++ u)).keys =
      (extract t).keys ++ (extract u).keys.filter (fun id => !(extract t).contains id) := by
  have hcontains : ∀ id, (extract t).contains id = ((all t).foldl declare ∅).contains id := by
    intro id
    rw [Bool.eq_iff_iff, OrderedMap.contains_iff_mem, OrderedMap.contains_iff_mem, keys_extract]
  rw [keys_extract, all, allFrom_append false ht hclosed hu, List.foldl_append, keys_foldl_declare,
    keys_extract, keys_extract]
  simp only [hcontains]
  rfl

/-- **A part of a source does not damage the other one.** Where a source is cut behind a newline
and in front of a declaration, and every quote in front of a type has its partner in the first
part, a resource that only one of the parts declares is the one of that part. The resources of the
first part come first, then those that only the second part has, each in their order. -/
theorem extract_append (t₁ t₂ : Text) (hline : EndsLine t₁) (hclosed : Closed false t₁)
    (hstart : StartsDeclaration t₂) :
    (∀ id, ¬Declared id t₂ → (extract (t₁ ++ t₂)).get? id = (extract t₁).get? id) ∧
      (∀ id, ¬Declared id t₁ → (extract (t₁ ++ t₂)).get? id = (extract t₂).get? id) ∧
      (extract (t₁ ++ t₂)).keys =
        (extract t₁).keys ++ (extract t₂).keys.filter (fun id => !(extract t₁).contains id) := by
  refine ⟨?_, ?_, ?_⟩
  · intro id hid
    exact get?_extract_append_left hline hclosed hstart hid
  · intro id hid
    exact get?_extract_append_right hline hclosed hstart hid
  · exact keys_extract_append hline hclosed hstart

/-- A block that opens a string and does not end, and a declaration without a block. -/
def broken : Text := ("resource disk 'Store' = \x7b name: '\nresource key 'Vault'\n" : Text)

/-- A declaration with a block, which must not become the block of what stands before it. -/
def sound : Text := ("resource site 'Web' = \x7bdisk.id\x7d\n" : Text)

theorem extract_append_broken_sound :
    EndsLine broken ∧ Closed false broken ∧ StartsDeclaration sound ∧
      (extract (broken ++ sound)).get? ("disk" : Text) = (extract broken).get? ("disk" : Text) ∧
      (extract (broken ++ sound)).get? ("key" : Text) = (extract broken).get? ("key" : Text) ∧
      (extract (broken ++ sound)).get? ("site" : Text) = (extract sound).get? ("site" : Text) ∧
      (extract (broken ++ sound)).keys = [("disk" : Text), ("key" : Text), ("site" : Text)] := by
  have hline : EndsLine broken := by decide
  have hclosed : Closed false broken := by decide
  have hstart : StartsDeclaration sound := by decide
  obtain ⟨hleft, hright, hkeys⟩ := extract_append broken sound hline hclosed hstart
  have hdisk := hleft ("disk" : Text) (by decide)
  have hkey := hleft ("key" : Text) (by decide)
  have hsite := hright ("site" : Text) (by decide)
  exact ⟨hline, hclosed, hstart, hdisk, hkey, hsite, hkeys⟩

end ResourceSet

end Groundplan

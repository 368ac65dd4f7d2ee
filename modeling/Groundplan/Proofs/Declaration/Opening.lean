import Groundplan.Declaration
import Groundplan.Proofs.Text.Run
import Groundplan.Proofs.Text.Search

/-!
# How a declaration opens

A declaration opens with the word `resource`, an identifier and the quote in front of a type, with
blanks between them (`Opens`). It is a declaration when the type is not empty and a quote follows
it (`Declares`).

**Reading.** `opening?` reads an opening (`opening?_eq_some_iff`). `header?` reads an opening and
then a type (`header?_eq`, `header?_eq_some_iff`), and `openBlock?` reads the same opening as
`header?` and then looks for a brace (`openBlock?_eq`): the two searches agree on where a
declaration stands.
-/

namespace Groundplan.Declaration

open Text (IsWord IsBlankRun StartsNo)

theorem keyword_eq : keyword = (['r', 'e', 's', 'o', 'u', 'r', 'c', 'e'] : Text) := rfl

/-- The text is an identifier: word characters, at least one. -/
def IsIdentifier (id : Text) : Prop := id ≠ [] ∧ IsWord id

instance (id : Text) : Decidable (IsIdentifier id) := inferInstanceAs (Decidable (_ ∧ _))

/-- The text opens a declaration of `id`, and `rest` stands behind the opening quote. -/
def Opens (id rest t : Text) : Prop :=
  ∃ s₁ s₂, IsBlankRun s₁ ∧ IsIdentifier id ∧ IsBlankRun s₂ ∧
    t = keyword ++ (s₁ ++ (id ++ (s₂ ++ ↑ '\'' :: rest)))

/-- The text starts with the declaration `d`, and `rest` stands behind its type. -/
def Declares (d : Declaration) (rest t : Text) : Prop :=
  Opens d.id (d.type ++ ↑ '\'' :: rest) t ∧ d.type ≠ [] ∧ ↑ '\'' ∉ d.type

/-! ## Parts of an opening -/

theorem afterBlanks?_eq_some_iff {t r : Text} :
    afterBlanks? t = some r ↔ ∃ s, IsBlankRun s ∧ t = s ++ r ∧ StartsNo isBlank r := by
  cases t with
  | nil =>
    simp only [afterBlanks?, reduceCtorEq, false_iff, not_exists]
    rintro s ⟨⟨hne, -⟩, hs, -⟩
    exact hne (List.append_eq_nil_iff.1 hs.symm).1
  | cons c t =>
    rw [afterBlanks?]
    constructor
    · intro h
      split at h
      · next hc =>
        obtain ⟨ht, hs, hr⟩ := Text.span_iff.1 ⟨rfl, Option.some.inj h⟩
        refine ⟨c :: t.takeWhile isBlank, ⟨by simp, ?_⟩, congrArg (c :: ·) ht, hr⟩
        rintro a (_ | ⟨_, ha⟩)
        · exact hc
        · exact hs a ha
      · cases h
    · intro h
      obtain ⟨s, ⟨hne, hs⟩, ht, hr⟩ := h
      cases s with
      | nil => exact absurd rfl hne
      | cons a s =>
        obtain ⟨rfl, rfl⟩ := List.cons.inj ht
        rw [if_pos (hs c (by simp))]
        exact congrArg some
          (Text.dropWhile_append_startsNo (fun a ha => hs a (List.mem_cons_of_mem _ ha)) hr)

theorem identifier?_eq_some_iff {t id r : Text} :
    identifier? t = some (id, r) ↔ IsIdentifier id ∧ t = id ++ r ∧ StartsNo isWord r := by
  rw [identifier?]
  constructor
  · intro h
    split at h
    · cases h
    · next hne =>
      obtain ⟨hid, hr⟩ := Prod.mk.inj (Option.some.inj h)
      obtain ⟨ht, hw, hr⟩ := Text.span_iff.1 ⟨hid, hr⟩
      refine ⟨⟨?_, hw⟩, ht, hr⟩
      intro h
      subst h
      simp [hid] at hne
  · intro h
    obtain ⟨⟨hne, hw⟩, ht, hr⟩ := h
    obtain ⟨hid, hrest⟩ := Text.span_iff.2 ⟨ht, hw, hr⟩
    simp [hid, hrest, hne]

theorem quotedType?_eq_some_iff {t type r : Text} :
    quotedType? t = some (type, r) ↔
      t = ↑ '\'' :: (type ++ ↑ '\'' :: r) ∧ type ≠ [] ∧ ↑ '\'' ∉ type := by
  constructor
  · intro h
    unfold quotedType? at h
    split at h
    · next u =>
      split at h
      · next c rest hdrop =>
        dsimp only at h
        split at h
        · cases h
        · next hne =>
          obtain ⟨htype, rfl⟩ := Prod.mk.inj (Option.some.inj h)
          obtain ⟨ht, hmem, hc⟩ := Text.span_iff.1 ⟨htype, hdrop⟩
          obtain rfl : c = '\'' := by simpa using Text.startsNo_cons.1 hc
          refine ⟨congrArg (↑ '\'' :: ·) ht, ?_, fun hq => ?_⟩
          · intro h
            subst h
            simp [htype] at hne
          · simpa using hmem '\'' hq
      · cases h
    · cases h
  · intro h
    obtain ⟨rfl, hne, hq⟩ := h
    have hspan : ∀ c ∈ type, (c != '\'') = true := fun c hc => bne_iff_ne.2 fun h => hq (h ▸ hc)
    have hstop : StartsNo (· != '\'') (↑ '\'' :: r) := Text.startsNo_cons.2 (bne_self_eq_false _)
    obtain ⟨htake, hdrop⟩ := Text.span_iff.2 ⟨rfl, hspan, hstop⟩
    simp [quotedType?, htake, hdrop, hne]

/-! ## Openings -/

/-- The identifier of the opening that the text starts with and what stands behind the quote. -/
def opening? (t : Text) : Option (Text × Text) := do
  let t ← Text.after? keyword t
  let t ← afterBlanks? t
  let (id, t) ← identifier? t
  let t ← afterBlanks? t
  let rest ← Text.after? ['\''] t
  return (id, rest)

theorem isBlank_quote : isBlank '\'' = false := by decide

theorem IsIdentifier.startsNo_isBlank {id : Text} (h : IsIdentifier id) (r : Text) :
    StartsNo isBlank (id ++ r) := by
  obtain ⟨hne, hw⟩ := h
  cases id with
  | nil => exact absurd rfl hne
  | cons c id => exact Text.startsNo_cons.2 (isBlank_eq_false_of_isWord (hw c (by simp)))

theorem IsBlankRun.startsNo_isWord {s : Text} (h : IsBlankRun s) (r : Text) :
    StartsNo isWord (s ++ r) := by
  obtain ⟨hne, hs⟩ := h
  cases s with
  | nil => exact absurd rfl hne
  | cons c s => exact Text.startsNo_cons.2 (isWord_eq_false_of_isBlank (hs c (by simp)))

/-- The reading of openings decides `Opens`. -/
theorem opening?_eq_some_iff {t id rest : Text} :
    opening? t = some (id, rest) ↔ Opens id rest t := by
  simp only [opening?, Option.bind_eq_bind, Option.bind_eq_some_iff, Text.after?_eq_some_iff,
    afterBlanks?_eq_some_iff, Prod.exists, identifier?_eq_some_iff, Option.pure_def,
    Option.some.injEq, Prod.mk.injEq]
  constructor
  · intro h
    obtain ⟨_, rfl, _, ⟨s₁, h₁, rfl, -⟩, _, _, ⟨hid, rfl, -⟩, _, ⟨s₂, h₂, rfl, -⟩, _, rfl, rfl,
      rfl⟩ := h
    exact ⟨s₁, s₂, h₁, hid, h₂, rfl⟩
  · intro h
    obtain ⟨s₁, s₂, h₁, hid, h₂, rfl⟩ := h
    exact ⟨_, rfl, _, ⟨s₁, h₁, rfl, hid.startsNo_isBlank _⟩, _, _,
      ⟨hid, rfl, IsBlankRun.startsNo_isWord h₂ _⟩, _,
      ⟨s₂, h₂, rfl, Text.startsNo_cons.2 isBlank_quote⟩, _, rfl, rfl, rfl⟩

/-! ## Declarations -/

/-- A declaration is an opening and a type. -/
theorem header?_eq (t : Text) :
    header? t = (opening? t).bind fun (id, rest) =>
      (quotedType? (↑ '\'' :: rest)).map fun (type, rest) => (⟨id, type⟩, rest) := by
  have hquote : ∀ u : Text, quotedType? u =
      (Text.after? ['\''] u).bind fun rest => quotedType? (↑ '\'' :: rest) := by
    intro u
    cases u with
    | nil => rfl
    | cons c u =>
      by_cases hc : c = '\''
      · subst hc
        rfl
      · simp [quotedType?, Text.after?, hc, Ne.symm hc]
  simp only [header?, opening?, Option.bind_eq_bind, Option.pure_def, Option.bind_assoc,
    Option.bind_some, Option.map_eq_bind]
  refine Option.bind_congr fun a _ => Option.bind_congr fun b _ => Option.bind_congr fun c _ =>
    Option.bind_congr fun e _ => ?_
  rw [hquote, Option.bind_assoc]
  rfl

/-- The reading of declarations decides `Declares`. -/
theorem header?_eq_some_iff {t : Text} {d : Declaration} {rest : Text} :
    header? t = some (d, rest) ↔ Declares d rest t := by
  obtain ⟨id, type⟩ := d
  simp only [header?_eq, Option.bind_eq_some_iff, Option.map_eq_some_iff, Prod.exists,
    opening?_eq_some_iff, quotedType?_eq_some_iff, Prod.mk.injEq, Declaration.mk.injEq,
    List.cons.injEq, true_and]
  constructor
  · intro h
    obtain ⟨_, _, hopen, _, _, ⟨rfl, hne, hq⟩, ⟨rfl, rfl⟩, rfl⟩ := h
    exact ⟨hopen, hne, hq⟩
  · intro h
    obtain ⟨hopen, hne, hq⟩ := h
    exact ⟨_, _, hopen, _, _, ⟨rfl, hne, hq⟩, ⟨rfl, rfl⟩, rfl⟩

/-- Without an opening there is no declaration. -/
theorem header?_eq_none {t : Text} (h : opening? t = none) : header? t = none := by
  rw [header?_eq, h, Option.bind_none]

/-! ## Blocks -/

/-- When `next` finds nothing in a text that starts with a blank, only the longest run of blanks
can be skipped before it. -/
theorem afterBlanksThen?_eq {α : Type} (next : Text → Option α)
    (hnext : ∀ c r, isBlank c = true → next (c :: r) = none) (t : Text) :
    afterBlanksThen? next t = (afterBlanks? t).bind next := by
  induction t with
  | nil => rfl
  | cons c t ih =>
    rw [afterBlanksThen?, afterBlanks?, ih]
    cases hc : isBlank c with
    | false => rfl
    | true =>
      cases t with
      | nil => simp [afterBlanks?]
      | cons d t =>
        cases hd : isBlank d with
        | false => simp [afterBlanks?, hd]
        | true => simp [afterBlanks?, hd, hnext d t hd]

/-- A given identifier stands in front of blanks exactly when it is the identifier read there. -/
theorem after?_bind_afterBlanks? {id : Text} (hid : IsIdentifier id) (t : Text) :
    (Text.after? id t).bind afterBlanks? =
      (identifier? t).bind fun (i, u) => if i = id then afterBlanks? u else none := by
  refine Option.ext fun r => ?_
  simp only [Option.bind_eq_some_iff, Text.after?_eq_some_iff, Prod.exists, identifier?_eq_some_iff,
    Option.ite_none_right_eq_some]
  constructor
  · intro h
    obtain ⟨u, rfl, hu⟩ := h
    obtain ⟨s, hs, rfl, -⟩ := afterBlanks?_eq_some_iff.1 hu
    exact ⟨id, s ++ r, ⟨hid, rfl, IsBlankRun.startsNo_isWord hs r⟩, rfl, hu⟩
  · intro h
    obtain ⟨i, u, ⟨-, rfl, -⟩, rfl, hu⟩ := h
    exact ⟨u, rfl, hu⟩

/-- **The two searches agree**: a block of `id` opens exactly where a declaration of `id` stands
that a brace follows. -/
theorem openBlock?_eq {id : Text} (hid : IsIdentifier id) (t : Text) :
    openBlock? id t = (header? t).bind fun (d, rest) =>
      if d.id = id then afterBrace? false rest else none := by
  have hnext : ∀ c r, isBlank c = true → (Text.after? id (c :: r)).bind afterBlanks? = none := by
    intro c r hc
    have hstart := hid.startsNo_isBlank []
    rw [List.append_nil] at hstart
    cases hid' : id with
    | nil => exact absurd hid' hid.1
    | cons a id =>
      have hac : a ≠ c := by
        intro h
        subst h
        rw [hid', Text.startsNo_cons, hc] at hstart
        exact absurd hstart (by decide)
      simp [Text.after?, hac]
  have hskip : ∀ u, afterBlanksThen? (fun t => (Text.after? id t).bind afterBlanks?) u =
      (afterBlanks? u).bind fun t => (Text.after? id t).bind afterBlanks? :=
    afterBlanksThen?_eq _ hnext
  rw [openBlock?]
  simp only [Option.bind_eq_bind, hskip]
  simp only [header?, Option.bind_eq_bind, Option.pure_def, Option.bind_assoc, Option.bind_some,
    after?_bind_afterBlanks? hid]
  refine Option.bind_congr fun a _ => Option.bind_congr fun b _ => Option.bind_congr fun c _ => ?_
  split
  · rfl
  · simp

theorem openBlock?_of_header {id t rest : Text} {d : Declaration} (hid : IsIdentifier id)
    (h : header? t = some (d, rest)) :
    openBlock? id t = if d.id = id then afterBrace? false rest else none := by
  rw [openBlock?_eq hid, h]
  rfl

end Groundplan.Declaration

import Groundplan.Proofs.Inference.Independence

/-!
# The service that a body names

The service of a resource is the value of a tag in its body.

**Tags** (`IsTag`). A tag is its key, a quote or none, a colon with or without blanks around it, and
a value between quotes (`Quoted`). Reading a tag decides this grammar
(`valueAfterKey?_eq_some_iff`).

**The quote in front.** The search tries the key behind a quote before it tries it at the quote,
which matters only for keys that start with a quote. Where both ways lead to a tag, it has the same
value, so the quote in front of a key can be left out of account (`findFirst?_tag?`).

**The place.** The search starts over at every `tags:`. What stands behind a later one stands behind
the first one too, so only the first one counts (`serviceTag?_eq`), and behind it the earliest tag
with the key (`IsService`).

Main result: `infer_service`.
-/

namespace Groundplan

namespace Body

open Block (isQuote)
open Text (Earliest StartsNo)

variable {α : Type} {f : Text → Option α} {a : α} {t u value value' key body : Text} {c : CodePoint}

/-! ## Searching place by place -/

theorem findFirst?_cons (f : Text → Option α) (c : CodePoint) (t : Text) :
    findFirst? f (c :: t) = (f (c :: t)).or (findFirst? f t) := by
  rw [findFirst?, Option.orElse_eq_orElse, Option.orElse_eq_or]

/-- What is not found in a text is not found in an end of it. -/
theorem findFirst?_eq_none_of_suffix (h : findFirst? f t = none) (hu : u <:+ t) :
    findFirst? f u = none := by
  induction t with
  | nil =>
    rw [List.suffix_nil.1 hu]
    exact h
  | cons c t ih =>
    rcases List.suffix_cons_iff.1 hu with rfl | hu
    · exact h
    · rw [findFirst?_cons, Option.or_eq_none_iff] at h
      exact ih h.2 hu

/-- The search stops at the earliest place. -/
theorem findFirst?_eq_some_iff : findFirst? f t = some a ↔
    ∃ before rest, Earliest (fun u => ∃ b, f u = some b) before rest t ∧ f rest = some a := by
  induction t with
  | nil =>
    simp only [Text.earliest_nil_iff, findFirst?]
    constructor
    · intro h
      exact ⟨[], [], ⟨rfl, rfl, a, h⟩, h⟩
    · rintro ⟨-, -, ⟨rfl, rfl, -⟩, h⟩
      exact h
  | cons c t ih =>
    rw [findFirst?_cons, Option.or_eq_some_iff, ih]
    simp only [Text.earliest_cons_iff]
    constructor
    · rintro (h | ⟨hnone, before, rest, hearliest, h⟩)
      · exact ⟨[], c :: t, .inl ⟨rfl, rfl, a, h⟩, h⟩
      · exact ⟨c :: before, rest, .inr ⟨by simp [hnone], before, rfl, hearliest⟩, h⟩
    · rintro ⟨-, rest, ⟨-, rfl, -⟩ | ⟨hnot, before, rfl, hearliest⟩, h⟩
      · exact .inl h
      · refine .inr ⟨Option.eq_none_iff_forall_ne_some.2 fun b hb => hnot ⟨b, hb⟩, ?_⟩
        exact ⟨before, rest, hearliest, h⟩

/-- What is searched behind every occurrence of `p` is searched behind the first one. -/
theorem findFirst?_after? (p : Text) (g : Text → Option α) (t : Text) :
    findFirst? (fun u => (Text.after? p u).bind (findFirst? g)) t =
      (Text.breakOn p t).bind fun (_, rest) => findFirst? g rest := by
  induction t with
  | nil => cases h : Text.after? p [] <;> simp [findFirst?, Text.breakOn, h]
  | cons c t ih =>
    rw [findFirst?_cons, ih, Text.breakOn]
    cases hstart : Text.after? p (c :: t) with
    | none => cases Text.breakOn p t <;> rfl
    | some rest =>
      show (findFirst? g rest).or _ = findFirst? g rest
      cases hrest : findFirst? g rest with
      | some a => rfl
      | none =>
        -- A later occurrence ends further behind, so it leaves an end of `rest`.
        rw [Option.none_or]
        cases hbreak : Text.breakOn p t with
        | none => rfl
        | some found =>
          obtain ⟨before, rest'⟩ := found
          refine findFirst?_eq_none_of_suffix hrest ?_
          have hrest' : p ++ rest' <:+ c :: t :=
            ⟨c :: before, by simp [Text.eq_append_of_breakOn hbreak]⟩
          have hlater : rest' <:+ c :: t := (List.suffix_append p rest').trans hrest'
          refine List.suffix_of_suffix_length_le hlater (Text.suffix_of_after? hstart) ?_
          have hlength := hrest'.length_le
          have hlength' := Text.length_after? hstart
          rw [List.length_append] at hlength
          omega

/-! ## Tags -/

/-- The text starts with the value between quotes, perhaps after blanks. The value is not empty and
holds no quote. -/
def Quoted (value t : Text) : Prop :=
  ∃ gap opening closing rest, t = gap ++ opening :: (value ++ closing :: rest) ∧
    (∀ c ∈ gap, isBlank c = true) ∧ isQuote opening = true ∧ isQuote closing = true ∧
    value ≠ [] ∧ ∀ c ∈ value, isQuote c = false

/-- The text starts with a tag: the key, a quote or none, a colon, perhaps after blanks, and the
value between quotes. -/
def IsTag (key value t : Text) : Prop :=
  ∃ quote gap rest, t = key ++ (quote ++ (gap ++ ↑ ':' :: rest)) ∧
    (quote = [] ∨ ∃ q, quote = [q] ∧ isQuote q = true) ∧ (∀ c ∈ gap, isBlank c = true) ∧
    Quoted value rest

theorem isBlank_eq_false_of_isQuote (h : isQuote c = true) : isBlank c = false := by
  simp only [isQuote, Bool.or_eq_true, beq_iff_eq] at h
  rcases h with rfl | rfl
  · decide
  · decide

theorem isQuote_eq_false_of_isBlank (h : isBlank c = true) : isQuote c = false := by
  rw [← Bool.not_eq_true]
  intro hquote
  rw [isBlank_eq_false_of_isQuote hquote] at h
  exact Bool.false_ne_true h

theorem untilQuote?_eq_some_iff : untilQuote? t = some value ↔
    ∃ closing rest, t = value ++ closing :: rest ∧ isQuote closing = true ∧ value ≠ [] ∧
      ∀ c ∈ value, isQuote c = false := by
  unfold untilQuote?
  constructor
  · intro h
    obtain ⟨hfilled, hvalue⟩ := Option.ite_none_left_eq_some.1 h
    obtain rfl := Option.some.inj hvalue
    simp only [Bool.or_eq_true, List.isEmpty_iff, decide_eq_true_eq, not_or] at hfilled
    obtain ⟨hcut, hfree, hstarts⟩ :=
      (Text.span_iff (p := fun c => !isQuote c) (t := t)).1 ⟨rfl, rfl⟩
    cases hrest : t.dropWhile fun c => !isQuote c with
    | nil =>
      rw [hrest, List.append_nil] at hcut
      exact absurd (congrArg List.length hcut).symm hfilled.2
    | cons closing rest =>
      rw [hrest, Text.startsNo_cons, Bool.not_eq_false'] at hstarts
      rw [hrest] at hcut
      exact ⟨closing, rest, hcut, hstarts, hfilled.1, fun c hc => by simpa using hfree c hc⟩
  · rintro ⟨closing, rest, rfl, hclosing, hne, hfree⟩
    have hvalue : (value ++ closing :: rest).takeWhile (fun c => !isQuote c) = value :=
      Text.takeWhile_append_startsNo (fun c hc => by simp [hfree c hc])
        (Text.startsNo_cons.2 (by simp [hclosing]))
    simp [hvalue, hne]

theorem quotedValue?_eq_some_iff : quotedValue? t = some value ↔ Quoted value t := by
  unfold quotedValue?
  constructor
  · intro h
    obtain ⟨-, gap, ht, hgap⟩ := Text.trimStart_spec t
    split at h
    · next opening r heq =>
      obtain ⟨hopening, h⟩ := Option.ite_none_right_eq_some.1 h
      obtain ⟨closing, rest, rfl, hclosing, hne, hfree⟩ := untilQuote?_eq_some_iff.1 h
      rw [heq] at ht
      exact ⟨gap, opening, closing, rest, ht, hgap, hopening, hclosing, hne, hfree⟩
    · cases h
  · rintro ⟨gap, opening, closing, rest, rfl, hgap, hopening, hclosing, hne, hfree⟩
    have htrim : Text.trimStart (gap ++ opening :: (value ++ closing :: rest)) =
        opening :: (value ++ closing :: rest) :=
      Text.dropWhile_append_startsNo hgap
        (Text.startsNo_cons.2 (isBlank_eq_false_of_isQuote hopening))
    rw [htrim]
    exact (if_pos hopening).trans
      (untilQuote?_eq_some_iff.2 ⟨closing, rest, rfl, hclosing, hne, hfree⟩)

theorem skipQuote_eq_self (h : StartsNo isQuote t) : skipQuote t = t := by
  cases t with
  | nil => rfl
  | cons c t => rw [skipQuote, Text.startsNo_cons.1 h, if_neg Bool.false_ne_true]

theorem skipQuote_cons (h : isQuote c = true) (t : Text) : skipQuote (c :: t) = t := by
  rw [skipQuote, if_pos h]

/-- What is skipped is a quote or nothing. -/
theorem exists_quote_append_skipQuote (t : Text) :
    ∃ quote, t = quote ++ skipQuote t ∧ (quote = [] ∨ ∃ q, quote = [q] ∧ isQuote q = true) := by
  cases t with
  | nil => exact ⟨[], rfl, .inl rfl⟩
  | cons c t =>
    cases hc : isQuote c with
    | true => exact ⟨[c], by rw [skipQuote_cons hc]; rfl, .inr ⟨c, rfl, hc⟩⟩
    | false => exact ⟨[], by rw [skipQuote_eq_self (Text.startsNo_cons.2 hc)]; rfl, .inl rfl⟩

/-- A colon, perhaps after blanks, is no quote. -/
theorem startsNo_isQuote_of_after? {rest : Text}
    (h : Text.after? ":" (Text.trimStart t) = some rest) : StartsNo isQuote t := by
  obtain ⟨-, gap, ht, hgap⟩ := Text.trimStart_spec t
  rw [Text.after?_eq_some_iff.1 h] at ht
  rw [ht]
  cases gap with
  | nil => exact Text.startsNo_cons.2 (by decide)
  | cons c gap => exact Text.startsNo_cons.2 (isQuote_eq_false_of_isBlank (hgap c (by simp)))

theorem trimStart_append_colon {gap : Text} (hgap : ∀ c ∈ gap, isBlank c = true) (rest : Text) :
    Text.trimStart (gap ++ ↑ ':' :: rest) = ↑ ':' :: rest :=
  Text.dropWhile_append_startsNo hgap (Text.startsNo_cons.2 (by decide))

/-- **Reading a tag decides the grammar of tags.** -/
theorem valueAfterKey?_eq_some_iff : valueAfterKey? key t = some value ↔ IsTag key value t := by
  constructor
  · intro h
    obtain ⟨behindKey, hkey, h⟩ := Option.bind_eq_some_iff.1 h
    obtain ⟨rest, hcolon, h⟩ := Option.bind_eq_some_iff.1 h
    obtain ⟨quote, hquote, hone⟩ := exists_quote_append_skipQuote behindKey
    obtain ⟨-, gap, hgap, hblank⟩ := Text.trimStart_spec (skipQuote behindKey)
    rw [Text.after?_eq_some_iff.1 hcolon] at hgap
    refine ⟨quote, gap, rest, ?_, hone, hblank, quotedValue?_eq_some_iff.1 h⟩
    rw [Text.after?_eq_some_iff.1 hkey, hquote, hgap]
    rfl
  · rintro ⟨quote, gap, rest, rfl, hone, hblank, hvalue⟩
    have hcolon : Text.after? ":" (Text.trimStart (gap ++ ↑ ':' :: rest)) = some rest := by
      rw [trimStart_append_colon hblank]
      rfl
    have hskip : skipQuote (quote ++ (gap ++ ↑ ':' :: rest)) = gap ++ ↑ ':' :: rest := by
      rcases hone with rfl | ⟨q, rfl, hq⟩
      · exact skipQuote_eq_self (startsNo_isQuote_of_after? hcolon)
      · exact skipQuote_cons hq _
    refine Option.bind_eq_some_iff.2 ⟨_, Text.after?_append key _, ?_⟩
    rw [hskip, hcolon]
    exact quotedValue?_eq_some_iff.2 hvalue

/-! ## The quote in front -/

/-- A key that starts a text and starts it again one character later is that character repeated. -/
theorem eq_cons_of_cons_append_eq {key r r' : Text} (h : c :: (key ++ r) = key ++ r') :
    r' = c :: r := by
  induction key with
  | nil => exact h.symm
  | cons d key ih =>
    obtain ⟨rfl, h⟩ := List.cons.inj h
    exact ih h

/-- With the quote or without it, a tag has the same value. -/
theorem value_eq_of_isQuote (hc : isQuote c = true) (h : valueAfterKey? key t = some value)
    (h' : valueAfterKey? key (c :: t) = some value') : value = value' := by
  obtain ⟨r, hr, h⟩ := Option.bind_eq_some_iff.1 h
  obtain ⟨r', hr', h'⟩ := Option.bind_eq_some_iff.1 h'
  rw [Text.after?_eq_some_iff] at hr hr'
  obtain rfl : r' = c :: r := eq_cons_of_cons_append_eq (hr ▸ hr')
  rw [skipQuote_cons hc] at h'
  -- The colon comes next, so there is no quote to skip in front of it.
  obtain ⟨rest, hcolon, -⟩ := Option.bind_eq_some_iff.1 h'
  rw [skipQuote_eq_self (startsNo_isQuote_of_after? hcolon)] at h
  exact Option.some.inj (h.symm.trans h')

theorem tag?_nil (key : Text) : tag? key [] = valueAfterKey? key [] := rfl

theorem tag?_cons (key : Text) (c : CodePoint) (t : Text) :
    tag? key (c :: t) =
      (if isQuote c then valueAfterKey? key t else none).or (valueAfterKey? key (c :: t)) := by
  rw [tag?, Option.orElse_eq_orElse, Option.orElse_eq_or]

/-- **The quote in front of a key can be left out of account.** -/
theorem findFirst?_tag? (key t : Text) :
    findFirst? (tag? key) t = findFirst? (valueAfterKey? key) t := by
  induction t with
  | nil => exact tag?_nil key
  | cons c t ih =>
    rw [findFirst?_cons, findFirst?_cons, ih, tag?_cons]
    split
    · next hc =>
      cases hbehind : valueAfterKey? key t with
      | none => rw [Option.none_or]
      | some a =>
        have hnext : findFirst? (valueAfterKey? key) t = some a := by
          cases t with
          | nil => exact hbehind
          | cons d t => rw [findFirst?_cons, hbehind, Option.some_or]
        cases hat : valueAfterKey? key (c :: t) with
        | none => rw [Option.or_none, Option.some_or, Option.none_or, hnext]
        | some b => rw [value_eq_of_isQuote hc hbehind hat, Option.some_or, Option.some_or]
    · rw [Option.none_or]

/-! ## The place -/

/-- What follows the first occurrence of this is searched. -/
def tagsMark : Text := "tags:"

/-- Behind the first `tags:` of the body, the earliest tag with the key has the value. -/
def IsService (key value body : Text) : Prop :=
  ∃ front rest before tag, Earliest (fun u => tagsMark <+: u) front (tagsMark ++ rest) body ∧
    Earliest (fun u => ∃ v, IsTag key v u) before tag rest ∧ IsTag key value tag

theorem serviceTag?_eq (key body : Text) :
    serviceTag? key body =
      (Text.breakOn tagsMark body).bind fun (_, rest) => findFirst? (valueAfterKey? key) rest := by
  simp only [← findFirst?_tag?]
  exact findFirst?_after? tagsMark (tag? key) body

theorem serviceTag?_eq_some_iff : serviceTag? key body = some value ↔ IsService key value body := by
  simp only [serviceTag?_eq, Option.bind_eq_some_iff, Prod.exists, Text.breakOn_eq_some_iff,
    findFirst?_eq_some_iff, valueAfterKey?_eq_some_iff]
  constructor
  · rintro ⟨front, rest, hmark, before, tag, htag, hvalue⟩
    exact ⟨front, rest, before, tag, hmark, htag, hvalue⟩
  · rintro ⟨front, rest, before, tag, hmark, htag, hvalue⟩
    exact ⟨front, rest, hmark, before, tag, htag, hvalue⟩

instance (key value body : Text) : Decidable (IsService key value body) :=
  decidable_of_iff _ serviceTag?_eq_some_iff

end Body

namespace ResourceSet

/-- **The service is the value of the first tag behind the first `tags:`.** Whatever the key is, a
body has at most one service, that of the earliest tag with the key behind its first `tags:`.
Inference gives it to every resource with this body. If there is none, the resource keeps the
service that it has. -/
theorem infer_service (s : Settings) (body : Text) :
    ∃ service : Option Text,
      (∀ value, service = some value ↔ Body.IsService s.serviceTagKey value body) ∧
      ∀ (rs : ResourceSet) key r, rs.get? key = some r → r.body = some body →
        ∃ r', (rs.infer s).get? key = some r' ∧
          r'.properties.get? Resource.serviceProperty =
            service.or (r.properties.get? Resource.serviceProperty) := by
  refine ⟨Body.serviceTag? s.serviceTagKey body, fun value => Body.serviceTag?_eq_some_iff, ?_⟩
  intro rs key r hr hbody
  obtain ⟨a, ha, hreceives⟩ := Resource.exists_adds s rs.keys r
  rw [hbody] at ha
  obtain ⟨mentioned, plan, rfl, -⟩ := ha
  exact ⟨r.infer s rs.keys, by rw [get?_infer, hr, Option.map_some], hreceives.service⟩

/-- Settings with a key that has a quote and signs of patterns in it. -/
def oddKey : Settings := { ({} : Settings) with serviceTagKey := "[svc'+" }

/-- A body with a tag without a value, one with a value, and another `tags:`. -/
def taggedBody : Text :=
  "tags: \x7b\n  '[svc'+': ''\n  \"[svc'+\" : 'web'\n\x7d\ntags: [svc'+: 'late'"

/-- A resource with that body and a service. -/
def taggedSite : ResourceSet where
  entries := [("site", {
    id := "site"
    type := "Web"
    properties := OrderedMap.ofList [("service", "old")]
    body := some taggedBody })]
  distinct := by decide

theorem infer_service_tagged :
    Body.IsService oddKey.serviceTagKey "web" taggedBody ∧
      (taggedSite.get? "site").bind Resource.body = some taggedBody ∧
      ((taggedSite.get? "site").map Resource.service?) = some (some ("old" : Text)) ∧
      ((taggedSite.infer oddKey).get? "site").map Resource.service? =
        some (some ("web" : Text)) := by
  have hservice : Body.IsService oddKey.serviceTagKey "web" taggedBody := by decide
  obtain ⟨service, hvalue, hall⟩ := infer_service oddKey taggedBody
  obtain ⟨r', hr', hproperty⟩ := hall taggedSite "site" _ rfl rfl
  rw [(hvalue _).2 hservice, Option.some_or] at hproperty
  refine ⟨hservice, rfl, rfl, ?_⟩
  rw [hr', Option.map_some, Resource.service?, Resource.property?, hproperty]
  rfl

end ResourceSet

end Groundplan

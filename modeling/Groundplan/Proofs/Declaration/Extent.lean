import Groundplan.Proofs.Block.Reading
import Groundplan.Proofs.Declaration.Origin

/-!
# How far a body extends

The body of a resource is the text behind one brace. It ends at the closing brace of the block, and
at the latest where the next line begins with the word `resource`.

**Lines** (`NextLine`). The end of a block is the first place from which a line declares
(`nextLine_nextOffset`), and the body is the block that is read up to there, or what stands before
the first closing brace (`bodyAt_of_body?`).

**Sources that are laid out in lines** (`KeywordsLead`). Where every word `resource` leads its line
and no type goes over a line end, no declaration opens inside another one
(`mem_allFrom_of_standsAt`) or in front of its brace (`brace_before_keyword`). So every block ends
before the next keyword, and the bodies of different resources do not overlap.

Main result: `bodies_stay_apart`.
-/

namespace Groundplan

namespace Declaration

open Text (IsWord IsBlankRun StartsNo)

variable {id t u rest before block : Text} {w : Bool} {c : CodePoint} {d : Declaration}

/-! ## Lines that declare -/

/-- At the offset `p` starts a line that begins, after indentation, with the word `resource` and a
blank. -/
def DeclaresLine (t : Text) (p : Nat) : Prop :=
  (p = 0 ∨ EndsLine (t.take p)) ∧ startsLine (t.drop p) = true

/-- The first line that declares, from the offset `start` on, starts at the offset `finish`; this is
the end of the text if there is none. -/
structure NextLine (t : Text) (start finish : Nat) : Prop where
  start_le : start ≤ finish
  le_length : finish ≤ t.length
  declares : finish < t.length → DeclaresLine t finish
  first : ∀ p, start ≤ p → p < finish → ¬DeclaresLine t p

theorem declaresLine_length_iff (before t : Text) :
    DeclaresLine (before ++ t) before.length ↔
      (before = [] ∨ EndsLine before) ∧ startsLine t = true := by
  rw [DeclaresLine, List.take_left, List.drop_left, List.length_eq_zero_iff]

theorem endsLine_append_singleton : EndsLine (before ++ [c]) ↔ c = '\n' := by
  simp [EndsLine]

/-- The text before the next line that declares ends where that line starts. -/
theorem nextLine_untilDeclaration {lineStart : Bool} (before t : Text)
    (h : lineStart = true ↔ before = [] ∨ EndsLine before) :
    NextLine (before ++ t) before.length
      (before.length + (untilDeclaration lineStart t).length) := by
  induction t generalizing before lineStart with
  | nil =>
    refine ⟨by simp [untilDeclaration], by simp [untilDeclaration], fun hlt => ?_, ?_⟩
    · simp [untilDeclaration] at hlt
    · intro p hp hlt
      rw [untilDeclaration, List.length_nil] at hlt
      omega
  | cons c t ih =>
    rw [untilDeclaration]
    split
    · next hline =>
      rw [Bool.and_eq_true, h] at hline
      refine ⟨by simp, by simp, fun _ => (declaresLine_length_iff _ _).2 hline, ?_⟩
      intro p hp hlt
      rw [List.length_nil] at hlt
      omega
    · next hline =>
      rw [Bool.and_eq_true, h] at hline
      have hnext : (c == '\n') = true ↔ before ++ [c] = [] ∨ EndsLine (before ++ [c]) := by
        simp [endsLine_append_singleton]
      obtain ⟨hstart, hlength, hdeclares, hfirst⟩ := ih (before ++ [c]) hnext
      simp only [List.append_assoc, List.singleton_append, List.length_append,
        List.length_singleton] at hstart hlength hdeclares hfirst
      rw [List.length_cons, Nat.add_comm _ 1, ← Nat.add_assoc]
      refine ⟨by omega, by simpa using hlength, fun hlt => hdeclares (by simpa using hlt), ?_⟩
      intro p hp hlt
      rcases Nat.eq_or_lt_of_le hp with rfl | hp
      · exact fun hdeclares => hline ((declaresLine_length_iff _ _).1 hdeclares)
      · exact hfirst p hp hlt

/-- The offset of the next line is where it starts. -/
theorem nextLine_nextOffset (t : Text) (start : Int) :
    NextLine t (min (start + 1).toNat t.length) (nextOffset t start) := by
  have hle : min (start + 1).toNat t.length ≤ t.length := Nat.min_le_right _ _
  rw [nextOffset]
  generalize min (start + 1).toNat t.length = offset at hle ⊢
  have hlength : (t.take offset).length = offset := by rw [List.length_take, Nat.min_eq_left hle]
  have hline : (decide (offset = 0) || decide (t[offset - 1]? = some ↑ '\n')) = true ↔
      t.take offset = [] ∨ EndsLine (t.take offset) := by
    rw [Bool.or_eq_true, decide_eq_true_eq, decide_eq_true_eq, ← List.length_eq_zero_iff, hlength]
    by_cases hzero : offset = 0
    · simp [hzero]
    · rw [EndsLine, List.getLast?_eq_getElem?, hlength, List.getElem?_take_of_lt (by omega)]
  have hnext := nextLine_untilDeclaration (t.take offset) (t.drop offset) hline
  rwa [List.take_append_drop, hlength] at hnext

theorem untilDeclaration_prefix (lineStart : Bool) (t : Text) :
    untilDeclaration lineStart t <+: t := by
  induction t generalizing lineStart with
  | nil => exact List.prefix_rfl
  | cons c t ih =>
    rw [untilDeclaration]
    split
    · exact List.nil_prefix
    · exact List.cons_prefix_cons.2 ⟨rfl, ih _⟩

/-! ## Bodies -/

/-- The offset of the brace in front of the block of `id`. -/
def brace? (source id : Text) : Option Nat :=
  (firstBlockFrom? id false source).map fun block => source.length - (block.length + 1)

/-- The text `b` is the body behind the brace at the offset `o`. It is read up to the next line that
declares, as a block or, if no block closes there, up to the first closing brace. -/
structure BodyAt (t : Text) (o : Nat) (b : Text) : Prop where
  opens : t[o]? = some ↑ '\x7b'
  slice : (t.drop (o + 1)).take b.length = b
  inside : ∀ p, o < p → p < o + 1 + b.length → ¬DeclaresLine t p
  read : ∃ finish, NextLine t (o + 1) finish ∧ o + 1 + b.length ≤ finish ∧
    (Block.bodyBetween? t o finish = some b ∨
      Block.bodyBetween? t o finish = none ∧
        b = ((t.take finish).drop (o + 1)).takeWhile (· != ↑ '\x7d'))

/-- A body stands inside its segment. -/
theorem blockBody_prefix (block : Text) : blockBody block <+: untilDeclaration false block := by
  rw [blockBody]
  cases hread : Block.body? (↑ '\x7b' :: untilDeclaration false block) with
  | none => exact List.takeWhile_prefix _
  | some b =>
    obtain ⟨-, more, hmore⟩ := Block.body?_eq_some_iff.1 hread
    exact ⟨↑ '\x7d' :: more, hmore.symm⟩

theorem bodyAt_blockBody (front block : Text) :
    BodyAt (front ++ ↑ '\x7b' :: block) front.length (blockBody block) := by
  generalize ht : front ++ ↑ '\x7b' :: block = t
  generalize hsegment : untilDeclaration false block = segment
  have hcut : t = (front ++ (['\x7b'] : Text)) ++ block := by simp [← ht]
  have hlength : (front ++ (['\x7b'] : Text)).length = front.length + 1 := by simp
  have hnext : NextLine t (front.length + 1) (front.length + 1 + segment.length) := by
    rw [hcut, ← hlength, ← hsegment]
    exact nextLine_untilDeclaration _ _ (by simp [endsLine_append_singleton])
  obtain ⟨behind, hbehind⟩ := hsegment ▸ untilDeclaration_prefix false block
  have hpart : (t.take (front.length + 1 + segment.length)).drop front.length =
      ↑ '\x7b' :: segment := by
    rw [← ht, ← hbehind]
    simp [List.drop_take, Nat.add_assoc, Nat.add_comm 1]
  have hbody := hsegment ▸ blockBody_prefix block
  have hle := hbody.length_le
  refine ⟨by simp [← ht], ?_, fun p hp hlt => hnext.first p hp (by omega), _, hnext, by omega, ?_⟩
  · rw [hcut, ← hlength, List.drop_left]
    exact (List.prefix_iff_eq_take.1 (hbody.trans ⟨behind, hbehind⟩)).symm
  · rw [Block.bodyBetween?, ← List.drop_drop, hpart, List.drop_one, List.tail_cons, blockBody,
      hsegment]
    cases Block.body? (↑ '\x7b' :: segment) with
    | none => exact .inr ⟨rfl, rfl⟩
    | some b => exact .inl rfl

/-- The body of an identifier stands behind the brace of its block. -/
theorem bodyAt_of_body? {b : Text} (h : body? t id = some b) :
    ∃ o, brace? t id = some o ∧ BodyAt t o b := by
  obtain ⟨block, hblock, rfl⟩ := Option.map_eq_some_iff.1 h
  obtain ⟨front, rfl⟩ := exists_brace_of_firstBlockFrom? hblock
  refine ⟨front.length, ?_, bodyAt_blockBody front block⟩
  rw [brace?, hblock, Option.map_some, List.length_append, List.length_cons, Nat.add_sub_cancel]

/-! ## Sources that are laid out in lines -/

/-- Only spaces and tabs stand behind the last newline of the text. -/
def EndsIndented (t : Text) : Prop := ∀ c ∈ t.reverse.takeWhile (· != ↑ '\n'), isIndent c = true

/-- Every word `resource` with a blank behind it is the first thing on its line. -/
def KeywordsLead (t : Text) : Prop :=
  ∀ before u, t = before ++ u → wordGoesOn false before = false → startsWord u = true →
    EndsIndented before

instance (t : Text) : Decidable (EndsIndented t) := List.decidableBAll _ _

theorem keywordsLead_iff : KeywordsLead t ↔ ∀ n < t.length + 1,
    wordGoesOn false (t.take n) = false → startsWord (t.drop n) = true →
      EndsIndented (t.take n) := by
  constructor
  · intro h n _
    exact h _ _ (List.take_append_drop n t).symm
  · rintro h before u rfl
    have hlength : before.length < (before ++ u).length + 1 := by
      rw [List.length_append]
      omega
    simpa using h before.length hlength

instance (t : Text) : Decidable (KeywordsLead t) := decidable_of_iff _ keywordsLead_iff.symm

/-- Behind a character that is no indentation a line end comes before the place. -/
theorem EndsIndented.exists_newline {a b : Text} (h : EndsIndented (a ++ c :: b))
    (hindent : isIndent c = false) (hc : c ≠ '\n') :
    ∃ b₁ s, b = b₁ ++ ↑ '\n' :: s ∧ ∀ x ∈ s, isIndent x = true := by
  by_cases hb : ↑ '\n' ∈ b.reverse
  · obtain ⟨s, r, hsplit, hs⟩ := List.eq_append_cons_of_mem hb
    have hbsplit : b = r.reverse ++ ↑ '\n' :: s.reverse := by
      rw [← List.reverse_reverse b, hsplit]
      simp
    refine ⟨r.reverse, s.reverse, hbsplit, fun x hx => h x ?_⟩
    have hne : ∀ y ∈ s, (y != '\n') = true := fun y hy => bne_iff_ne.2 fun heq => hs (heq ▸ hy)
    rw [List.reverse_append, List.reverse_cons, hsplit, List.append_assoc, List.append_assoc,
      List.takeWhile_append_of_pos hne]
    exact List.mem_append_left _ (List.mem_reverse.1 hx)
  · have hne : ∀ y ∈ b.reverse, (y != '\n') = true :=
      fun y hy => bne_iff_ne.2 fun heq => hb (heq ▸ hy)
    have hmem : c ∈ (a ++ c :: b).reverse.takeWhile (· != ↑ '\n') := by
      rw [List.reverse_append, List.reverse_cons, List.append_assoc,
        List.takeWhile_append_of_pos hne]
      simp [hc]
    rw [h c hmem] at hindent
    exact Bool.noConfusion hindent

theorem exists_cons_of_opens (h : Opens id rest u) : ∃ v, u = ↑ 'r' :: v := by
  obtain ⟨front, hu, -⟩ := h.exists_quiet
  exact ⟨_, hu⟩

/-- A declaration that opens inside another one opens inside its type. -/
theorem inside_type_of_opens {mid r : Text} (hd : Declares d rest (mid ++ u)) (hopen : Opens id r u)
    (hmid : mid ≠ []) (hword : wordGoesOn false mid = false) (hlength : rest.length < u.length) :
    ∃ front inside, mid = front ++ ↑ '\'' :: inside ∧ inside <+: d.type := by
  obtain ⟨front, ht, hquiet⟩ := hd.1.exists_quiet
  obtain ⟨v, rfl⟩ := exists_cons_of_opens hopen
  have hsome := opening?_eq_some_iff.2 hopen
  have hne : ∀ x : Text, ↑ '\'' :: x ≠ ↑ 'r' :: v := fun x h => by
    obtain ⟨h, -⟩ := List.cons.inj h
    exact absurd h (by decide)
  cases mid with
  | nil => exact absurd rfl hmid
  | cons c mid =>
    obtain ⟨rfl, htail⟩ := List.cons.inj ht
    rcases List.append_eq_append_iff.1 htail with ⟨a, rfl, hv⟩ | ⟨a, rfl, hv⟩
    · -- In front of the quote no declaration opens.
      cases a with
      | nil => exact absurd hv.symm (hne _)
      | cons e a =>
        rw [hv, hquiet.opening?_eq_none (List.cons_ne_nil _ _) hword] at hsome
        cases hsome
    · cases a with
      | nil => exact absurd hv (hne _)
      | cons e a =>
        obtain ⟨rfl, htype⟩ := List.cons.inj hv
        rcases List.append_eq_append_iff.1 htype with ⟨b, rfl, hb⟩ | ⟨b, hb, -⟩
        · cases b with
          | nil => exact absurd hb (hne _)
          | cons e b =>
            obtain ⟨-, rfl⟩ := List.cons.inj hb
            simp at hlength
            omega
        · exact ⟨↑ 'r' :: front, a, rfl, b, hb.symm⟩

theorem wordGoesOn_quote (a b : Text) : wordGoesOn w (a ++ ↑ '\'' :: b) = wordGoesOn false b := by
  rw [wordGoesOn_append]
  rfl

/-- In a source that is laid out in lines a declaration that opens behind another one opens behind
its type. -/
theorem KeywordsLead.behind_type {front mid r : Text} (hlead : KeywordsLead (front ++ (mid ++ u)))
    (hd : Declares d rest (mid ++ u)) (htype : ↑ '\n' ∉ d.type) (hopen : Opens id r u)
    (hmid : mid ≠ []) (hfront : wordGoesOn false front = false)
    (hword : wordGoesOn false mid = false) :
    ∃ passed m : Text, mid = passed ++ ↑ '\'' :: m ∧ rest = m ++ u := by
  have hlength : u.length ≤ rest.length := by
    refine Nat.le_of_not_lt fun hlt => ?_
    obtain ⟨before, inside, rfl, hinside⟩ := inside_type_of_opens hd hopen hmid hword hlt
    have hplace : wordGoesOn false (front ++ (before ++ ↑ '\'' :: inside)) = false := by
      rw [wordGoesOn_append, hfront, hword]
    have hindented := hlead _ u (by simp) hplace (startsWord_of_opens hopen)
    rw [← List.append_assoc] at hindented
    obtain ⟨b, s, rfl, -⟩ := hindented.exists_newline (by decide) (by decide)
    exact htype (hinside.subset (by simp))
  obtain ⟨passed, hpassed⟩ := hd.exists_before
  have hcut : mid ++ u = (↑ 'r' :: passed ++ (['\''] : Text)) ++ rest := by simp [hpassed]
  obtain ⟨m, rfl⟩ := List.suffix_of_suffix_length_le ⟨mid, rfl⟩ ⟨_, hcut.symm⟩ hlength
  rw [← List.append_assoc] at hcut
  exact ⟨↑ 'r' :: passed, m, by simpa using List.append_cancel_right hcut, rfl⟩

/-- So every declaration that stands somewhere is found. -/
theorem mem_allFrom_of_standsAt {front : Text} (hlead : KeywordsLead (front ++ t))
    (hfront : wordGoesOn false front = w) (htypes : ∀ e ∈ allFrom w 0 t, ↑ '\n' ∉ e.type)
    (h : StandsAt w before d rest t) : d ∈ allFrom w 0 t := by
  induction w, t using scan_induction generalizing front before with
  | nil w =>
    obtain ⟨u, hu, -, hd⟩ := h
    obtain ⟨-, rfl⟩ := List.append_eq_nil_iff.1 hu.symm
    obtain ⟨v, hv⟩ := exists_cons_of_opens hd.1
    cases hv
  | found t e rest' ht ih =>
    obtain ⟨u, rfl, hword, hd⟩ := h
    have he := header?_eq_some_iff.1 ht
    rw [allFrom_of_header ht] at htypes ⊢
    by_cases hbefore : before = []
    · subst hbefore
      have hsame := ht.symm.trans (header?_eq_some_iff.2 hd)
      obtain ⟨rfl, -⟩ := Prod.mk.inj (Option.some.inj hsame)
      exact List.mem_cons_self
    · obtain ⟨passed, m, rfl, rfl⟩ := hlead.behind_type he (htypes e List.mem_cons_self) hd.1
        hbefore hfront hword
      rw [wordGoesOn_quote] at hword
      have hfront' : wordGoesOn false (front ++ (passed ++ (['\''] : Text))) = false := by
        rw [← List.append_assoc, wordGoesOn_quote]
        rfl
      exact List.mem_cons_of_mem e (ih (by simpa using hlead) hfront'
        (fun e' h' => htypes e' (List.mem_cons_of_mem e h')) ⟨u, rfl, hword, hd⟩)
  | next w c t hnone ih =>
    obtain ⟨u, hu, hword, hd⟩ := h
    rw [allFrom_cons_of_none hnone] at htypes ⊢
    cases before with
    | nil =>
      rw [List.nil_append] at hu
      subst hu
      have hsome := header?_eq_some_iff.2 hd
      rw [hnone hword] at hsome
      cases hsome
    | cons b before =>
      obtain ⟨rfl, rfl⟩ := List.cons.inj hu
      have hlead' : KeywordsLead (front ++ [c] ++ (before ++ u)) := by simpa using hlead
      have hfront' : wordGoesOn false (front ++ [c]) = isWord c := wordGoesOn_append false front [c]
      exact ih hlead' hfront' htypes ⟨u, rfl, hword, hd⟩

/-- The brace of a block stands in front of the next declaration. -/
theorem brace_before_keyword {before' rest' : Text} {d' : Declaration} (hlead : KeywordsLead t)
    (htypes : ∀ e ∈ all t, ↑ '\n' ∉ e.type) (h : OpensAt id false before block t)
    (h' : StandsAt false before' d' rest' t) (hlt : before.length < before'.length) :
    ∃ front m : Text, t = front ++ ↑ '\x7b' :: block ∧ before' = front ++ ↑ '\x7b' :: m := by
  obtain ⟨d, rest, hstands, -, gap, rfl, hgap, hquiet⟩ := h
  have hlead' : KeywordsLead ([] ++ t) := hlead
  have htype := htypes d (mem_allFrom_of_standsAt hlead' rfl htypes hstands)
  obtain ⟨u, rfl, hword, hd⟩ := hstands
  obtain ⟨u', ht, hword', hd'⟩ := h'
  rcases List.append_eq_append_iff.1 ht with ⟨mid, rfl, rfl⟩ | ⟨mid, rfl, -⟩
  · have hmid : mid ≠ [] := by
      rintro rfl
      simp at hlt
    rw [wordGoesOn_append, hword] at hword'
    obtain ⟨passed, m, rfl, hrest⟩ := hlead.behind_type hd htype hd'.1 hmid hword hword'
    rw [wordGoesOn_quote] at hword'
    have hstart := startsWord_of_opens hd'.1
    rcases List.append_eq_append_iff.1 hrest with ⟨m', rfl, hblock⟩ | ⟨gap', rfl, rfl⟩
    · cases m' with
      | nil =>
        rw [List.nil_append] at hblock
        rw [← hblock, startsWord_cons_of_ne (by decide)] at hstart
        cases hstart
      | cons e m' =>
        obtain ⟨rfl, rfl⟩ := List.cons.inj hblock
        exact ⟨before ++ (passed ++ ↑ '\'' :: gap), m', by simp, by simp⟩
    · -- The gap in front of the brace holds no word `resource`.
      rw [startsWord_append_cons openBrace_notMem_keyword (by decide)] at hstart
      exact absurd ⟨m, gap', rfl, hword', hstart⟩ hquiet
  · rw [List.length_append] at hlt
    omega

/-- A line that declares leads to every keyword behind a brace. -/
theorem NextLine.le_keyword {front m : Text} {finish : Nat}
    (hnext : NextLine (front ++ ↑ '\x7b' :: (m ++ u)) (front.length + 1) finish)
    (hlead : KeywordsLead (front ++ ↑ '\x7b' :: (m ++ u)))
    (hword : wordGoesOn false (front ++ ↑ '\x7b' :: m) = false) (hstart : startsWord u = true) :
    finish ≤ (front ++ ↑ '\x7b' :: m).length := by
  have hindented := hlead (front ++ ↑ '\x7b' :: m) u (by simp) hword hstart
  obtain ⟨m', s, rfl, hs⟩ := hindented.exists_newline (by decide) (by decide)
  have hline : startsLine (s ++ u) = true := by
    cases u with
    | nil => cases hstart
    | cons e u =>
      have he : isIndent e = false := by
        rw [← Bool.not_eq_true]
        intro he
        have hne : e ≠ 'r' := by
          rintro rfl
          exact absurd he (by decide)
        rw [startsWord_cons_of_ne hne] at hstart
        cases hstart
      rw [startsLine, Text.dropWhile_append_startsNo hs (Text.startsNo_cons.2 he)]
      exact hstart
  have hcut : front ++ ↑ '\x7b' :: (m' ++ ↑ '\n' :: s ++ u) =
      (front ++ ↑ '\x7b' :: m' ++ (['\n'] : Text)) ++ (s ++ u) := by simp
  have hdeclares : DeclaresLine (front ++ ↑ '\x7b' :: (m' ++ ↑ '\n' :: s ++ u))
      (front ++ ↑ '\x7b' :: m' ++ (['\n'] : Text)).length := by
    rw [hcut]
    exact (declaresLine_length_iff _ _).2 ⟨.inr (endsLine_append_singleton.2 rfl), hline⟩
  have hle : finish ≤ (front ++ ↑ '\x7b' :: m' ++ (['\n'] : Text)).length :=
    Nat.le_of_not_lt fun hlt => hnext.first _ (by simp) hlt hdeclares
  refine Nat.le_trans hle ?_
  simp

/-- A body ends in front of the next keyword. -/
theorem BodyAt.le_keyword {before' rest' b : Text} {d' : Declaration} {o : Nat}
    (hbody : BodyAt t o b) (hlead : KeywordsLead t) (htypes : ∀ e ∈ all t, ↑ '\n' ∉ e.type)
    (hid : IsIdentifier id) (hbrace : brace? t id = some o)
    (hfirst : FirstAt id false before block t)
    (h' : StandsAt false before' d' rest' t) (hlt : before.length < before'.length) :
    o + 1 + b.length ≤ before'.length := by
  obtain ⟨front, m, ht, rfl⟩ := brace_before_keyword hlead htypes hfirst.1 h' hlt
  obtain ⟨u, hu, hword, hd⟩ := h'
  obtain ⟨finish, hnext, hle, -⟩ := hbody.read
  have ho : o = front.length := by
    rw [brace?, (firstBlockFrom?_eq_some_iff hid).2 ⟨before, hfirst⟩, Option.map_some, ht] at hbrace
    simpa using (Option.some.inj hbrace).symm
  have hcut : t = front ++ ↑ '\x7b' :: (m ++ u) := by simp [hu]
  rw [ho, hcut] at hnext
  exact Nat.le_trans hle (hnext.le_keyword (hcut ▸ hlead) hword (startsWord_of_opens hd.1))

theorem FirstAt.length_le_brace {o : Nat} (hid : IsIdentifier id)
    (hfirst : FirstAt id false before block t) (hbrace : brace? t id = some o) :
    before.length ≤ o := by
  obtain ⟨u, rfl, -, hopen⟩ := (opensAt_iff hid).1 hfirst.1
  obtain ⟨gap, rfl⟩ := exists_brace_of_openBlock? hopen
  rw [brace?, (firstBlockFrom?_eq_some_iff hid).2 ⟨before, hfirst⟩, Option.map_some] at hbrace
  obtain rfl := Option.some.inj hbrace
  simp
  omega

end Declaration

/-! ## Extraction -/

namespace ResourceSet

open Declaration

/-- Extraction takes the text `b`, which stands behind the brace at the offset `o`, as the body of
`id`. -/
def Takes (t id : Text) (o : Nat) (b : Text) : Prop :=
  ((extract t).get? id).bind Resource.body = some b ∧ brace? t id = some o

instance (t id : Text) (o : Nat) (b : Text) : Decidable (Takes t id o b) :=
  inferInstanceAs (Decidable (_ ∧ _))

theorem Takes.exists_firstAt {t id b : Text} {o : Nat} (h : Takes t id o b) :
    IsIdentifier id ∧ brace? t id = some o ∧ BodyAt t o b ∧
      ∃ before block, FirstAt id false before block t := by
  obtain ⟨htaken, hbrace⟩ := h
  obtain ⟨r, hr, hbody⟩ := Option.bind_eq_some_iff.1 htaken
  rw [get?_extract, Option.map_eq_some_iff] at hr
  obtain ⟨d, hfind, rfl⟩ := hr
  have hid := isIdentifier_of_find?_gives hfind
  obtain ⟨o', hbrace', hat⟩ := bodyAt_of_body? hbody
  obtain rfl := Option.some.inj (hbrace'.symm.trans hbrace)
  obtain ⟨block, hblock, -⟩ := Option.map_eq_some_iff.1 hbody
  exact ⟨hid, hbrace, hat, (firstBlockFrom?_eq_some_iff hid).1 hblock |>.imp fun _ h => ⟨block, h⟩⟩

/-- **Bodies stay inside their own declaration.** The body of an identifier stands behind a brace,
holds no line that begins with the word `resource`, and is the block that is read up to the next
such line, or else the text up to the first closing brace. In a source where every word `resource`
leads its line and no type goes over a line end, the bodies of two resources do not overlap. -/
theorem bodies_stay_apart (t : Text) :
    (∀ id b, body? t id = some b → ∃ o, brace? t id = some o ∧ BodyAt t o b) ∧
      (KeywordsLead t → (∀ d ∈ Declaration.all t, ↑ '\n' ∉ d.type) →
        ∀ id id' o o' b b', id ≠ id' → Takes t id o b → Takes t id' o' b' →
          o + 1 + b.length ≤ o' ∨ o' + 1 + b'.length ≤ o) := by
  refine ⟨fun id b h => bodyAt_of_body? h, ?_⟩
  intro hlead htypes id id' o o' b b' hne htakes htakes'
  obtain ⟨hid, hbrace, hbody, before, block, hfirst⟩ := htakes.exists_firstAt
  obtain ⟨hid', hbrace', hbody', before', block', hfirst'⟩ := htakes'.exists_firstAt
  obtain ⟨d, rest, hstands, hd, -⟩ := hfirst.1
  obtain ⟨d', rest', hstands', hd', -⟩ := hfirst'.1
  rcases Nat.lt_trichotomy before.length before'.length with hlt | heq | hlt
  · have hle := hbody.le_keyword hlead htypes hid hbrace hfirst hstands' hlt
    exact .inl (Nat.le_trans hle (hfirst'.length_le_brace hid' hbrace'))
  · obtain ⟨u, rfl, -, hu⟩ := hstands
    obtain ⟨u', ht, -, hu'⟩ := hstands'
    obtain ⟨-, rfl⟩ := List.append_inj ht heq
    have hsame := (header?_eq_some_iff.2 hu).symm.trans (header?_eq_some_iff.2 hu')
    obtain ⟨rfl, -⟩ := Prod.mk.inj (Option.some.inj hsame)
    exact absurd (hd.symm.trans hd') hne
  · have hle := hbody'.le_keyword hlead htypes hid' hbrace' hfirst' hstands hlt
    exact .inr (Nat.le_trans hle (hfirst.length_le_brace hid hbrace))

/-- A block that does not close, and an indented declaration behind it. -/
def openEnded : Text := "resource a 'T' = \x7b\n x: \x7b\n resource b 'U' = \x7by\x7d\n"

theorem bodies_stay_apart_openEnded :
    KeywordsLead openEnded ∧ (∀ d ∈ Declaration.all openEnded, ↑ '\n' ∉ d.type) ∧
      Takes openEnded "a" 17 ("\n x: \x7b\n" : Text) ∧ Takes openEnded "b" 43 ("y" : Text) ∧
      BodyAt openEnded 17 ("\n x: \x7b\n" : Text) ∧
      (17 + 1 + ("\n x: \x7b\n" : Text).length ≤ 43 ∨ 43 + 1 + ("y" : Text).length ≤ 17) := by
  have hlead : KeywordsLead openEnded := by decide +kernel
  have htypes : ∀ d ∈ Declaration.all openEnded, ↑ '\n' ∉ d.type := by decide +kernel
  have hfirst : Takes openEnded "a" 17 ("\n x: \x7b\n" : Text) := by decide +kernel
  have hsecond : Takes openEnded "b" 43 ("y" : Text) := by decide +kernel
  obtain ⟨hinside, hapart⟩ := bodies_stay_apart openEnded
  obtain ⟨o, ho, hbody⟩ := hinside "a" ("\n x: \x7b\n" : Text) (by decide +kernel)
  obtain rfl := Option.some.inj (ho.symm.trans hfirst.2)
  exact ⟨hlead, htypes, hfirst, hsecond, hbody,
    hapart hlead htypes _ _ _ _ _ _ (by decide) hfirst hsecond⟩

end ResourceSet

end Groundplan

import Groundplan.Proofs.Declaration.Border

/-!
# Where a type and a body come from

Extraction looks for the declarations of a text twice: once for the types, from left to right and
without overlap, and once more for each body, at every place of the text.

**Types.** `found` lists the declarations of the first search with the places where they stand
(`map_declaration_found`). The type of a resource is that of the first one with a type that is not
blank.

**Bodies.** The body is that of the first place at which a declaration of the identifier stands that
a brace follows (`firstBlockFrom?_eq_some_iff`). It need not be the declaration of the type: an
earlier one may have a blank type or stand inside the type of another, and a later one may be the
first with a block.

Main result: `origins_of_extract`.
-/

namespace Groundplan

namespace Declaration

/-! ## Places -/

/-- Behind `before`, where a word can start, the text declares `d`, and `rest` stands behind the
type. `inWord` says that the text goes on with a word. -/
def StandsAt (inWord : Bool) (before : Text) (d : Declaration) (rest t : Text) : Prop :=
  ∃ u, t = before ++ u ∧ wordGoesOn inWord before = false ∧ Declares d rest u

/-- A brace follows, before the next word `resource` with a blank after it, and `block` stands
behind the brace. -/
def BraceFollows (inWord : Bool) (block rest : Text) : Prop :=
  ∃ gap, rest = gap ++ ↑ '\x7b' :: block ∧ ↑ '\x7b' ∉ gap ∧
    ¬AtWordStart (startsWord · = true) inWord gap

/-- Behind `before` stands a declaration of `id` that a brace follows, and `block` stands behind the
brace. -/
def OpensAt (id : Text) (inWord : Bool) (before block t : Text) : Prop :=
  ∃ d rest, StandsAt inWord before d rest t ∧ d.id = id ∧ BraceFollows false block rest

variable {id t u rest before block : Text} {w : Bool} {c : CodePoint} {d : Declaration}

theorem openBrace_notMem_keyword : ↑ '\x7b' ∉ keyword := by decide

/-- The gap in front of the brace goes on over a character that is no brace and starts no word
`resource`. -/
theorem braceFollows_cons_iff : BraceFollows w block (c :: t) ↔
    (c = '\x7b' ∧ block = t) ∨ (c ≠ '\x7b' ∧ ¬(w = false ∧ startsWord (c :: t) = true) ∧
      BraceFollows (isWord c) block t) := by
  constructor
  · rintro ⟨gap, ht, hgap, hword⟩
    cases gap with
    | nil =>
      obtain ⟨rfl, rfl⟩ := List.cons.inj ht
      exact .inl ⟨rfl, rfl⟩
    | cons a gap =>
      obtain ⟨rfl, htail⟩ := List.cons.inj ht
      obtain rfl : t = gap ++ ↑ '\x7b' :: block := htail
      rw [List.mem_cons, not_or] at hgap
      rw [atWordStart_cons, not_or] at hword
      refine .inr ⟨Ne.symm hgap.1, ?_, gap, rfl, hgap.2, hword.2⟩
      rw [← List.cons_append, startsWord_append_cons openBrace_notMem_keyword (by decide)]
      exact hword.1
  · rintro (⟨rfl, rfl⟩ | ⟨hc, hword, gap, rfl, hgap, hgaps⟩)
    · refine ⟨[], rfl, by simp, ?_⟩
      rw [atWordStart_nil]
      simp [startsWord_nil]
    · refine ⟨c :: gap, rfl, by simp [Ne.symm hc, hgap], ?_⟩
      rw [atWordStart_cons, not_or]
      rw [← List.cons_append, startsWord_append_cons openBrace_notMem_keyword (by decide)] at hword
      exact ⟨hword, hgaps⟩

/-- The search for a brace decides whether one follows. -/
theorem afterBrace?_eq_some_iff : afterBrace? w t = some block ↔ BraceFollows w block t := by
  induction t generalizing w with
  | nil => simp [afterBrace?, BraceFollows]
  | cons c t ih =>
    rw [braceFollows_cons_iff, afterBrace?, ← ih]
    split
    · next hc =>
      simp only [hc, Option.some.injEq, true_and, ne_eq, not_true_eq_false, false_and, or_false]
      exact eq_comm
    · next hc =>
      simp only [hc, false_and, false_or, ne_eq, not_false_eq_true, true_and]
      cases w <;> cases startsWord (c :: t) <;> simp

/-- A block opens at a place exactly when it is read there. -/
theorem opensAt_iff (hid : IsIdentifier id) : OpensAt id w before block t ↔
    ∃ u, t = before ++ u ∧ wordGoesOn w before = false ∧ openBlock? id u = some block := by
  simp only [openBlock?_eq hid, Option.bind_eq_some_iff, Prod.exists, header?_eq_some_iff,
    Option.ite_none_right_eq_some, afterBrace?_eq_some_iff, OpensAt, StandsAt]
  constructor
  · rintro ⟨d, rest, ⟨u, rfl, hw, hd⟩, rfl, hbrace⟩
    exact ⟨u, rfl, hw, d, rest, hd, rfl, hbrace⟩
  · rintro ⟨u, rfl, hw, d, rest, hd, rfl, hbrace⟩
    exact ⟨d, rest, ⟨u, rfl, hw, hd⟩, rfl, hbrace⟩

theorem opensAt_cons_iff (hid : IsIdentifier id) : OpensAt id w before block (c :: t) ↔
    (before = [] ∧ w = false ∧ openBlock? id (c :: t) = some block) ∨
      ∃ b, before = c :: b ∧ OpensAt id (isWord c) b block t := by
  simp only [opensAt_iff hid]
  constructor
  · rintro ⟨u, ht, hw, hopen⟩
    cases before with
    | nil =>
      rw [List.nil_append] at ht
      subst ht
      exact .inl ⟨rfl, hw, hopen⟩
    | cons a before =>
      obtain ⟨rfl, rfl⟩ := List.cons.inj ht
      exact .inr ⟨before, rfl, u, rfl, hw, hopen⟩
  · rintro (⟨rfl, rfl, hopen⟩ | ⟨b, rfl, u, rfl, hw, hopen⟩)
    · exact ⟨c :: t, rfl, rfl, hopen⟩
    · exact ⟨u, rfl, hw, hopen⟩

/-! ## The search for bodies -/

/-- Behind `before` opens the first block of `id`. -/
def FirstAt (id : Text) (inWord : Bool) (before block t : Text) : Prop :=
  OpensAt id inWord before block t ∧
    ∀ before' block', OpensAt id inWord before' block' t → before.length ≤ before'.length

theorem not_opensAt_nil (hid : IsIdentifier id) : ¬OpensAt id w before block [] := by
  rw [opensAt_iff hid]
  rintro ⟨u, h, -, hopen⟩
  obtain ⟨rfl, rfl⟩ := List.append_eq_nil_iff.1 h.symm
  cases hopen

/-- The search stops at the first place. -/
theorem firstBlockFrom?_spec (hid : IsIdentifier id) (w : Bool) (t : Text) :
    match firstBlockFrom? id w t with
    | some block => ∃ before, FirstAt id w before block t
    | none => ∀ before block, ¬OpensAt id w before block t := by
  induction t generalizing w with
  | nil => exact fun _ _ => not_opensAt_nil hid
  | cons c t ih =>
    by_cases hopen : w = false ∧ ∃ block, openBlock? id (c :: t) = some block
    · obtain ⟨rfl, block, hblock⟩ := hopen
      rw [firstBlockFrom?_of_openBlock hblock]
      exact ⟨[], (opensAt_cons_iff hid).2 (.inl ⟨rfl, rfl, hblock⟩), fun _ _ _ => Nat.zero_le _⟩
    · have hnone : w = false → openBlock? id (c :: t) = none := by
        intro hw
        rw [Option.eq_none_iff_forall_ne_some]
        exact fun block hblock => hopen ⟨hw, block, hblock⟩
      -- So every place is one of the rest of the text.
      have hrest : ∀ before block, OpensAt id w before block (c :: t) ↔
          ∃ b, before = c :: b ∧ OpensAt id (isWord c) b block t := by
        intro before block
        rw [opensAt_cons_iff hid, or_iff_right]
        exact fun h => hopen ⟨h.2.1, block, h.2.2⟩
      have hspec := ih (isWord c)
      rw [firstBlockFrom?_cons_of_none hnone]
      cases hfirst : firstBlockFrom? id (isWord c) t with
      | none =>
        rw [hfirst] at hspec
        intro before block hopens
        obtain ⟨b, rfl, hb⟩ := (hrest _ _).1 hopens
        exact hspec b block hb
      | some block =>
        rw [hfirst] at hspec
        obtain ⟨before, hbefore, hleast⟩ := hspec
        refine ⟨c :: before, (hrest _ _).2 ⟨before, rfl, hbefore⟩, fun before' block' h => ?_⟩
        obtain ⟨b, rfl, hb⟩ := (hrest _ _).1 h
        exact Nat.succ_le_succ (hleast b block' hb)

/-- One block opens at a place. -/
theorem OpensAt.unique (hid : IsIdentifier id) {before' block' : Text}
    (h : OpensAt id w before block t)
    (h' : OpensAt id w before' block' t) (hlength : before.length = before'.length) :
    before = before' ∧ block = block' := by
  obtain ⟨u, ht, -, hopen⟩ := (opensAt_iff hid).1 h
  obtain ⟨u', ht', -, hopen'⟩ := (opensAt_iff hid).1 h'
  obtain ⟨rfl, rfl⟩ := List.append_inj (ht.symm.trans ht') hlength
  exact ⟨rfl, Option.some.inj (hopen.symm.trans hopen')⟩

theorem firstBlockFrom?_eq_some_iff (hid : IsIdentifier id) :
    firstBlockFrom? id w t = some block ↔ ∃ before, FirstAt id w before block t := by
  have hspec := firstBlockFrom?_spec hid w t
  constructor
  · intro h
    rw [h] at hspec
    exact hspec
  · rintro ⟨before, hopens, hleast⟩
    cases hfirst : firstBlockFrom? id w t with
    | none =>
      rw [hfirst] at hspec
      exact absurd hopens (hspec before block)
    | some block' =>
      rw [hfirst] at hspec
      obtain ⟨before', hopens', hleast'⟩ := hspec
      have hlength : before.length = before'.length :=
        Nat.le_antisymm (hleast _ _ hopens') (hleast' _ _ hopens)
      rw [(hopens.unique hid hopens' hlength).2]

theorem firstBlockFrom?_eq_none_iff (hid : IsIdentifier id) :
    firstBlockFrom? id w t = none ↔ ∀ before block, ¬OpensAt id w before block t := by
  have hspec := firstBlockFrom?_spec hid w t
  cases hfirst : firstBlockFrom? id w t with
  | none =>
    rw [hfirst] at hspec
    exact iff_of_true rfl hspec
  | some block =>
    rw [hfirst] at hspec
    obtain ⟨before, hopens, -⟩ := hspec
    exact iff_of_false (by simp) fun h => h before block hopens

/-! ## The search for types -/

/-- A declaration that the search for types finds, with what stands before it and behind its
type. -/
structure Found where
  before : Text
  declaration : Declaration
  rest : Text
deriving DecidableEq

/-- The declarations that `allFrom` finds, with their places; `before` has been searched already. -/
def foundFrom : (before : Text) → (inWord : Bool) → (skip : Nat) → Text → List Found
  | _, _, _, [] => []
  | before, inWord, skip + 1, c :: r => foundFrom (before ++ [c]) inWord skip r
  | before, inWord, 0, c :: r =>
    match if inWord then none else header? (c :: r) with
    | some (d, rest) =>
      ⟨before, d, rest⟩ :: foundFrom (before ++ [c]) false (r.length - rest.length) r
    | none => foundFrom (before ++ [c]) (isWord c) 0 r

/-- The declarations of a text with their places. -/
def found (t : Text) : List Found := foundFrom [] false 0 t

theorem foundFrom_skip (before : Text) (w : Bool) (skip : Nat) (t : Text) :
    foundFrom before w skip t = foundFrom (before ++ t.take skip) w 0 (t.drop skip) := by
  induction t generalizing before skip with
  | nil => cases skip <;> rfl
  | cons c t ih =>
    cases skip with
    | zero => simp
    | succ skip => simpa [foundFrom] using ih (before ++ [c]) skip

theorem foundFrom_of_header (h : header? t = some (d, rest)) (before : Text) :
    ∃ passed, t = passed ++ ↑ '\'' :: rest ∧
      foundFrom before false 0 t =
        ⟨before, d, rest⟩ :: foundFrom (before ++ (passed ++ (['\''] : Text))) false 0 rest := by
  obtain ⟨passed, rfl⟩ := (header?_eq_some_iff.1 h).exists_before
  refine ⟨↑ 'r' :: passed, rfl, ?_⟩
  have hcut : passed ++ ↑ '\'' :: rest = (passed ++ (['\''] : Text)) ++ rest := by simp
  have hskip :
      (passed ++ ↑ '\'' :: rest).length - rest.length = (passed ++ (['\''] : Text)).length := by
    rw [hcut, List.length_append, Nat.add_sub_cancel]
  rw [foundFrom, if_neg Bool.false_ne_true, h]
  dsimp only
  rw [hskip, foundFrom_skip, hcut, List.take_left, List.drop_left]
  simp

theorem foundFrom_cons_of_none (h : w = false → header? (c :: t) = none) (before : Text) :
    foundFrom before w 0 (c :: t) = foundFrom (before ++ [c]) (isWord c) 0 t := by
  rw [foundFrom]
  cases w with
  | true => rfl
  | false => simp [h rfl]

theorem map_declaration_foundFrom (before : Text) (w : Bool) (t : Text) :
    (foundFrom before w 0 t).map Found.declaration = allFrom w 0 t := by
  induction w, t using scan_induction generalizing before with
  | nil w => rfl
  | found t d rest h ih =>
    obtain ⟨passed, -, hfound⟩ := foundFrom_of_header h before
    rw [hfound, List.map_cons, ih, allFrom_of_header h]
  | next w c t h ih => rw [foundFrom_cons_of_none h, ih, allFrom_cons_of_none h]

theorem map_declaration_found (t : Text) : (found t).map Found.declaration = all t :=
  map_declaration_foundFrom [] false t

/-- What is found stands where it is found. -/
theorem standsAt_of_mem_foundFrom {p : Found} (h : p ∈ foundFrom before w 0 t) :
    ∃ b, p.before = before ++ b ∧ StandsAt w b p.declaration p.rest t := by
  induction w, t using scan_induction generalizing before with
  | nil w => cases h
  | found t d rest hheader ih =>
    obtain ⟨passed, rfl, hfound⟩ := foundFrom_of_header hheader before
    rw [hfound, List.mem_cons] at h
    rcases h with rfl | h
    · exact ⟨[], by simp, _, rfl, rfl, header?_eq_some_iff.1 hheader⟩
    · obtain ⟨b, hb, u, rfl, hw, hd⟩ := ih h
      refine ⟨passed ++ (['\''] : Text) ++ b, by rw [hb, List.append_assoc], u, by simp, ?_, hd⟩
      rw [wordGoesOn_append, wordGoesOn_append]
      exact hw
  | next w c t hnone ih =>
    rw [foundFrom_cons_of_none hnone] at h
    obtain ⟨b, hb, u, rfl, hw, hd⟩ := ih h
    exact ⟨c :: b, by rw [hb, List.append_assoc]; rfl, u, rfl, hw, hd⟩

/-- The declarations are found from left to right. -/
theorem pairwise_foundFrom (before : Text) (w : Bool) (t : Text) :
    (foundFrom before w 0 t).Pairwise fun p q => p.before.length < q.before.length := by
  induction w, t using scan_induction generalizing before with
  | nil w => exact List.Pairwise.nil
  | found t d rest h ih =>
    obtain ⟨passed, -, hfound⟩ := foundFrom_of_header h before
    rw [hfound]
    refine List.pairwise_cons.2 ⟨fun q hq => ?_, ih _⟩
    obtain ⟨b, hb, -⟩ := standsAt_of_mem_foundFrom hq
    rw [hb]
    simp only [List.length_append, List.length_singleton]
    omega
  | next w c t h ih =>
    rw [foundFrom_cons_of_none h]
    exact ih _

/-- The first declaration of `id` that has a type which is not blank. -/
structure Supplies (id t : Text) (p : Found) : Prop where
  mem : p ∈ found t
  gives : gives id p.declaration = true
  first : ∀ q ∈ found t, Declaration.gives id q.declaration = true →
    p.before.length ≤ q.before.length

theorem exists_supplies (h : (all t).find? (gives id) = some d) :
    ∃ p, Supplies id t p ∧ p.declaration = d := by
  rw [← map_declaration_found, List.find?_map, Option.map_eq_some_iff] at h
  obtain ⟨p, hfind, rfl⟩ := h
  obtain ⟨hgives, earlier, later, hsplit, hearlier⟩ := List.find?_eq_some_iff_append.1 hfind
  refine ⟨p, ⟨List.mem_of_find?_eq_some hfind, hgives, fun q hq hgives' => ?_⟩, rfl⟩
  have hordered := pairwise_foundFrom [] false t
  change (found t).Pairwise _ at hordered
  rw [hsplit] at hordered hq
  rcases List.mem_append.1 hq with hq | hq
  · have hnot := hearlier q hq
    simp [hgives'] at hnot
  · rcases List.mem_cons.1 hq with rfl | hq
    · exact Nat.le_refl _
    · exact Nat.le_of_lt
        ((List.pairwise_cons.1 (List.pairwise_append.1 hordered).2.1).1 q hq)

/-- The declaration of the type stands in the text. -/
theorem Supplies.standsAt {p : Found} (h : Supplies id t p) :
    StandsAt false p.before p.declaration p.rest t ∧ p.declaration.id = id := by
  obtain ⟨b, hb, hstands⟩ := standsAt_of_mem_foundFrom h.mem
  rw [List.nil_append] at hb
  have hgives := h.gives
  rw [Declaration.gives, Bool.and_eq_true, beq_iff_eq] at hgives
  exact ⟨hb ▸ hstands, hgives.2⟩

end Declaration

/-! ## Extraction -/

namespace ResourceSet

open Declaration

/-- **Where a type and a body come from.** A resource has the type of the first declaration of its
identifier whose type is not blank. It has a body if a brace follows any declaration of the
identifier, at whatever place, and then the body of the first of them. This is the block of the
declaration of the type if that has one and no earlier place has. -/
theorem origins_of_extract (t id : Text) (r : Resource) (h : (extract t).get? id = some r) :
    ∃ p, Supplies id t p ∧ r.id = id ∧ r.type = p.declaration.type ∧
      (r.body = none ↔ ∀ before block, ¬OpensAt id false before block t) ∧
      (∀ before block, FirstAt id false before block t → r.body = some (blockBody block)) ∧
      ((∀ before block, OpensAt id false before block t → p.before.length ≤ before.length) →
        ∀ block, BraceFollows false block p.rest → r.body = some (blockBody block)) := by
  rw [get?_extract, Option.map_eq_some_iff] at h
  obtain ⟨d, hfind, rfl⟩ := h
  have hid := isIdentifier_of_find?_gives hfind
  obtain ⟨p, hsupplies, rfl⟩ := exists_supplies hfind
  obtain ⟨hstands, hpid⟩ := hsupplies.standsAt
  have hbody : ∀ before block, FirstAt id false before block t →
      body? t id = some (blockBody block) := by
    intro before block hfirst
    rw [body?, (firstBlockFrom?_eq_some_iff hid).2 ⟨before, hfirst⟩, Option.map_some]
  refine ⟨p, hsupplies, hpid, rfl, ?_, hbody, ?_⟩
  · show body? t id = none ↔ _
    rw [body?, Option.map_eq_none_iff, firstBlockFrom?_eq_none_iff hid]
  · intro hearliest block hbrace
    exact hbody p.before block ⟨⟨_, _, hstands, hpid, hbrace⟩, hearliest⟩

/-- Two declarations with blocks; the first has both the type and the body. -/
def blocksTwice : Text := "resource a 'T' = \x7bx\x7d\nresource a 'U' = \x7by\x7d\n"

theorem origins_of_extract_blocksTwice :
    ∃ r p, (extract blocksTwice).get? "a" = some r ∧ Supplies "a" blocksTwice p ∧
      r.type = p.declaration.type := by
  have hsome : ((extract blocksTwice).get? "a").isSome = true := by decide +kernel
  obtain ⟨r, hr⟩ := Option.isSome_iff_exists.1 hsome
  obtain ⟨p, hp, -, htype, -⟩ := origins_of_extract blocksTwice "a" r hr
  exact ⟨r, p, hr, hp, htype⟩

/-- Two declarations, of which only the second has a block. -/
def blockLater : Text := "resource a 'T'\nresource a 'U' = \x7bx\x7d\n"

/-- The first declaration gives the type, has no block, and gets the body of the second. -/
theorem body_of_later_declaration :
    ∃ r p, (extract blockLater).get? "a" = some r ∧ Supplies "a" blockLater p ∧
      r.type = ("T" : Text) ∧ p.declaration.type = ("T" : Text) ∧
      (∀ block, ¬BraceFollows false block p.rest) ∧ r.body = some ("x" : Text) := by
  have hresource : ((extract blockLater).get? "a").map (fun r => (r.type, r.body)) =
      some (("T" : Text), some ("x" : Text)) := by decide +kernel
  have hfound : found blockLater =
      [⟨[], ⟨"a", "T"⟩, "\nresource a 'U' = \x7bx\x7d\n"⟩,
        ⟨"resource a 'T'\n", ⟨"a", "U"⟩, " = \x7bx\x7d\n"⟩] := by decide +kernel
  have hnone : afterBrace? false "\nresource a 'U' = \x7bx\x7d\n" = none := by decide +kernel
  obtain ⟨r, hr, hfields⟩ := Option.map_eq_some_iff.1 hresource
  obtain ⟨htype, hbody⟩ := Prod.mk.inj hfields
  refine ⟨r, ⟨[], ⟨"a", "T"⟩, "\nresource a 'U' = \x7bx\x7d\n"⟩, hr, ?_, htype, rfl, ?_, hbody⟩
  · refine ⟨by simp [hfound], by decide +kernel, fun q _ _ => Nat.zero_le _⟩
  · intro block hbrace
    rw [← afterBrace?_eq_some_iff, hnone] at hbrace
    cases hbrace

end ResourceSet

end Groundplan

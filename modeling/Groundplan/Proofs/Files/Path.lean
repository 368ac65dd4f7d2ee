import Groundplan.Proofs.Files.Store
import Groundplan.Proofs.Text.Run
import Groundplan.Proofs.Text.Search
import Groundplan.Proofs.Text.Utf8

/-!
# Names at the end of a path

**Writing.** What is appended to the text of a path and has no slash belongs to the last name
(`Path.exists_ofText_append`).

**Following.** A path with a last name leads to an entry of the directory that the path without it
leads to (`Store.resolve_child_iff`), so where one name can be resolved, so can every name that is
no longer (`Store.resolve_sibling`).
-/

namespace Groundplan

/-! ## Pieces -/

namespace Text

/-- What is appended without a cut goes to the last piece. -/
theorem exists_split_append (p : CodePoint → Bool) (t : Text) :
    ∃ pieces last, ∀ u, (∀ c ∈ u, p c = false) → split p (t ++ u) = pieces ++ [last ++ u] := by
  induction t with
  | nil => exact ⟨[], [], fun u hu => split_of_forall_not hu⟩
  | cons c t ih =>
    obtain ⟨pieces, last, h⟩ := ih
    cases hc : p c with
    | true =>
      refine ⟨[] :: pieces, last, fun u hu => ?_⟩
      rw [List.cons_append, split, hc, h u hu]
      rfl
    | false =>
      cases pieces with
      | nil =>
        refine ⟨[], c :: last, fun u hu => ?_⟩
        rw [List.cons_append, split, hc, h u hu]
        rfl
      | cons piece pieces =>
        refine ⟨(c :: piece) :: pieces, last, fun u hu => ?_⟩
        rw [List.cons_append, split, hc, h u hu]
        rfl

theorem exists_join_append_singleton (sep : Text) (ts : List Text) :
    ∃ start, ∀ t, join sep (ts ++ [t]) = start ++ t := by
  by_cases h : ts = []
  · subst h
    exact ⟨[], fun t => join_singleton sep t⟩
  · exact ⟨join sep ts ++ sep, fun t => by rw [join_append_singleton h, List.append_assoc]⟩

end Text

namespace Path

theorem append_child (p q : Path) (name : Text) : p ++ q.child name = (p ++ q).child name := by
  show append p (q.child name) = child (append p q) name
  unfold append
  cases h : q.isAbsolute with
  | true =>
    have hchild : (q.child name).isAbsolute = true := h
    rw [hchild]
    rfl
  | false =>
    have hchild : (q.child name).isAbsolute = false := h
    rw [hchild]
    simp [child, List.append_assoc]

theorem startOf_append {t u : Text} (hu : ↑ '/' ∉ u) : startOf (t ++ u) = startOf t := by
  have hlength : ((t ++ u).takeWhile (· == ↑ '/')).length = (t.takeWhile (· == ↑ '/')).length := by
    induction t with
    | nil =>
      cases u with
      | nil => rfl
      | cons c u =>
        have hc : (c == '/') = false := beq_false_of_ne fun h => hu (h ▸ List.mem_cons_self)
        simp [hc]
    | cons c t ih =>
      rw [List.cons_append, List.takeWhile_cons, List.takeWhile_cons]
      split
      · rw [List.length_cons, List.length_cons, ih]
      · rfl
  unfold startOf
  rw [hlength]

/-- What is appended to the text of a path and has no slash belongs to the last name. -/
theorem exists_ofText_append (t : Text) :
    ∃ (above : Path) (base : Text), ∀ u, ↑ '/' ∉ u → isName (base ++ u) = true →
      ofText (t ++ u) = above.child (base ++ u) := by
  obtain ⟨pieces, last, hsplit⟩ := Text.exists_split_append (· == '/') t
  refine ⟨⟨startOf t, pieces.filter isName⟩, last, fun u hu hname => ?_⟩
  have hfree : ∀ c ∈ u, (c == '/') = false :=
    fun c hc => beq_false_of_ne fun h => hu (h ▸ hc)
  rw [ofText, startOf_append hu, hsplit u hfree, List.filter_append,
    List.filter_cons_of_pos hname]
  rfl

/-- A name without slashes writes a path of one name. -/
theorem ofText_of_slash_notMem {t : Text} (hslash : ↑ '/' ∉ t) (hname : isName t = true) :
    ofText t = here.child t := by
  have hfree : ∀ c ∈ t, (c == '/') = false := fun c hc => beq_false_of_ne fun h => hslash (h ▸ hc)
  have hstart : startOf t = [] := startOf_append (t := []) hslash
  rw [ofText, Text.split_of_forall_not hfree, hstart, List.filter_cons_of_pos hname]
  rfl

theorem append_here (p : Path) : p ++ here = p := by
  show (⟨p.start, p.names ++ []⟩ : Path) = p
  rw [List.append_nil]

/-- A text that writes a path from the working directory on. -/
def IsRelative (t : Text) : Prop := t ≠ [] ∧ t.head? ≠ some ↑ '/'

instance (t : Text) : Decidable (IsRelative t) := inferInstanceAs (Decidable (_ ∧ _))

theorem start_ofText {t : Text} (h : IsRelative t) : (ofText t).start = [] := by
  obtain ⟨c, t, rfl⟩ := List.exists_cons_of_ne_nil h.1
  have hc : (c == '/') = false := beq_false_of_ne fun hc => h.2 (congrArg some hc)
  show startOf (c :: t) = []
  rw [startOf, List.takeWhile_cons, hc, if_neg Bool.false_ne_true]
  rfl

/-- A path that is written with a slash leads where its two parts lead one after the other. -/
theorem append_ofText_slash {t u : Text} (ht : IsRelative t) (hu : IsRelative u) (p : Path) :
    p ++ ofText (t ++ (['/'] : Text) ++ u) = p ++ ofText t ++ ofText u := by
  have hboth : IsRelative (t ++ (['/'] : Text) ++ u) := by
    obtain ⟨c, t, rfl⟩ := List.exists_cons_of_ne_nil ht.1
    exact ⟨List.cons_ne_nil _ _, ht.2⟩
  have happend : ∀ (p : Path) {t : Text}, IsRelative t →
      p ++ ofText t = ⟨p.start, p.names ++ (ofText t).names⟩ := by
    intro p t h
    have hrelative : (ofText t).isAbsolute = false := by rw [isAbsolute, start_ofText h]; rfl
    show append p (ofText t) = _
    rw [append, hrelative, if_neg Bool.false_ne_true]
  have hnames :
      (ofText (t ++ (['/'] : Text) ++ u)).names = (ofText t).names ++ (ofText u).names := by
    have hsplit := Text.split_append_cons (p := (· == '/')) (c := '/') rfl t u
    show (Text.split (· == '/') (t ++ (['/'] : Text) ++ u)).filter isName = _
    rw [List.append_assoc, List.singleton_append, hsplit, List.filter_append]
    rfl
  rw [happend p hboth, happend p ht, happend _ hu, hnames, List.append_assoc]

theorem exists_toText_child (p : Path) :
    ∃ start, ∀ name, (p.child name).toText = start ++ name := by
  obtain ⟨start, h⟩ := Text.exists_join_append_singleton ['/'] p.names
  refine ⟨p.start ++ start, fun name => ?_⟩
  have hne : (p.child name).names.isEmpty = false := by simp [child]
  rw [toText, hne, Bool.and_false, if_neg Bool.false_ne_true, List.append_assoc, ← h name]
  rfl

theorem toText_of_names {p : Path} (h : p.names ≠ []) :
    p.toText = p.start ++ Text.join ['/'] p.names := by
  rw [toText, List.isEmpty_eq_false_iff.2 h, Bool.and_false, if_neg Bool.false_ne_true]

theorem toText_child_of_names {p : Path} (h : p.names ≠ []) (name : Text) :
    (p.child name).toText = p.toText ++ ↑ '/' :: name := by
  have hchild : (p.child name).names ≠ [] := by simp [child]
  rw [toText_of_names h, toText_of_names hchild, child, Text.join_append_singleton h,
    List.append_assoc]
  rfl

end Path

namespace FileName

theorem bytes_ofText_append (a b : Text) :
    (ofText (a ++ b)).bytes = (ofText a).bytes ++ (ofText b).bytes := Utf8.bytesWith_append a b

/-- Behind one beginning, scalar values tell names apart. -/
theorem ofText_append_inj {t a b : Text} (ha : Utf8.Encodable a) (hb : Utf8.Encodable b) :
    ofText (t ++ a) = ofText (t ++ b) ↔ a = b := by
  rw [FileName.ext_iff, bytes_ofText_append, bytes_ofText_append, List.append_cancel_left_eq,
    ← Utf8.bytesWith_strict_inj ha hb, ← ha.bytesWith_eq escaped, ← hb.bytesWith_eq escaped]
  rfl

end FileName

namespace Store

variable {s : Store} {here l k : Location} {p : Path} {name : Text}

/-! ## Texts that can be passed on -/

/-- Every character of a text that can be passed on has bytes in a name and is not null. -/
theorem refusal?_eq_none_iff {t : Text} : refusal? t = none ↔
    ∀ c ∈ t, (Utf8.pointBytes? FileName.escaped c).isSome = true ∧ c ≠ '\x00' := by
  simp only [forall_and, ← Utf8.unencodableFrom?_eq_none_iff (p := 0)]
  have hnull : (∀ c ∈ t, c ≠ ↑ '\x00') ↔ t.contains '\x00' = false := by
    rw [← Bool.not_eq_true, List.contains_iff_mem]
    exact ⟨fun h hmem => h _ hmem rfl, fun h c hc heq => h (heq ▸ hc)⟩
  rw [hnull, refusal?, FileName.unencodable?]
  split
  · next he => simp [he]
  · next he => simp [he]

theorem refusal?_append {t u : Text} :
    refusal? (t ++ u) = none ↔ refusal? t = none ∧ refusal? u = none := by
  simp only [refusal?_eq_none_iff, List.forall_mem_append]

theorem refusal?_ofChars {l : List Char} (h : '\x00' ∉ l) : refusal? (Text.ofChars l) = none := by
  rw [refusal?_eq_none_iff]
  intro c hc
  obtain ⟨d, hd, rfl⟩ := List.mem_map.1 hc
  refine ⟨rfl, ?_⟩
  rintro hnull
  exact h (CodePoint.scalar.inj hnull ▸ hd)

/-- A path with a last name can be passed on if and only if both parts can. -/
theorem refusal?_toText_child : refusal? (p.child name).toText = none ↔
    refusal? p.toText = none ∧ refusal? name = none := by
  by_cases hnames : p.names = []
  · -- The path is a dot or the start of both texts.
    have hchild : (p.child name).toText = p.start ++ name := by
      simp [Path.toText, Path.child, hnames, Text.join]
    have htext : refusal? p.toText = none ↔ refusal? p.start = none := by
      rw [Path.toText, hnames]
      cases hstart : p.start with
      | nil => decide
      | cons c start => simp [Text.join]
    rw [hchild, refusal?_append, htext]
  · rw [Path.toText_child_of_names hnames, ← List.singleton_append, refusal?_append,
      refusal?_append (t := [↑ '/'])]
    exact and_congr_right fun _ => and_iff_right (by decide)

/-- The text of the path can be passed on to the file system. -/
def Passable (p : Path) : Prop :=
  refusal? p.toText = none ∧ (FileName.ofText p.toText).bytes.length < longestPath

/-! ## Following names -/

/-- Names are followed one after the other. -/
theorem follow_append (s : Store) (l : Location) (a b : List Text) :
    s.follow l (a ++ b) = (s.follow l a).bind fun k => s.follow k b := by
  induction a generalizing l with
  | nil => rfl
  | cons name a ih =>
    rw [List.cons_append, follow, follow]
    split
    · rfl
    · rfl
    · split
      · exact ih l.dropLast
      · split
        · rfl
        · exact ih (l ++ [.ofText name])

/-- A name leads from a directory to its entry. -/
theorem follow_singleton_iff (hname : name ≠ (['.', '.'] : Text)) : s.follow k [name] = .ok l ↔
    s.lookup? k = some .directory ∧ (FileName.ofText name).bytes.length ≤ longestName ∧
      l = k ++ [.ofText name] := by
  rw [follow]
  cases hk : s.lookup? k with
  | none => simp
  | some e =>
    cases e with
    | file bytes => simp
    | directory =>
      have hup : (name == (['.', '.'] : Text)) = false := beq_false_of_ne hname
      simp only [hup, if_neg Bool.false_ne_true, true_and]
      split
      · next hlong => simp [Nat.not_le.2 hlong]
      · next hlong => simp [follow, Nat.not_lt.1 hlong, eq_comm]

theorem resolve_eq_ok_iff : s.resolve here p = .ok l ↔
    Passable p ∧ s.follow (if p.isAbsolute then [] else here) p.names = .ok l := by
  unfold resolve Passable
  split
  · next hrefused => simp [hrefused]
  · next hpassed =>
    split
    · next hlong => simp [Nat.not_lt.2 hlong]
    · next hlong => simp [hpassed, Nat.not_le.1 hlong]

/-- A path with a last name leads into the directory that the path without it leads to. -/
theorem resolve_child_iff (hname : name ≠ (['.', '.'] : Text)) :
    s.resolve here (p.child name) = .ok l ↔
      Passable (p.child name) ∧ (FileName.ofText name).bytes.length ≤ longestName ∧
        ∃ k, s.follow (if p.isAbsolute then [] else here) p.names = .ok k ∧
          s.lookup? k = some .directory ∧ l = k ++ [.ofText name] := by
  have hnames : (p.child name).names = p.names ++ [name] := rfl
  have hstart : (p.child name).isAbsolute = p.isAbsolute := rfl
  rw [resolve_eq_ok_iff, hnames, hstart, follow_append]
  refine and_congr_right fun _ => ?_
  cases s.follow (if p.isAbsolute then [] else here) p.names with
  | error f => simp [Except.bind]
  | ok k =>
    show s.follow k [name] = .ok l ↔ _
    rw [follow_singleton_iff hname]
    simp only [Except.ok.injEq, exists_eq_left']
    exact and_left_comm

/-- Where one name can be resolved, so can another one that is no longer. -/
theorem resolve_sibling {other : Text} (h : s.resolve here (p.child name) = .ok l)
    (hname : name ≠ (['.', '.'] : Text)) (hother : other ≠ (['.', '.'] : Text))
    (hpassed : refusal? name = none → refusal? other = none)
    (hlength : (FileName.ofText other).bytes.length ≤ (FileName.ofText name).bytes.length) :
    ∃ k, l = k ++ [.ofText name] ∧ s.resolve here (p.child other) = .ok (k ++ [.ofText other]) := by
  obtain ⟨⟨hfree, hpath⟩, hlong, k, hk, hdirectory, rfl⟩ := (resolve_child_iff hname).1 h
  obtain ⟨start, htext⟩ := p.exists_toText_child
  refine ⟨k, rfl, (resolve_child_iff hother).2 ⟨⟨?_, ?_⟩, by omega, k, hk, hdirectory, rfl⟩⟩
  · rw [refusal?_toText_child] at hfree ⊢
    exact ⟨hfree.1, hpassed hfree.2⟩
  · rw [htext, FileName.bytes_ofText_append, List.length_append] at hpath ⊢
    omega

end Store

end Groundplan

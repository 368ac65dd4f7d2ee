import Groundplan.Proofs.Block
import Groundplan.Proofs.Declaration.Collect
import Groundplan.Proofs.Declaration.Scan

/-!
# Extraction undoes the writing of a source

A source can be written as a list of declarations with one property block each (`Written`). What
extraction finds in it are these declarations, in order, each with its type and its body.

**The border of a block.** A written body holds no word `resource` in front of a blank, so the
search for the next declaration passes it (`untilDeclaration_append_of_quiet`), and it is balanced,
so the block is read up to the brace behind it (`Block.body?_of_isBody`).

**The border of a declaration.** Behind its first character a written declaration opens no other
declaration (`quiet_tail`), so both searches arrive at the next one.

Main result: `extract_writeAll`.
-/

namespace Groundplan.Declaration

open Text (IsWord IsBlankRun StartsNo)

/-! ## Written declarations -/

/-- A declaration with a property block, as a source can hold it. -/
structure Written where
  id : Text
  type : Text
  body : Text
  id_isIdentifier : IsIdentifier id
  type_ne_nil : type ≠ []
  type_plain : ∀ c ∈ type, c ≠ '\'' ∧ isBlank c = false
  body_isBody : Block.IsBody body
  body_quiet : ¬AtWordStart (startsWord · = true) false body

namespace Written

variable (w : Written)

/-- The declaration as text, closed by a newline. -/
def text : Text :=
  keyword ++ " " ++ w.id ++ " '" ++ w.type ++ "' = \x7b" ++ w.body ++ "\x7d\n"

/-- What stands behind the type. -/
def behind : Text := ([' ', '=', ' ', '\x7b'] : Text) ++ (w.body ++ (['\x7d', '\n'] : Text))

/-- What stands behind the first letter of the declaration. -/
def tail : Text :=
  (['e', 's', 'o', 'u', 'r', 'c', 'e'] : Text) ++
    (([' '] : Text) ++
      (w.id ++ (([' ', '\''] : Text) ++ (w.type ++ ((['\''] : Text) ++ w.behind)))))

theorem text_append (more : Text) :
    w.text ++ more =
      keyword ++ (([' '] : Text) ++ (w.id ++ (([' '] : Text) ++
        ↑ '\'' :: (w.type ++ ↑ '\'' :: (w.behind ++ more))))) := by
  simp only [text, behind, List.append_assoc]
  rfl

theorem text_eq_tail : w.text = ↑ 'r' :: w.tail := by
  simp only [text, tail, behind, List.append_assoc]
  rfl

theorem declares (more : Text) : Declares ⟨w.id, w.type⟩ (w.behind ++ more) (w.text ++ more) := by
  have hblank : IsBlankRun [' '] := by decide
  refine ⟨⟨[' '], [' '], hblank, w.id_isIdentifier, hblank, w.text_append more⟩, w.type_ne_nil, ?_⟩
  intro hq
  exact (w.type_plain _ hq).1 rfl

end Written

/-! ## Where no declaration opens -/

theorem brace_notMem_keyword : ↑ '\x7d' ∉ keyword := by decide

theorem quote_notMem_keyword : ↑ '\'' ∉ keyword := by decide

theorem exists_isBlank_of_startsWord {t : Text} (h : startsWord t = true) :
    ∃ c ∈ t, isBlank c = true := by
  rw [startsWord] at h
  split at h
  · next c r hr =>
    rw [Text.after?_eq_some_iff.1 hr]
    exact ⟨c, by simp, h⟩
  · cases h

namespace Written

variable (w : Written)

theorem wordGoesOn_behind (b : Bool) : wordGoesOn b w.behind = false := by
  rw [behind, wordGoesOn_append, wordGoesOn_append]
  rfl

/-- Behind its type a written declaration opens no declaration. -/
theorem quiet_behind (more : Text) : Quiet more false w.behind := by
  rw [behind, quiet_append, quiet_append]
  exact ⟨quiet_of_notMem (by decide),
    quiet_of_not_startsWord brace_notMem_keyword (by decide) w.body_quiet,
    quiet_of_notMem (by decide)⟩

/-- Behind its first letter a written declaration opens no declaration. -/
theorem quiet_tail (more : Text) : Quiet more true w.tail := by
  have htype : ¬AtWordStart (startsWord · = true) false w.type := by
    intro h
    obtain ⟨before, after, hsplit, -, hword⟩ := h
    obtain ⟨c, hc, hblank⟩ := exists_isBlank_of_startsWord hword
    have hplain := (w.type_plain c (by simp [hsplit, hc])).2
    rw [hblank] at hplain
    exact Bool.noConfusion hplain
  rw [tail, quiet_append]
  refine ⟨quiet_of_isWord (by decide), ?_⟩
  rw [quiet_append]
  refine ⟨quiet_of_notMem (by decide), ?_⟩
  rw [quiet_append]
  refine ⟨quiet_identifier (s := ([' '] : Text)) w.id_isIdentifier (by decide) _, ?_⟩
  rw [quiet_append]
  refine ⟨quiet_of_notMem (by decide), ?_⟩
  rw [quiet_append]
  refine ⟨quiet_of_not_startsWord quote_notMem_keyword isBlank_quote htype, ?_⟩
  rw [quiet_append]
  exact ⟨quiet_of_notMem (by decide), w.quiet_behind more⟩

theorem wordGoesOn_tail (b : Bool) : wordGoesOn b w.tail = false := by
  simp only [tail, wordGoesOn_append, wordGoesOn_behind]

/-! ## Searching a written declaration -/

/-- A written declaration is found, and the search goes on behind it. -/
theorem allFrom_text (more : Text) :
    allFrom false 0 (w.text ++ more) = ⟨w.id, w.type⟩ :: allFrom false 0 more := by
  rw [allFrom_of_header (header?_eq_some_iff.2 (w.declares more)),
    allFrom_append_of_quiet (w.quiet_behind more), wordGoesOn_behind]

/-- The block of a written declaration is found. -/
theorem firstBlockFrom?_text_self (more : Text) :
    firstBlockFrom? w.id false (w.text ++ more) =
      some (w.body ++ ↑ '\x7d' :: ↑ '\n' :: more) := by
  have hopen : openBlock? w.id (w.text ++ more) = some (w.body ++ ↑ '\x7d' :: ↑ '\n' :: more) := by
    rw [openBlock?_of_header w.id_isIdentifier (header?_eq_some_iff.2 (w.declares more)),
      if_pos rfl]
    simp [behind, afterBrace?, startsWord_cons_of_ne]
  rw [text_eq_tail, List.cons_append] at hopen ⊢
  exact firstBlockFrom?_of_openBlock hopen

/-- The search for the block of another identifier goes on behind a written declaration. -/
theorem firstBlockFrom?_text_of_ne {id : Text} (hid : IsIdentifier id) (hne : w.id ≠ id)
    (more : Text) : firstBlockFrom? id false (w.text ++ more) = firstBlockFrom? id false more := by
  have hopen : openBlock? id (w.text ++ more) = none := by
    rw [openBlock?_of_header hid (header?_eq_some_iff.2 (w.declares more)), if_neg hne]
  rw [text_eq_tail, List.cons_append] at hopen ⊢
  rw [firstBlockFrom?_cons_of_none fun _ => hopen]
  exact (firstBlockFrom?_append_of_quiet hid (w.quiet_tail more)).trans
    (by rw [wordGoesOn_tail])

/-- The block of a written declaration is read as its body. -/
theorem blockBody_text (more : Text) :
    blockBody (w.body ++ ↑ '\x7d' :: ↑ '\n' :: more) = w.body := by
  have hsegment : untilDeclaration false (w.body ++ ↑ '\x7d' :: ↑ '\n' :: more) =
      w.body ++ ↑ '\x7d' :: untilDeclaration false (↑ '\n' :: more) :=
    untilDeclaration_append_of_quiet Bool.noConfusion brace_notMem_keyword (by decide) w.body_quiet
  simp only [blockBody, hsegment, Block.body?_of_isBody w.body_isBody, Option.getD_some]

/-- The resource that a written declaration stands for. -/
def resource : Resource :=
  { id := w.id, type := w.type, properties := ∅, connections := [], body := some w.body }

end Written

/-! ## Written sources -/

/-- Written declarations one after the other. -/
def writeAll (ws : List Written) : Text := ws.flatMap Written.text

theorem all_writeAll (ws : List Written) :
    all (writeAll ws) = ws.map fun w => ⟨w.id, w.type⟩ := by
  rw [all]
  induction ws with
  | nil => rfl
  | cons w ws ih =>
    rw [writeAll, List.flatMap_cons, w.allFrom_text, List.map_cons]
    exact congrArg (⟨w.id, w.type⟩ :: ·) ih

/-- Every written identifier has the body that is written for it. -/
theorem body?_writeAll {ws : List Written} (h : (ws.map Written.id).Nodup) {w : Written}
    (hw : w ∈ ws) : body? (writeAll ws) w.id = some w.body := by
  have hblock : ∃ more : Text, firstBlockFrom? w.id false (writeAll ws) =
      some (w.body ++ ↑ '\x7d' :: ↑ '\n' :: more) := by
    induction ws with
    | nil => cases hw
    | cons v ws ih =>
      rw [List.map_cons, List.nodup_cons] at h
      rw [writeAll, List.flatMap_cons]
      rcases List.mem_cons.1 hw with rfl | hw
      · exact ⟨_, w.firstBlockFrom?_text_self _⟩
      · have hne : v.id ≠ w.id := fun heq => h.1 (heq ▸ List.mem_map_of_mem hw)
        rw [v.firstBlockFrom?_text_of_ne w.id_isIdentifier hne]
        exact ih h.2 hw
  obtain ⟨more, hblock⟩ := hblock
  rw [body?, hblock, Option.map_some, w.blockBody_text]

/-- **Extraction undoes writing**: from a source that is written with different identifiers, the
declared resources are extracted in order, each with its type and its body and nothing else. -/
theorem extract_writeAll (ws : List Written) (h : (ws.map Written.id).Nodup) :
    (ResourceSet.extract (writeAll ws)).entries = ws.map fun w => (w.id, w.resource) := by
  have htyped : ∀ d ∈ ws.map fun w => (⟨w.id, w.type⟩ : Declaration), d.isTyped = true := by
    intro d hd
    obtain ⟨w, -, rfl⟩ := List.mem_map.1 hd
    have htrim := Text.trim_eq_self fun c hc => (w.type_plain c hc).2
    simp [isTyped, htrim, w.type_ne_nil]
  have hids : ((ws.map fun w => (⟨w.id, w.type⟩ : Declaration)).map Declaration.id).Nodup := by
    rw [List.map_map]
    exact h
  rw [ResourceSet.extract, OrderedMap.entries_mapValues, all_writeAll,
    ResourceSet.entries_foldl_declare htyped hids (by simp), OrderedMap.entries_empty,
    List.nil_append, List.map_map, List.map_map]
  refine List.map_congr_left fun w hw => ?_
  have hbody := body?_writeAll h hw
  simp only [Function.comp_apply, hbody]
  rfl

/-- A declaration whose body has braces in a string and in a comment, an escaped quote and an
apostrophe in a comment. -/
def Written.disk : Written where
  id := "disk"
  type := "Store/disks@1"
  body := "a: '\x7d\\'\x7b' // it's a \x7d\n b: \x7b \x7d"
  id_isIdentifier := by decide
  type_ne_nil := by decide
  type_plain := Text.forall_mem_of_all (by decide)
  body_isBody := ⟨[.other 'a', .other ':', .other ' ', .quoted '\'' "\x7d\\'\x7b", .other ' ',
    .lineComment " it's a \x7d", .other '\n', .other ' ', .other 'b', .other ':', .other ' ',
    .openBrace, .other ' ', .closeBrace], by decide, by decide, rfl⟩
  body_quiet := by decide

/-- A declaration whose identifier is the word that starts declarations. -/
def Written.site : Written where
  id := "resource"
  type := "Web/sites"
  body := "/* \x7b */resources: \"disk\""
  id_isIdentifier := by decide
  type_ne_nil := by decide
  type_plain := Text.forall_mem_of_all (by decide)
  body_isBody := ⟨[.blockComment " \x7b ", .other 'r', .other 'e', .other 's', .other 'o',
    .other 'u', .other 'r', .other 'c', .other 'e', .other 's', .other ':', .other ' ',
    .quoted '"' "disk"], by decide, by decide, rfl⟩
  body_quiet := by decide

theorem extract_writeAll_disk_site :
    ([Written.disk, Written.site].map Written.id).Nodup ∧
      (ResourceSet.extract (writeAll [Written.disk, Written.site])).entries =
        [(("disk" : Text), Written.disk.resource), (("resource" : Text), Written.site.resource)]
          := by
  have hnodup : ([Written.disk, Written.site].map Written.id).Nodup := by decide
  exact ⟨hnodup, extract_writeAll _ hnodup⟩

end Groundplan.Declaration

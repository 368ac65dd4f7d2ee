import Groundplan.Proofs.Flowchart.Drawing
import Groundplan.Proofs.Validation

/-!
# What validated keys draw

**Identifiers.** A key passes when it is a full identifier, and also when one newline stands behind
one (`isId_iff`). Nothing else that validation finds is an error, so the sets without errors are
those whose keys pass (`errors_eq_nil_iff`).

**Lines.** A drawing has one line for its header, for each node, for each edge and for its end, and
one more for every newline in a key that it writes (`length_lines_draw`). So each node and each edge
has one line exactly when no key holds a newline (`length_lines_draw_eq_iff`).

Main result: `drawing_of_valid_keys`.
-/

namespace Groundplan

/-! ## Identifiers -/

namespace Flowchart

/-- A letter from `A` to `Z`, in either case, or an underscore, and then such characters and digits
only. -/
def IsFullId (t : Text) : Prop :=
  ∃ c r, t = c :: r ∧ isIdStart c = true ∧ ∀ d ∈ r, isIdChar d = true

variable {t : Text}

theorem IsFullId.newline_notMem (h : IsFullId t) : ↑ '\n' ∉ t := by
  obtain ⟨c, r, rfl, hc, hr⟩ := h
  rw [List.mem_cons, not_or]
  constructor
  · rintro rfl
    exact absurd hc (by decide)
  · exact fun hmem => absurd (hr '\n' hmem) (by decide)

/-- **A text passes when it is a full identifier, or one with a newline behind it.** -/
theorem isId_iff : isId t = true ↔ IsFullId t ∨ ∃ id, IsFullId id ∧ t = id ++ (['\n'] : Text) := by
  constructor
  · intro h
    cases t with
    | nil => cases h
    | cons c r =>
      by_cases hlast : r.getLast? = some ↑ '\n'
      · obtain ⟨front, rfl⟩ := List.getLast?_eq_some_iff.1 hlast
        rw [isId, if_pos hlast, List.dropLast_concat, Bool.and_eq_true] at h
        exact .inr ⟨c :: front, ⟨c, front, rfl, h.1, List.all_eq_true.1 h.2⟩, rfl⟩
      · rw [isId, if_neg hlast, Bool.and_eq_true] at h
        exact .inl ⟨c, r, rfl, h.1, List.all_eq_true.1 h.2⟩
  · rintro (h | ⟨id, h, rfl⟩)
    · have hnewline := h.newline_notMem
      obtain ⟨c, r, rfl, hc, hr⟩ := h
      have hlast : r.getLast? ≠ some ↑ '\n' :=
        fun hlast => hnewline (List.mem_cons_of_mem c (List.mem_of_getLast? hlast))
      rw [isId, if_neg hlast, Bool.and_eq_true]
      exact ⟨hc, List.all_eq_true.2 hr⟩
    · obtain ⟨c, r, rfl, hc, hr⟩ := h
      rw [List.cons_append, isId, if_pos (List.getLast?_concat ..), List.dropLast_concat,
        Bool.and_eq_true]
      exact ⟨hc, List.all_eq_true.2 hr⟩

theorem isFullId_of_isId (h : isId t = true) (hnewline : ↑ '\n' ∉ t) : IsFullId t := by
  rcases isId_iff.1 h with hid | ⟨id, -, rfl⟩
  · exact hid
  · exact absurd (List.mem_append_right id List.mem_cons_self) hnewline

end Flowchart

/-! ## Errors -/

namespace ResourceSet

variable {rs : ResourceSet} {services : List Text} {issue : Issue}

/-- Where the keys pass, everything that is found is a warning. -/
theorem severity_of_mem_findings (h : ∀ key ∈ rs.keys, Flowchart.isId key = true)
    (hissue : issue ∈ rs.findings services true) : issue.severity = .warning := by
  rw [findings] at hissue
  split at hissue
  · rw [List.mem_singleton.1 hissue]
    rfl
  · rcases List.mem_append.1 hissue with hissue | hissue
    · obtain ⟨p, hp, hissue⟩ := List.mem_flatMap.1 hissue
      rcases mem_resourceFindings.1 hissue with ⟨hid, -⟩ | ⟨-, rfl⟩ | ⟨target, -, rfl⟩
      · rw [h p.1 (List.mem_map_of_mem hp)] at hid
        cases hid
      · rfl
      · rfl
    · split at hissue
      · rcases cases_of_mem_serviceFindings hissue with ⟨service, rfl⟩ | ⟨key, tag, rfl⟩
        · rfl
        · rfl
      · cases hissue

/-- **A set is without errors exactly when its keys pass.** -/
theorem errors_eq_nil_iff : (rs.validate services).errors = [] ↔
    ∀ key ∈ rs.keys, Flowchart.isId key = true := by
  constructor
  · exact fun h key hkey => isId_of_errors_eq_nil h hkey
  · intro h
    refine messages_eq_nil_iff.2 fun issue hissue herror => ?_
    rw [issues_default] at hissue
    rw [severity_of_mem_findings h hissue] at herror
    cases herror

end ResourceSet

/-! ## Lines -/

namespace Flowchart

open ResourceSet (linkedPairs)

variable {s : Settings} {rs : ResourceSet} {key label source target : Text}

theorem count_nodeLine (h : ↑ '\n' ∉ label) :
    (nodeLine key label).count ↑ '\n' = key.count ↑ '\n' := by
  simp [nodeLine_eq, List.count_append, List.count_eq_zero.2 h]

theorem count_edgeLine (source target : Text) :
    (edgeLine source target).count ↑ '\n' = source.count ↑ '\n' + target.count ↑ '\n' := by
  simp [edgeLine_eq, List.count_append]

/-- A text that is made of lines has the newlines in them and one behind each. -/
theorem count_join_append {ls : List Text} (hne : ls ≠ []) :
    (Text.join ['\n'] ls ++ (['\n'] : Text)).count ↑ '\n' =
      ls.length + ls.flatten.count ↑ '\n' := by
  induction ls with
  | nil => exact absurd rfl hne
  | cons a ls ih =>
    rw [Text.join_cons_append, List.count_append, List.count_cons_self, List.length_cons,
      List.flatten_cons, List.count_append]
    by_cases hls : ls = []
    · subst hls
      simp
      omega
    · rw [if_neg hls, ih hls]
      omega

/-- **A drawing has a line for its header, for each node, for each edge and for its end, and one
more for each newline in a key that it writes.** -/
theorem length_lines_draw (s : Settings) (rs : ResourceSet) (h : rs.Keyed) :
    (Text.lines (draw s rs)).length = 2 + rs.keys.length + (linkedPairs s rs).length +
      rs.keys.flatten.count ↑ '\n' +
      ((linkedPairs s rs).flatMap fun (a, b) => a ++ b).count ↑ '\n' := by
  have hnodes : (nodeLines rs).flatten.count ↑ '\n' = rs.keys.flatten.count ↑ '\n' := by
    rw [List.count_flatten, List.count_flatten, nodeLines, OrderedMap.keys, List.map_map,
      List.map_map]
    refine congrArg List.sum (List.map_congr_left fun p _ => ?_)
    exact count_nodeLine (newline_notMem_label p.2)
  have hedges : (edgeLines s rs).flatten.count ↑ '\n' =
      ((linkedPairs s rs).flatMap fun (a, b) => a ++ b).count ↑ '\n' := by
    rw [edgeLines, List.count_flatten, List.count_flatMap, List.map_map]
    refine congrArg List.sum (List.map_congr_left fun p _ => ?_)
    exact (count_edgeLine p.1 p.2).trans List.count_append.symm
  have hlines : lines s rs = header :: (nodeLines rs ++ edgeLines s rs) := by
    rw [lines, edges_eq_linkedPairs h]
    rfl
  have hheader : header.count ↑ '\n' = 0 := by decide
  have hsize : (nodeLines rs).length = rs.keys.length := by simp [nodeLines, OrderedMap.keys]
  have hdrawn : (edgeLines s rs).length = (linkedPairs s rs).length := List.length_map ..
  rw [Text.length_lines, draw, hlines, count_join_append (List.cons_ne_nil _ _), List.flatten_cons,
    List.flatten_append, List.count_append, List.count_append, hnodes, hedges, hheader,
    List.length_cons, List.length_append, hsize, hdrawn]
  omega

/-- Each node and each edge has one line exactly when no key holds a newline. -/
theorem length_lines_draw_eq_iff (h : rs.Keyed) :
    (Text.lines (draw s rs)).length = 2 + rs.keys.length + (linkedPairs s rs).length ↔
      ∀ key ∈ rs.keys, ↑ '\n' ∉ key := by
  have hkeys : rs.keys.flatten.count ↑ '\n' = 0 ↔ ∀ key ∈ rs.keys, ↑ '\n' ∉ key := by
    rw [List.count_eq_zero, List.mem_flatten]
    push Not
    rfl
  have hlength := length_lines_draw s rs h
  constructor
  · intro heq
    exact hkeys.1 (by omega)
  · intro hfree
    rw [lines_draw_of_keyed h hfree]
    simp [nodeLines, edgeLines, OrderedMap.keys]
    omega

/-- **What validated keys draw.** A set is without errors exactly when every key is a full
identifier, or one with a newline behind it. Without errors, and if no key ends with a newline,
every key is a full identifier, and the drawing has one line for each node and one for each edge
besides the header and the empty line at its end. A drawing has one more line for each newline in a
key that it writes, so those lines are all exactly when no key holds a newline. -/
theorem drawing_of_valid_keys (s : Settings) (rs : ResourceSet) (services : List Text)
    (h : rs.Keyed) :
    ((rs.validate services).errors = [] ↔
        ∀ key ∈ rs.keys, IsFullId key ∨ ∃ id, IsFullId id ∧ key = id ++ (['\n'] : Text)) ∧
      ((rs.validate services).errors = [] → (∀ key ∈ rs.keys, key.getLast? ≠ some ↑ '\n') →
        (∀ key ∈ rs.keys, IsFullId key) ∧
          Text.lines (draw s rs) =
            header :: (rs.entries.map (fun (key, r) => nodeLine key r.label) ++
              (linkedPairs s rs).map fun (a, b) => edgeLine a b) ++ [[]]) ∧
      (Text.lines (draw s rs)).length = 2 + rs.keys.length + (linkedPairs s rs).length +
        rs.keys.flatten.count ↑ '\n' +
        ((linkedPairs s rs).flatMap fun (a, b) => a ++ b).count ↑ '\n' ∧
      ((Text.lines (draw s rs)).length = 2 + rs.keys.length + (linkedPairs s rs).length ↔
        ∀ key ∈ rs.keys, ↑ '\n' ∉ key) := by
  refine ⟨?_, ?_, length_lines_draw s rs h, length_lines_draw_eq_iff h⟩
  · rw [ResourceSet.errors_eq_nil_iff]
    exact forall₂_congr fun _ _ => isId_iff
  · intro herrors hlast
    have hids : ∀ key ∈ rs.keys, IsFullId key := by
      intro key hkey
      rcases isId_iff.1 (ResourceSet.isId_of_errors_eq_nil herrors hkey) with hid | ⟨id, -, rfl⟩
      · exact hid
      · exact absurd (List.getLast?_concat ..) (hlast _ hkey)
    exact ⟨hids, lines_draw_of_keyed h fun key hkey => (hids key hkey).newline_notMem⟩

/-- A site that refers to a store. -/
def linkedSite : ResourceSet where
  entries := [
    ("site", { id := "site", type := "Web/sites", body := some "store_1.id" }),
    ("store_1", { id := "store_1", type := "Store" })]
  distinct := by decide

/-- One resource, with a newline at the end of its key. -/
def trailingNewline : ResourceSet where
  entries := [("a\n", { id := "a\n", type := "T", body := some [] })]
  distinct := by decide

theorem drawing_of_valid_keys_linkedSite :
    linkedSite.Keyed ∧ (linkedSite.validate []).errors = [] ∧
      (∀ key ∈ linkedSite.keys, key.getLast? ≠ some ↑ '\n') ∧
      (∀ key ∈ linkedSite.keys, IsFullId key) ∧
      (Text.lines (draw {} linkedSite)).length = 2 + 2 + 1 ∧
      trailingNewline.Keyed ∧ (Text.lines (draw {} trailingNewline)).length = 2 + 1 + 0 + 1 := by
  have hkeyed : linkedSite.Keyed := by decide
  have herrors : (linkedSite.validate []).errors = [] := by decide +kernel
  have hlast : ∀ key ∈ linkedSite.keys, key.getLast? ≠ some ↑ '\n' := by decide
  have htrailing : trailingNewline.Keyed := by decide
  obtain ⟨-, hvalid, hlength, -⟩ := drawing_of_valid_keys {} linkedSite [] hkeyed
  obtain ⟨-, -, hbroken, -⟩ := drawing_of_valid_keys {} trailingNewline [] htrailing
  have hcount : 2 + linkedSite.keys.length + (linkedPairs {} linkedSite).length +
      linkedSite.keys.flatten.count ↑ '\n' +
      ((linkedPairs {} linkedSite).flatMap fun (a, b) => a ++ b).count ↑ '\n' =
      2 + 2 + 1 := by decide +kernel
  have hcountBroken : 2 + trailingNewline.keys.length + (linkedPairs {} trailingNewline).length +
      trailingNewline.keys.flatten.count ↑ '\n' +
      ((linkedPairs {} trailingNewline).flatMap fun (a, b) => a ++ b).count ↑ '\n' =
      2 + 1 + 0 + 1 := by decide +kernel
  exact ⟨hkeyed, herrors, hlast, (hvalid herrors hlast).1, hlength.trans hcount, htrailing,
    hbroken.trans hcountBroken⟩

/-- A newline at the end of a key passes validation and breaks the line of its node. -/
theorem newline_key_is_drawn :
    trailingNewline.Keyed ∧ (trailingNewline.validate []).errors = [] ∧
      ¬(∀ key ∈ trailingNewline.keys, IsFullId key) ∧
      (Text.lines (draw {} trailingNewline)).length ≠
        2 + trailingNewline.keys.length + (linkedPairs {} trailingNewline).length := by
  refine ⟨by decide, by decide +kernel, ?_, by decide +kernel⟩
  intro hids
  exact (hids ("a\n" : Text) (by decide)).newline_notMem (by decide)

end Flowchart

end Groundplan

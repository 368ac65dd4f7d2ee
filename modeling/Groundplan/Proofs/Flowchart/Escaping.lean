import Groundplan.Proofs.Flowchart.Label
import Groundplan.Proofs.Text.Spaced

/-!
# Escaping as a code

**Prefix code.** Every code starts with `#` and none is the beginning of another
(`code_prefixFree`). So a text without `#` can be told from what it is coded as
(`flatMap_code_injective`).

**Idempotence.** A coded text has chunks where the text has chunks, since no code holds a blank
(`encode_join`), so escaped text is spaced (`isSpaced_escape`). It holds no character that has a
code, and without an ampersand nothing is decoded again (`escape_escape`).

**Lines.** The lines of a label are read back between its breaks (`cut_ofLines`).

Main result: `escape_is_code`.
-/

namespace Groundplan.Label

open Text (join chunks IsChunk IsSpaced)

variable {a b c : CodePoint} {t u x y : Text}

/-! ## Codes of characters -/

/-- A character has an entry of its own, or it stands for itself. -/
theorem code_cases (c : CodePoint) : (c, code c) ∈ codes ∨ code c = [c] := by
  by_cases hc : c ∈ codes.map Prod.fst
  · have hentries : ∀ p ∈ codes, (p.1, code p.1) ∈ codes := by decide
    obtain ⟨p, hp, rfl⟩ := List.mem_map.1 hc
    exact .inl (hentries p hp)
  · exact .inr (codeIn_of_notMem hc)

theorem code_ne_nil (c : CodePoint) : code c ≠ [] := by
  have hfilled : ∀ p ∈ codes, p.2 ≠ [] := by decide
  rcases code_cases c with hcode | hself
  · exact hfilled _ hcode
  · rw [hself]
    exact List.cons_ne_nil c []

/-- **No code is the beginning of another.** -/
theorem code_prefixFree (ha : a ≠ '#') (hb : b ≠ '#') (h : code a <+: code b) : a = b := by
  have hfree : ∀ p ∈ codes, ∀ q ∈ codes, p.2 <+: q.2 → p = q := by decide
  have hhash : ∀ p ∈ codes, p.2.head? = some ↑ '#' := by decide
  have hhead : (code a).head? = (code b).head? := by
    obtain ⟨rest, hrest⟩ := h
    rw [← hrest, List.head?_append_of_ne_nil _ (code_ne_nil a)]
  rcases code_cases a with hacode | haself
  · have hahash : (code a).head? = some ↑ '#' := hhash _ hacode
    rcases code_cases b with hbcode | hbself
    · exact congrArg Prod.fst (hfree _ hacode _ hbcode h)
    · rw [hahash, hbself] at hhead
      exact absurd (Option.some.inj hhead).symm hb
  · rcases code_cases b with hbcode | hbself
    · have hbhash : (code b).head? = some ↑ '#' := hhash _ hbcode
      rw [haself, hbhash] at hhead
      exact absurd (Option.some.inj hhead) ha
    · rw [haself, hbself] at hhead
      exact Option.some.inj hhead

theorem code_append_inj (ha : a ≠ '#') (hb : b ≠ '#') (h : code a ++ x = code b ++ y) :
    a = b ∧ x = y := by
  have hab : a = b := by
    rcases List.prefix_or_prefix_of_prefix (List.prefix_append (code a) x)
      (h ▸ List.prefix_append (code b) y) with hprefix | hprefix
    · exact code_prefixFree ha hb hprefix
    · exact (code_prefixFree hb ha hprefix).symm
  subst hab
  exact ⟨rfl, List.append_cancel_left h⟩

/-- Texts without `#` are told apart by their codes. -/
theorem flatMap_code_injective (ht : ↑ '#' ∉ t) (hu : ↑ '#' ∉ u)
    (h : t.flatMap code = u.flatMap code) : t = u := by
  induction t generalizing u with
  | nil =>
    cases u with
    | nil => rfl
    | cons b u => exact absurd (List.append_eq_nil_iff.1 h.symm).1 (code_ne_nil b)
  | cons a t ih =>
    cases u with
    | nil => exact absurd (List.append_eq_nil_iff.1 h).1 (code_ne_nil a)
    | cons b u =>
      rw [List.mem_cons, not_or] at ht hu
      rw [List.flatMap_cons, List.flatMap_cons] at h
      obtain ⟨rfl, hrest⟩ := code_append_inj (Ne.symm ht.1) (Ne.symm hu.1) h
      rw [ih ht.2 hu.2 hrest]

/-! ## Chunks -/

theorem isBlank_eq_false_of_mem_code (h : isBlank a = false) (hc : c ∈ code a) :
    isBlank c = false := by
  have hsolid : ∀ p ∈ codes, p.2.any isBlank = false := by decide
  rcases code_cases a with hcode | hself
  · exact Bool.eq_false_iff.2 (List.any_eq_false.1 (hsolid _ hcode) c hc)
  · rw [hself, List.mem_singleton] at hc
    exact hc ▸ h

/-- What a chunk is coded as is a chunk. -/
theorem isChunk_encode (h : IsChunk t) : IsChunk (encode t) := by
  obtain ⟨hne, hsolid⟩ := h
  rw [encode_eq_flatMap]
  constructor
  · cases t with
    | nil => exact absurd rfl hne
    | cons a t => exact List.append_ne_nil_of_left_ne_nil (code_ne_nil a) _
  · intro c hc
    obtain ⟨a, ha, hc⟩ := List.mem_flatMap.1 hc
    exact isBlank_eq_false_of_mem_code (hsolid a ha) hc

/-- The chunks of a text are coded one by one. -/
theorem encode_join (ws : List Text) : encode (join [' '] ws) = join [' '] (ws.map encode) := by
  induction ws with
  | nil => rfl
  | cons a ws ih =>
    cases ws with
    | nil => simp
    | cons b ws =>
      have hspace : ([' '] : Text).flatMap code = ([' '] : Text) := rfl
      rw [Text.join_cons_cons, List.map_cons, List.map_cons, Text.join_cons_cons, ← List.map_cons,
        ← ih]
      simp only [encode_eq_flatMap, List.flatMap_append, hspace]

/-- Normal text is the chunks of the decoded text, with one space between neighbours. -/
theorem normalize_eq (t : Text) : normalize t = join [' '] (chunks (CharRef.decode t)) :=
  Text.trim_collapse _

/-- Escaped text is made of chunks with one space between neighbours. -/
theorem exists_escape_eq (t : Text) :
    ∃ ws, escape t = join [' '] ws ∧ ∀ w ∈ ws, IsChunk w := by
  refine ⟨(chunks (CharRef.decode t)).map encode, ?_, ?_⟩
  · rw [escape, normalize_eq, encode_join]
  · intro w hw
    obtain ⟨v, hv, rfl⟩ := List.mem_map.1 hw
    exact isChunk_encode (Text.isChunk_of_mem_chunks hv)

theorem isSpaced_escape (t : Text) : IsSpaced (escape t) := by
  obtain ⟨ws, hescape, hws⟩ := exists_escape_eq t
  rw [hescape]
  exact Text.isSpaced_join hws

/-! ## Escaping again -/

theorem notMem_escape (hc : c ∈ codes.map Prod.fst) (t : Text) : c ∉ escape t :=
  (isPlain_escape t).notMem (by rw [isMarkup, List.contains_iff_mem.2 hc, Bool.true_or])

/-- **Nothing is escaped or decoded twice.** -/
theorem escape_escape (t : Text) : escape (escape t) = escape t := by
  have hdecode : CharRef.decode (escape t) = escape t :=
    CharRef.decode_eq_self (notMem_escape (by decide) t)
  have hnormal : normalize (escape t) = escape t := by
    obtain ⟨ws, hescape, hws⟩ := exists_escape_eq t
    rw [normalize_eq, hdecode, hescape, Text.chunks_join hws]
  have hcodes : ∀ p ∈ codes, p.1 ∉ escape t :=
    fun p hp => notMem_escape (List.mem_map_of_mem hp) t
  have hencode : encode (escape t) = escape t := by
    rw [encode_eq_flatMap]
    exact flatMap_codeIn_of_notMem hcodes
  calc escape (escape t) = encode (normalize (escape t)) := rfl
    _ = escape t := by rw [hnormal, hencode]

/-! ## Lines of a label -/

/-- **The lines of a label are read back between its breaks.** -/
theorem cut_ofLines {ts : List Text} (h : ∃ line ∈ ts, line ≠ []) :
    Text.cut lineBreak (ofLines ts) = (ts.filter fun line => !line.isEmpty).map escape := by
  have hbreak : lineBreak = ↑ '<' :: ['b', 'r', '/', '>'] := rfl
  have hne : (ts.filter fun line => !line.isEmpty).map escape ≠ [] := by
    obtain ⟨line, hline, hfilled⟩ := h
    rw [Ne, List.map_eq_nil_iff, List.filter_eq_nil_iff]
    exact fun hempty => hempty line hline (by simp [hfilled])
  have hopen : ∀ piece ∈ (ts.filter fun line => !line.isEmpty).map escape, ↑ '<' ∉ piece := by
    intro piece hpiece
    obtain ⟨line, -, rfl⟩ := List.mem_map.1 hpiece
    exact notMem_escape (by decide) line
  rw [ofLines, hbreak]
  exact Text.cut_join hne hopen

/-- **Escaping is a code of the characters.** Normal text is the decoded text with its runs of
blanks made one space and its ends trimmed. Escaping writes a code for each of its characters and
nothing else: five characters have a code of their own, all others stand for themselves. The result
holds none of the five, is spaced, and is its own escaped text. Normal texts without `#` that are
escaped in the same way are equal. The breaks of a label tell its lines apart. -/
theorem escape_is_code (t u : Text) (ts : List Text) :
    normalize t = join [' '] (chunks (CharRef.decode t)) ∧
      escape t = (normalize t).flatMap code ∧
      ['&', '<', '>', '"', '|'].map code =
        [("#amp;" : Text), ("#lt;" : Text), ("#gt;" : Text), ("#quot;" : Text), ("#124;" : Text)] ∧
      (∀ c, c ∉ (['&', '<', '>', '"', '|'] : Text) → code c = [c]) ∧
      (∀ c ∈ (['&', '<', '>', '"', '|'] : Text), c ∉ escape t) ∧
      IsSpaced (escape t) ∧
      escape (escape t) = escape t ∧
      (↑ '#' ∉ normalize t → ↑ '#' ∉ normalize u → escape t = escape u →
        normalize t = normalize u) ∧
      ((∃ line ∈ ts, line ≠ []) →
        Text.cut "<br/>" (ofLines ts) = (ts.filter fun line => !line.isEmpty).map escape) := by
  refine ⟨normalize_eq t, encode_eq_flatMap _, by decide, fun c hc => codeIn_of_notMem hc,
    fun c hc => notMem_escape hc t, isSpaced_escape t, escape_escape t, ?_, cut_ofLines⟩
  intro ht hu h
  rw [escape, escape, encode_eq_flatMap, encode_eq_flatMap] at h
  exact flatMap_code_injective ht hu h

/-- A text with a tag, quotes and a line end. -/
def quoted : Text := " say \"hi\"\n&#60;b>"

/-- The same text, spaced and written otherwise. -/
def respaced : Text := "say &#x22;hi&#34;\t <b>  "

theorem escape_is_code_quoted :
    ↑ '#' ∉ normalize quoted ∧ ↑ '#' ∉ normalize respaced ∧ escape quoted = escape respaced ∧
      normalize quoted = normalize respaced ∧ escape (escape quoted) = escape quoted ∧
      Text.cut "<br/>" (ofLines [quoted, [], " ", "x"]) = [escape quoted, [], ("x" : Text)] := by
  have hquoted : ↑ '#' ∉ normalize quoted := by decide +kernel
  have hrespaced : ↑ '#' ∉ normalize respaced := by decide +kernel
  have hsame : escape quoted = escape respaced := by decide +kernel
  obtain ⟨-, -, -, -, -, -, htwice, hnormal, hlines⟩ :=
    escape_is_code quoted respaced [quoted, [], " ", "x"]
  have hcut := hlines ⟨" ", by simp, by decide⟩
  exact ⟨hquoted, hrespaced, hsame, hnormal hquoted hrespaced hsame, htwice,
    hcut.trans (by decide +kernel)⟩

end Groundplan.Label

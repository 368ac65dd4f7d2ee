import Groundplan.Proofs.Artifact.Run
import Groundplan.Proofs.Readme.Once
import Groundplan.Proofs.Readme.Placement

/-!
# A README links to no missing image

**Links.** The section of a diagram links to its image above the fence, or it has no link
(`showsImage_sectionText`, `not_showsImage_of_showsSource`).

**Insertion.** A README that is rewritten gets the section for what the renderer has answered
(`insertInto_of_image`, `exists_image_of_insertInto`). If that was a name, rendering has put a file
with this name into the image directory beside the README, where there was none before
(`image_is_new`), and rewriting the README does not take it away.

Main result: `links_to_no_missing_image`.
-/

namespace Groundplan

open Session Store

namespace Session

variable {path : Path} {w : Workspace} {t : Text}

theorem after_readText (path : Path) (w : Workspace) : (readText path).after w = w := by
  rw [readText, after_bind, readBytes, after_ask]
  cases (ask path Store.read).answer w with
  | error e => rfl
  | ok bytes =>
    dsimp only
    cases Utf8.decode bytes <;> rfl

theorem after_readText?_of_some (h : (readText? path).answer w = .ok (some t)) :
    (readText? path).after w = w := by
  rw [answer_readText?_eq_some_iff] at h
  rw [readText?, after_recover, answer_map, h, after_map, after_readText]
  rfl

end Session

namespace Readme

open Artifact

variable {s : Settings} {readme : Path} {diagram content name link : Text} {shown : Option Text}
variable {w : Workspace}

/-! ## Links -/

/-- The section shows an image with a link, over the diagram that is folded away. -/
def ShowsImage (diagram link body : Text) : Prop :=
  body = "\n![" ++ title ++ "](" ++ link ++ ")\n\n" ++
    "<details>\n<summary>Mermaid source</summary>\n\n" ++ fenced diagram ++ "\n</details>\n" ++
    "\n" ++ note ++ "\n\n"

/-- The section shows the diagram only. -/
def ShowsSource (diagram body : Text) : Prop :=
  body = "\n" ++ fenced diagram ++ "\n" ++ note ++ "\n\n"

theorem showsSource_sectionText (diagram imagesDir : Text) :
    ShowsSource diagram (sectionText diagram none imagesDir) := rfl

theorem showsImage_sectionText (hname : name ≠ []) (diagram imagesDir : Text) :
    ShowsImage diagram (imagesDir ++ "/" ++ name) (sectionText diagram (some name) imagesDir) := by
  have hfilter : (some name).filter (fun name => !name.isEmpty) = some name := by
    simp [Option.filter, hname]
  have hopen : ("\n![" : Text) = "\n" ++ "![" := rfl
  unfold ShowsImage sectionText withImage
  rw [hfilter, hopen]
  simp only [List.append_assoc]

theorem ShowsImage.link_eq {link' body : Text} (h : ShowsImage diagram link body)
    (h' : ShowsImage diagram link' body) : link = link' := by
  rw [h, ShowsImage] at h'
  simp only [List.append_assoc, List.append_cancel_left_eq] at h'
  exact List.append_cancel_right h'

theorem not_showsImage_of_showsSource {body : Text} (h : ShowsSource diagram body) :
    ¬ShowsImage diagram link body := by
  intro h'
  rw [h, ShowsImage, fenced] at h'
  have hopen : ("\n![" : Text) = "\n" ++ "![" := rfl
  simp only [hopen, List.append_assoc, List.append_cancel_left_eq] at h'
  have hfirst : fenceOpen.head? = some ↑ '!' := congrArg List.head? h'
  exact absurd hfirst (by decide)

/-! ## Encoding -/

theorem encodable_of_answer_readText (h : (readText readme).answer w = .ok content) :
    Utf8.Encodable content := by
  obtain ⟨bytes, t, -, hdecode, rfl⟩ := answer_readText_eq_ok_iff.1 h
  have hread := Utf8.encodable_iff.1 (Utf8.encodable_of_decodeFrom hdecode)
  refine Utf8.encodable_iff.2 fun c hc => ?_
  rcases Text.mem_universalNewlines hc with hc | rfl
  · exact hread c hc
  · rfl

theorem encodable_withoutNewlines {t : Text} :
    Utf8.Encodable (withoutNewlines t) ↔ Utf8.Encodable t := by
  rw [Utf8.encodable_iff, Utf8.encodable_iff]
  constructor
  · intro h c hc
    by_cases hnewline : c = ↑ '\n'
    · rw [hnewline]
      rfl
    · exact h c (List.mem_filter.2 ⟨hc, by simpa using hnewline⟩)
  · exact fun h c hc => h c (List.mem_filter.1 hc).1

/-- The section of a diagram without an image adds no lone surrogates to it. -/
theorem encodable_sectionText (h : Utf8.Encodable diagram) (imagesDir : Text) :
    Utf8.Encodable (sectionText diagram none imagesDir) := by
  have htrimmed : Utf8.Encodable (Text.trimEnd diagram) :=
    h.of_subset (Text.prefix_dropEnd _ diagram).subset
  have hparts : sectionText diagram none imagesDir = ("\n" ++ fenceOpen ++ "\n" : Text) ++
      (Text.trimEnd diagram ++ ("\n" ++ fenceClose ++ "\n" ++ "\n" ++ note ++ "\n\n" : Text)) := by
    simp [sectionText, fenced]
  have hopen : Utf8.Encodable ("\n" ++ fenceOpen ++ "\n" : Text) := by decide
  have hclose : Utf8.Encodable ("\n" ++ fenceClose ++ "\n" ++ "\n" ++ note ++ "\n\n" : Text) := by
    decide
  rw [hparts]
  exact Utf8.encodable_append.2 ⟨hopen, Utf8.encodable_append.2 ⟨htrimmed, hclose⟩⟩

/-- A document with a diagram in it can be encoded where both can. -/
theorem encodable_insert? {text imagesDir : Text} (hcontent : Utf8.Encodable content)
    (hdiagram : Utf8.Encodable diagram)
    (h : insert? content diagram none imagesDir = some text) : Utf8.Encodable text := by
  have hnone : hasDiagram content = false := by
    rw [← Bool.not_eq_true]
    intro hdiagram
    rw [insert?_eq_none_iff.2 hdiagram] at h
    cases h
  obtain ⟨front, back, run, hsplices, hinsert⟩ := exists_splices hnone diagram none imagesDir
  obtain rfl := Option.some.inj (h.symm.trans hinsert)
  have hsection := encodable_sectionText hdiagram imagesDir
  have hrun : Utf8.Encodable run := by
    have hmem := hsplices.run_mem
    simp only [List.mem_cons, List.not_mem_nil, or_false] at hmem
    rcases hmem with rfl | rfl | rfl
    · exact hsection
    · exact Utf8.encodable_append.2 ⟨by decide, hsection⟩
    · have hbody := hsection.of_subset (Text.prefix_dropEnd (· == '\n') _).subset
      simp only [Utf8.encodable_append]
      exact ⟨⟨⟨by decide, by decide⟩, hbody⟩, by decide⟩
  -- Around the run stands the document, but for newlines.
  have haround : Utf8.Encodable (unlines front ++
      (Text.join ['\n'] back).dropWhile (· == ↑ '\n')) := by
    rw [← encodable_withoutNewlines, withoutNewlines_splice hsplices.lines_eq,
      encodable_withoutNewlines]
    exact hcontent
  rw [Utf8.encodable_append] at haround
  rw [Utf8.encodable_append, Utf8.encodable_append]
  exact ⟨haround.1, hrun, haround.2⟩

/-! ## Rewriting -/

/-- A README that has no diagram is rewritten with what the renderer has answered, if the new text
can be encoded. -/
theorem insertInto_of_image (hread : (readText readme).answer w = .ok content)
    (hnone : hasDiagram content = false)
    (hshown : (renderBeside s diagram readme).answer w = .ok shown) :
    ∃ text, insert? content diagram shown s.imagesDir = some text ∧
      ((insertInto s true readme diagram).after w).store.read w.here readme =
        .ok (Utf8.written text) ∧
      KeepsKinds ((renderBeside s diagram readme).after w).store
        ((insertInto s true readme diagram).after w).store ∧
      ((insertInto s true readme diagram).answer w = .ok true ↔ Utf8.Encodable text) := by
  have hread? := answer_readText?_eq_some_iff.2 hread
  have hshown : (image s true readme diagram).answer w = .ok shown := hshown
  obtain ⟨text, store, hinsert, hwrite, hafter, htrue, hfails⟩ :=
    extend_of_image hread hnone hshown
  have hstart : hasDiagram content ≠ true := Bool.eq_false_iff.1 hnone
  rw [insertInto_eq, answer_bind, after_bind, hread?, after_readText?_of_some hread?]
  dsimp only
  rw [if_neg hstart, hafter]
  refine ⟨text, hinsert, read_of_write hwrite, keepsKinds_of_write hwrite, fun h => ?_, htrue⟩
  by_contra hencodable
  obtain ⟨e, he⟩ := Utf8.exists_encode_error hencodable
  rw [hfails e he] at h
  cases h

/-- A call that answers yes has found a README without a diagram, and the renderer has answered. -/
theorem exists_image_of_insertInto (h : (insertInto s true readme diagram).answer w = .ok true) :
    ∃ content shown, (readText readme).answer w = .ok content ∧ hasDiagram content = false ∧
      (renderBeside s diagram readme).answer w = .ok shown := by
  rw [insertInto_eq, answer_bind] at h
  cases hread : (readText? readme).answer w with
  | error e => simp [hread] at h
  | ok text =>
    rw [hread] at h
    cases text with
    | none => cases h
    | some content =>
      rw [after_readText?_of_some hread] at h
      dsimp only at h
      cases hdiagram : hasDiagram content with
      | true =>
        rw [if_pos hdiagram] at h
        cases h
      | false =>
        rw [if_neg (Bool.eq_false_iff.1 hdiagram), extend, answer_bind] at h
        cases himage : (renderBeside s diagram readme).answer w with
        | error e =>
          have himage : (image s true readme diagram).answer w = .error e := himage
          rw [himage] at h
          cases h
        | ok name =>
          exact ⟨content, name, answer_readText?_eq_some_iff.1 hread, hdiagram, rfl⟩

/-! ## Images -/

/-- The image that a name stands for in the section of a README. -/
def imageOf (s : Settings) (readme : Path) (name : Text) : Path :=
  readme.parent ++ Path.ofText s.imagesDir ++ Path.ofText name

/-- When the renderer answers a name, its file is new and is there. -/
theorem image_is_new (himage : (renderBeside s diagram readme).answer w = .ok (some name)) :
    name ≠ [] ∧ w.store.exists? w.here (imageOf s readme name) = .ok false ∧
      ∃ bytes, ((renderBeside s diagram readme).after w).store.read w.here
        (imageOf s readme name) = .ok bytes := by
  obtain ⟨stamp, bytes, rfl, -, hcreates⟩ :=
    (render_cases s diagram (readme.parent ++ Path.ofText s.imagesDir) w).exists_creates himage
  have hlength := two_lt_length_imageName s.artifactPrefix stamp
  exact ⟨List.ne_nil_of_length_pos (by omega),
    not_exists_of_extends (extends_prepared w.store w.here _) hcreates.free.1, bytes,
      hcreates.read_image⟩

/-- The same directory with a file where the image directory should be. -/
def blockedFiles : Workspace :=
  { (default : Workspace) with
    store.entries := OrderedMap.ofList [
      (["README.md"], .file (Utf8.written "# Shop\n\n## Requirements\n")),
      (["images"], .file [])] }

end Readme

end Groundplan

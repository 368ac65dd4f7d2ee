import Groundplan.Proofs.Artifact.Failure
import Groundplan.Proofs.Files.Listing

/-!
# The search for a stamp ends

**The directory.** All files that the search asks about lie in one directory (`folder`). A prefix
without slashes does not lead out of the directory of the images (`folder_of_slash_notMem`).

**Counting.** Each taken stamp uses up a name that this directory lists, for its image or for its
diagram, so there are no more taken stamps than names (`length_le_of_taken_folder`).

**The loop.** Without a bound on its tries the search is a relation between the stamp where it
starts and the one where it ends (`Search`). It ends where the first stamp is free
(`search_iff`), and a search with enough tries ends there as well (`answer_freeStamp_of_search`).

Main result: `uniqueName_least`.
-/

namespace Groundplan.Artifact

open Session Store

variable {s : Store} {here : Location} {directory : Path} {start : Text} {w : Workspace}
variable {first stamp last tries : Nat}

/-! ## The directory of an artifact -/

/-- The directory that the files with a prefix lie in. -/
def folder (directory : Path) (start : Text) : Path := (imagePath directory start 0).parent

theorem folder_of_slash_notMem (hslash : ↑ '/' ∉ start) (directory : Path) :
    folder directory start = directory := by
  rw [folder, imagePath_of_slash_notMem hslash, Path.parent_child]

/-- The names beside an artifact; none if its directory cannot be listed. -/
def neighbours (s : Store) (here : Location) (directory : Path) (start : Text) :
    List FileName :=
  (s.list here (folder directory start)).toOption.getD []

theorem exists_child_folder (directory : Path) (start : Text) :
    ∃ base, ∀ stamp,
      imagePath directory start stamp = (folder directory start).child (imageName base stamp) ∧
        diagramPath directory start stamp =
          (folder directory start).child (diagramName base stamp) := by
  obtain ⟨above, base, hpaths⟩ := exists_child_paths directory start
  have hfolder : folder directory start = above := by
    rw [folder, (hpaths 0).1, Path.parent_child]
  rw [hfolder]
  exact ⟨base, hpaths⟩

/-! ## Counting -/

theorem mem_neighbours {name : Text} (hname : name ≠ (['.', '.'] : Text))
    (h : s.exists? here ((folder directory start).child name) = .ok true) :
    .ofText name ∈ neighbours s here directory start := by
  obtain ⟨names, hlist, hmem⟩ := exists_list_of_exists?_child hname h
  rw [neighbours, hlist]
  exact hmem

/-- **There are no more taken stamps than names in the directory.** -/
theorem length_le_of_taken_folder
    (h : ∀ m, first ≤ m → m < first + tries → Taken s here directory start m) :
    tries ≤ (neighbours s here directory start).length := by
  obtain ⟨base, hpaths⟩ := exists_child_folder directory start
  have hmem : ∀ m, first ≤ m → m < first + tries →
      .ofText (imageName base m) ∈ neighbours s here directory start ∨
        .ofText (diagramName base m) ∈ neighbours s here directory start := by
    intro m hlow hhigh
    have htaken := h m hlow hhigh
    rw [Taken, (hpaths m).1, (hpaths m).2] at htaken
    refine htaken.imp (mem_neighbours ?_) (mem_neighbours ?_)
    · exact (isName_of_length (two_lt_length_imageName base m)).2
    · exact (isName_of_length (two_lt_length_diagramName base m)).2
  exact length_le_of_mem hmem

/-! ## The loop -/

/-- The search without a bound: it ends at a stamp that is free, and passes a taken one over. -/
inductive Search (s : Store) (here : Location) (directory : Path) (start : Text) :
    (first last : Nat) → Prop
  | free {stamp : Nat} (h : Free s here directory start stamp) :
      Search s here directory start stamp stamp
  | next {stamp last : Nat} (h : Taken s here directory start stamp)
      (hrest : Search s here directory start (stamp + 1) last) :
      Search s here directory start stamp last

/-- What is free is not taken. -/
theorem Free.not_taken (h : Free s here directory start stamp) :
    ¬Taken s here directory start stamp := by
  rintro (himage | hdiagram)
  · rw [h.1] at himage
    cases himage
  · rw [h.2] at hdiagram
    cases hdiagram

/-- The search ends at the least free stamp, with taken ones in front of it. -/
theorem search_iff : Search s here directory start first last ↔
    first ≤ last ∧ Free s here directory start last ∧
      ∀ m, first ≤ m → m < last → Taken s here directory start m := by
  constructor
  · intro h
    induction h with
    | free h => exact ⟨Nat.le_refl _, h, fun m hlow hhigh => by omega⟩
    | @next stamp last h _ ih =>
      obtain ⟨hle, hfree, htaken⟩ := ih
      refine ⟨by omega, hfree, fun m hlow hhigh => ?_⟩
      by_cases heq : m = stamp
      · rw [heq]
        exact h
      · exact htaken m (by omega) hhigh
  · rintro ⟨hle, hfree, htaken⟩
    -- By induction on how many taken stamps the search passes over.
    obtain ⟨count, rfl⟩ := Nat.exists_eq_add_of_le hle
    induction count generalizing first with
    | zero => exact .free hfree
    | succ count ih =>
      have hshift : first + 1 + count = first + (count + 1) := by omega
      refine .next (htaken first (by omega) (by omega)) ?_
      rw [← hshift] at hfree htaken ⊢
      exact ih (by omega) hfree fun m hlow hhigh => htaken m (by omega) hhigh

theorem answer_isFree_of_free (h : Free w.store w.here directory start stamp) :
    (isFree directory start stamp).answer w = .ok true := by
  rw [isFree_eq, answer_bind, answer_ask, after_ask, h.1]
  show (ask (diagramPath directory start stamp) Store.exists? >>= _).answer w = _
  rw [answer_bind, answer_ask, h.2]
  rfl

/-- A search with a bound that is large enough ends where the one without a bound ends. -/
theorem answer_freeStamp_of_search (h : Search w.store w.here directory start first last)
    (htries : last < first + tries) :
    (freeStamp directory start tries first).answer w = .ok last := by
  induction h generalizing tries with
  | @free stamp h =>
    obtain ⟨tries, rfl⟩ := Nat.exists_eq_succ_of_ne_zero (n := tries) (by omega)
    rw [freeStamp, answer_bind, answer_isFree_of_free h]
    rfl
  | @next stamp last h hrest ih =>
    have hle := (search_iff.1 hrest).1
    obtain ⟨tries, rfl⟩ := Nat.exists_eq_succ_of_ne_zero (n := tries) (by omega)
    rw [freeStamp, answer_bind, answer_isFree_of_taken h, after_isFree]
    exact ih (by omega)

/-! ## The name -/

/-- Names that fit can be asked about. -/
theorem not_tooLong_of_fits (h : Fits (imagePath directory start stamp)) :
    ¬TooLong s here directory start stamp := by
  obtain ⟨b, hb⟩ := h.exists_isEntry s here fun _ => true
  rw [TooLong, Store.exists?, hb]
  simp

/-- **The name has the least free stamp.** If the file system can be asked about the names that
come into question, the search ends, and the name has the least stamp from the clock on for which
neither file exists. It is at most the number of names in the directory later than the clock: in
the directory of the images, if the prefix has no slash. No bound on the tries is needed for this:
the search without one ends at this stamp, and so does every search that gets that far. -/
theorem uniqueName_least (directory : Path) (start : Text) (w : Workspace)
    (hnames : ∀ stamp, w.clock ≤ stamp →
      stamp ≤ w.clock + (neighbours w.store w.here directory start).length →
      ¬TooLong w.store w.here directory start stamp) :
    ∃ stamp, (uniqueName directory start).run w = .ok (imageName start stamp) w ∧
      w.clock ≤ stamp ∧ Free w.store w.here directory start stamp ∧
      (∀ m, w.clock ≤ m → m < stamp → Taken w.store w.here directory start m) ∧
      stamp ≤ w.clock + (neighbours w.store w.here directory start).length ∧
      Search w.store w.here directory start w.clock stamp ∧
      (∀ tries, stamp < w.clock + tries →
        (freeStamp directory start tries w.clock).run w = .ok stamp w) ∧
      (↑ '/' ∉ start → folder directory start = directory) := by
  -- Both a free stamp and one that is too long come at most this far behind taken ones.
  have hbound : ∀ stamp, w.clock ≤ stamp →
      (∀ m, w.clock ≤ m → m < stamp → Taken w.store w.here directory start m) →
      stamp ≤ w.clock + (neighbours w.store w.here directory start).length := by
    intro stamp hle htaken
    have hcount : stamp - w.clock ≤ (neighbours w.store w.here directory start).length :=
      length_le_of_taken_folder fun m (hlow : w.clock ≤ m) hhigh => htaken m hlow (by omega)
    omega
  cases hanswer : (uniqueName directory start).answer w with
  | error f =>
    obtain ⟨stamp, hmeets, -⟩ := answer_uniqueName_eq_error_iff.1 hanswer
    exact absurd hmeets.tooLong (hnames stamp hmeets.le (hbound stamp hmeets.le hmeets.taken))
  | ok name =>
    obtain ⟨stamp, rfl, hle, hfree, htaken⟩ := answer_uniqueName hanswer
    have hsearch := search_iff.2 ⟨hle, hfree, htaken⟩
    have hrun := run_of_answer_ok hanswer
    rw [after_uniqueName] at hrun
    refine ⟨stamp, hrun, hle, hfree, htaken, hbound stamp hle htaken, hsearch, ?_,
      fun hslash => folder_of_slash_notMem hslash directory⟩
    intro tries htries
    have hstamp := run_of_answer_ok (answer_freeStamp_of_search hsearch htries)
    rwa [after_freeStamp] at hstamp

/-- A directory with an image and a diagram at the two stamps from the clock on, and another
file. -/
def crowded : Workspace :=
  { (default : Workspace) with
    store := ⟨OrderedMap.ofList [(["out"], .directory), (["out", "p-5.png"], .file []),
      (["out", "notes"], .file []), (["out", "p-6.mmd"], .file [])]⟩
    clock := 5 }

theorem uniqueName_crowded :
    (∀ stamp, crowded.clock ≤ stamp → stamp ≤ crowded.clock +
        (neighbours crowded.store crowded.here (Path.ofText "out") "p").length →
      ¬TooLong crowded.store crowded.here (Path.ofText "out") "p" stamp) ∧
      (uniqueName (Path.ofText "out") "p").run crowded = .ok "p-7.png" crowded := by
  have hlength : (neighbours crowded.store crowded.here (Path.ofText "out") "p").length = 3 := by
    decide
  have hfits : ∀ stamp < 9, Fits (imagePath (Path.ofText "out") "p" stamp) := by
    decide
  have hnames : ∀ stamp, crowded.clock ≤ stamp → stamp ≤ crowded.clock +
        (neighbours crowded.store crowded.here (Path.ofText "out") "p").length →
      ¬TooLong crowded.store crowded.here (Path.ofText "out") "p" stamp := by
    intro stamp _ hhigh
    rw [hlength] at hhigh
    exact not_tooLong_of_fits (hfits stamp (by simpa [crowded, Nat.lt_succ_iff] using hhigh))
  refine ⟨hnames, ?_⟩
  obtain ⟨stamp, hrun, hlow, hfree, htaken, -⟩ :=
    uniqueName_least (Path.ofText "out") "p" crowded hnames
  have hfive : Taken crowded.store crowded.here (Path.ofText "out") "p" 5 := .inl (by decide)
  have hsix : Taken crowded.store crowded.here (Path.ofText "out") "p" 6 := .inr (by decide)
  have hseven : Free crowded.store crowded.here (Path.ofText "out") "p" 7 :=
    ⟨by decide, by decide⟩
  have hne_five : stamp ≠ 5 := fun heq => hfree.not_taken (heq ▸ hfive)
  have hne_six : stamp ≠ 6 := fun heq => hfree.not_taken (heq ▸ hsix)
  have hle_seven : ¬7 < stamp := fun hlt => hseven.not_taken (htaken 7 (by decide) hlt)
  have hlow : 5 ≤ stamp := hlow
  obtain rfl : stamp = 7 := by omega
  exact hrun

end Groundplan.Artifact

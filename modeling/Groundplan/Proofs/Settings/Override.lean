import Groundplan.Proofs.OrderedMap
import Groundplan.Settings.Override

/-!
# Overrides compose

**Values.** What settings hold is a value for each setting (`Settings.value`), and settings with the
same values are the same (`ext_value`). A setting admits values of one kind (`Setting.Admits`); it
is the kind of the value that is replaced, whatever that value is (`mayReplace_value_iff`), and so a
setting takes just the values that may replace its own (`exists_apply_iff`).

**One mapping.** Overriding succeeds exactly when every key names a setting that admits its value.
Each setting then holds the last value that is given for it, or its old one
(`override_entries_eq_ok_iff`).

**Many mappings.** So a chain of overrides ends like one override with all entries, of which later
ones replace earlier ones (`override_union`). Settings that hold only what they admit are overridden
to such settings (`Valid.of_override`), and are read back from their own entries
(`override_values`).

Main result: `overrides_compose`.
-/

namespace Groundplan

/-! ## Settings and their values -/

namespace Setting

theorem ofName?_name (f : Setting) : ofName? f.name = some f := by
  cases f <;> rfl

theorem ofKey?_eq_some_iff {key : Value} {f : Setting} :
    ofKey? key = some f ↔ key = .text f.name := by
  constructor
  · intro h
    cases key with
    | text t =>
      have hfind : all.find? (fun setting => setting.name == t) = some f := h
      have hname := List.find?_some hfind
      rw [beq_iff_eq.1 hname]
    | _ => cases h
  · intro h
    rw [h]
    exact ofName?_name f

theorem ofKey?_eq_none_iff {key : Value} :
    ofKey? key = none ↔ ∀ f : Setting, key ≠ .text f.name := by
  simp only [Option.eq_none_iff_forall_ne_some, ne_eq, ofKey?_eq_some_iff]

theorem name_inj {f g : Setting} : f.name = g.name ↔ f = g := by
  constructor
  · intro h
    have hname := ofName?_name f
    rw [h, ofName?_name] at hname
    exact (Option.some.inj hname).symm
  · intro h
    rw [h]

/-! ## Admissible values -/

/-- The value is a text that is not empty. -/
def IsFilled (v : Value) : Prop := ∃ t : Text, t ≠ [] ∧ v = .text t

/-- The value is a list of texts that are not empty. A list of no pairs is a list of no texts. -/
def IsFilledList (v : Value) : Prop :=
  (∃ ts : List Text, (∀ t ∈ ts, t ≠ []) ∧ v = .list (ts.map .text)) ∨ v = .pairs []

/-- What may stand in the place of a value, by the kind of that value. -/
def MayReplace : (old new : Value) → Prop
  | .flag _, new => ∃ b, new = .flag b
  | .int _, new => ∃ n : Int, 0 < n ∧ new = .int n
  | .list _, new => IsFilled new ∨ IsFilledList new
  | _, new => IsFilled new

/-- The value fits the setting: a truth value for the switch of the renderer, a positive integer for
its timeout, a non-empty text or a list of them for the hosted compute types, and a non-empty text
for every other setting. -/
def Admits : Setting → Value → Prop
  | useRenderer, v => ∃ b, v = .flag b
  | rendererTimeout, v => ∃ n : Int, 0 < n ∧ v = .int n
  | hostedComputeTypes, v => IsFilled v ∨ IsFilledList v
  | _, v => IsFilled v

/-- How a setting keeps a value that it admits: one hosted compute type is a list of one. -/
def stored : Setting → Value → Value
  | hostedComputeTypes, .text t => .list [.text t]
  | hostedComputeTypes, .pairs _ => .list []
  | _, v => v

theorem mapM_text? (ts : List Text) (h : ∀ t ∈ ts, t ≠ []) :
    (ts.map Value.text).mapM text? = some ts := by
  induction ts with
  | nil => rfl
  | cons t ts ih =>
    have ht : text? (.text t) = some t := by simp [text?, h t]
    rw [List.map_cons, List.mapM_cons, ht, ih fun u hu => h u (List.mem_cons_of_mem t hu)]
    rfl

theorem text?_eq_some_iff {v : Value} {t : Text} : text? v = some t ↔ t ≠ [] ∧ v = .text t := by
  cases v with
  | text u =>
    rw [text?]
    split
    · next hu => simp [List.isEmpty_iff.1 hu]
    · next hu =>
      simp only [Option.some.injEq, Value.text.injEq]
      exact ⟨fun h => ⟨fun hnil => hu (by simp [h, hnil]), h⟩, fun h => h.2⟩
  | _ => simp [text?]

theorem of_mapM_text? {items : List Value} {ts : List Text} (h : items.mapM text? = some ts) :
    (∀ t ∈ ts, t ≠ []) ∧ items = ts.map .text := by
  induction items generalizing ts with
  | nil =>
    obtain rfl := Option.some.inj h
    exact ⟨fun t ht => absurd ht List.not_mem_nil, rfl⟩
  | cons v items ih =>
    rw [List.mapM_cons] at h
    obtain ⟨t, ht, h⟩ := Option.bind_eq_some_iff.1 h
    obtain ⟨us, hus, h⟩ := Option.bind_eq_some_iff.1 h
    obtain rfl := Option.some.inj h
    obtain ⟨hne, rfl⟩ := text?_eq_some_iff.1 ht
    obtain ⟨hrest, rfl⟩ := ih hus
    exact ⟨List.forall_mem_cons.2 ⟨hne, hrest⟩, rfl⟩

theorem map_text_inj (ts us : List Text) : ts.map Value.text = us.map .text ↔ ts = us :=
  List.map_inj_right fun _ _ h => Value.text.inj h

/-- One text is a list of one, and a list of no pairs is empty. -/
theorem texts?_eq_some_iff {v : Value} {ts : List Text} : texts? v = some ts ↔
    (IsFilled v ∨ IsFilledList v) ∧ stored hostedComputeTypes v = .list (ts.map .text) := by
  constructor
  · intro h
    cases v with
    | text t =>
      obtain ⟨u, hu, rfl⟩ := Option.map_eq_some_iff.1 h
      obtain ⟨hne, heq⟩ := text?_eq_some_iff.1 hu
      rw [heq]
      exact ⟨.inl ⟨u, hne, rfl⟩, rfl⟩
    | list items =>
      obtain ⟨hne, rfl⟩ := of_mapM_text? h
      exact ⟨.inr (.inl ⟨ts, hne, rfl⟩), rfl⟩
    | pairs items =>
      cases items with
      | nil =>
        obtain rfl := Option.some.inj h
        exact ⟨.inr (.inr rfl), rfl⟩
      | cons p items => cases h
    | _ => cases h
  · intro h
    obtain ⟨hfits, hstored⟩ := h
    rcases hfits with ⟨t, hne, rfl⟩ | ⟨us, hne, rfl⟩ | rfl
    · obtain rfl : [t] = ts := (map_text_inj [t] ts).1 (Value.list.inj hstored)
      simp [texts?, text?, hne]
    · obtain rfl : us = ts := (map_text_inj us ts).1 (Value.list.inj hstored)
      exact mapM_text? us hne
    · obtain rfl : [] = ts := (map_text_inj [] ts).1 (Value.list.inj hstored)
      rfl

theorem exists_stored {v : Value} (h : hostedComputeTypes.Admits v) :
    ∃ ts : List Text, stored hostedComputeTypes v = .list (ts.map .text) := by
  rcases h with ⟨t, -, rfl⟩ | ⟨ts, -, rfl⟩ | rfl
  · exact ⟨[t], rfl⟩
  · exact ⟨ts, rfl⟩
  · exact ⟨[], rfl⟩

theorem isFilled_of_applyText {f : Setting} {set : Text → Settings} {v : Value} {s : Settings}
    (h : applyText f set v = .ok s) : IsFilled v := by
  cases ht : text? v with
  | some t => exact ⟨t, text?_eq_some_iff.1 ht⟩
  | none => simp [applyText, ht] at h

end Setting

namespace Settings

open Setting (Admits MayReplace stored)

/-- The value of a setting. -/
def value (s : Settings) : Setting → Value
  | .infraDir => .text s.infraDir
  | .mainFile => .text s.mainFile
  | .sourceSuffix => .text s.sourceSuffix
  | .readmeFile => .text s.readmeFile
  | .imagesDir => .text s.imagesDir
  | .latestArtifact => .text s.latestArtifact
  | .artifactPrefix => .text s.artifactPrefix
  | .planId => .text s.planId
  | .serverFarmProperty => .text s.serverFarmProperty
  | .hostedComputeTypes => .list (s.hostedComputeTypes.map .text)
  | .serviceTagKey => .text s.serviceTagKey
  | .useRenderer => .flag s.useRenderer
  | .rendererTimeout => .int s.rendererTimeout

variable {s s' : Settings} {f : Setting} {v : Value}

/-- Settings with the same values are the same. -/
theorem ext_value (h : ∀ f, s.value f = s'.value f) : s = s' := by
  have htypes : s.hostedComputeTypes = s'.hostedComputeTypes :=
    (Setting.map_text_inj _ _).1 (Value.list.inj (h .hostedComputeTypes))
  have htimeout : s.rendererTimeout = s'.rendererTimeout :=
    Int.ofNat.inj (Value.int.inj (h .rendererTimeout))
  cases s
  cases s'
  simp only [Settings.mk.injEq]
  exact ⟨Value.text.inj (h .infraDir), Value.text.inj (h .mainFile),
    Value.text.inj (h .sourceSuffix), Value.text.inj (h .readmeFile),
    Value.text.inj (h .imagesDir), Value.text.inj (h .latestArtifact),
    Value.text.inj (h .artifactPrefix), Value.text.inj (h .planId),
    Value.text.inj (h .serverFarmProperty), htypes, Value.text.inj (h .serviceTagKey),
    Value.flag.inj (h .useRenderer), htimeout⟩

/-- **The test of a value does not drift.** A setting admits what may replace its value, whatever
that is. -/
theorem mayReplace_value_iff (s : Settings) (f : Setting) (v : Value) :
    MayReplace (s.value f) v ↔ f.Admits v := by
  cases f <;> exact Iff.rfl

/-! ## One setting -/

/-- A value that a setting admits takes the place of its old one, and nothing else changes. -/
theorem exists_apply (s : Settings) (h : f.Admits v) :
    ∃ s', f.apply s v = .ok s' ∧ ∀ g, s'.value g = if f = g then stored f v else s.value g := by
  cases f with
  | hostedComputeTypes =>
    obtain ⟨ts, hstored⟩ := Setting.exists_stored h
    have hts := Setting.texts?_eq_some_iff.2 ⟨h, hstored⟩
    refine ⟨{ s with hostedComputeTypes := ts }, by rw [Setting.apply, hts], fun g => ?_⟩
    rw [hstored]
    cases g <;> rfl
  | useRenderer =>
    obtain ⟨b, rfl⟩ := h
    exact ⟨_, rfl, fun g => by cases g <;> rfl⟩
  | rendererTimeout =>
    obtain ⟨n, hn, rfl⟩ := h
    obtain ⟨k, rfl⟩ := Int.eq_ofNat_of_zero_le (Int.le_of_lt hn)
    have hk : Setting.positive? (.int k) = some k := if_pos hn
    refine ⟨{ s with rendererTimeout := k }, by rw [Setting.apply, hk], fun g => ?_⟩
    cases g <;> rfl
  | _ =>
    obtain ⟨t, hne, rfl⟩ := h
    obtain ⟨c, r, rfl⟩ := List.exists_cons_of_ne_nil hne
    exact ⟨_, rfl, fun g => by cases g <;> rfl⟩

theorem admits_of_apply (h : f.apply s v = .ok s') : f.Admits v := by
  cases f with
  | hostedComputeTypes =>
    cases hts : Setting.texts? v with
    | some ts => exact (Setting.texts?_eq_some_iff.1 hts).1
    | none => simp [Setting.apply, hts] at h
  | useRenderer =>
    cases v with
    | flag b => exact ⟨b, rfl⟩
    | _ => cases h
  | rendererTimeout =>
    cases v with
    | int n =>
      by_cases hn : 0 < n
      · exact ⟨n, hn, rfl⟩
      · simp [Setting.apply, Setting.positive?, hn] at h
    | _ => cases h
  | _ => exact Setting.isFilled_of_applyText h

/-- **A setting takes a value just when the value may replace its own**, by the kind of the
latter. -/
theorem exists_apply_iff : (∃ s', f.apply s v = .ok s') ↔ MayReplace (s.value f) v := by
  rw [mayReplace_value_iff]
  constructor
  · rintro ⟨s', happly⟩
    exact admits_of_apply happly
  · intro h
    obtain ⟨s', happly, -⟩ := exists_apply s h
    exact ⟨s', happly⟩

/-! ## One mapping -/

/-- Every key of the mapping names a setting, and its value fits that setting. -/
def Fits (m : List (Value × Value)) : Prop :=
  ∀ e ∈ m, ∃ f : Setting, e.1 = .text f.name ∧ f.Admits e.2

/-- An entry that gives a value to a setting. -/
def entry (p : Setting × Value) : Value × Value := (.text p.1.name, p.2)

variable {l : List (Setting × Value)} {m : List (Value × Value)}

theorem exists_map_entry (h : ∀ e ∈ m, ∃ f : Setting, e.1 = .text f.name) :
    ∃ l : List (Setting × Value), m = l.map entry := by
  induction m with
  | nil => exact ⟨[], rfl⟩
  | cons e m ih =>
    obtain ⟨f, hf⟩ := h e List.mem_cons_self
    obtain ⟨l, rfl⟩ := ih fun e' he' => h e' (List.mem_cons_of_mem e he')
    exact ⟨(f, e.2) :: l, by rw [List.map_cons, entry, ← hf]⟩

theorem fits_map_entry : Fits (l.map entry) ↔ ∀ p ∈ l, p.1.Admits p.2 := by
  rw [Fits, List.forall_mem_map]
  refine forall₂_congr fun p _ => ⟨?_, fun h => ⟨p.1, rfl, h⟩⟩
  intro h
  obtain ⟨f, hf, hv⟩ := h
  rw [Setting.name_inj.1 (Value.text.inj hf)]
  exact hv

theorem exists_map_entry_of_fits (h : Fits m) :
    ∃ l : List (Setting × Value), m = l.map entry ∧ ∀ p ∈ l, p.1.Admits p.2 := by
  obtain ⟨l, rfl⟩ := exists_map_entry fun e he => (h e he).imp fun f hf => hf.1
  exact ⟨l, rfl, fits_map_entry.1 h⟩

theorem override_entries (s : Settings) (l : List (Setting × Value)) :
    s.override (l.map entry) = l.foldlM (fun s p => p.1.apply s p.2) s := by
  have hkey : ∀ p : Setting × Value, Setting.ofKey? (entry p).1 = some p.1 :=
    fun p => Setting.ofKey?_eq_some_iff.2 rfl
  have hknown : ((l.map entry).map Prod.fst).filter
      (fun key => (Setting.ofKey? key).isNone) = [] := by
    rw [List.filter_eq_nil_iff, List.map_map, List.forall_mem_map]
    intro p _
    simp [hkey]
  rw [override, hknown]
  simp only [List.isEmpty_nil, if_true, List.foldlM_map, hkey]
  rfl

/-- The value of a setting after the entries of a list: the last one that is given, as the setting
keeps it, or else the old one. -/
def valueAfter (g : Setting) (old : Value) (l : List (Setting × Value)) : Value :=
  l.foldl (fun v p => if p.1 = g then stored g p.2 else v) old

/-- **What a mapping does.** Overriding succeeds exactly when every value fits its setting, and then
every setting has the value that is left after all entries. -/
theorem override_entries_eq_ok_iff (s s' : Settings) (l : List (Setting × Value)) :
    s.override (l.map entry) = .ok s' ↔
      (∀ p ∈ l, p.1.Admits p.2) ∧ ∀ g, s'.value g = valueAfter g (s.value g) l := by
  rw [override_entries]
  induction l generalizing s with
  | nil =>
    refine ⟨fun h => ?_, fun h => congrArg Except.ok (ext_value h.2).symm⟩
    obtain rfl := Except.ok.inj h
    exact ⟨fun p hp => absurd hp List.not_mem_nil, fun g => rfl⟩
  | cons p l ih =>
    rw [List.foldlM_cons, List.forall_mem_cons]
    cases happly : p.1.apply s p.2 with
    | error e =>
      constructor
      · intro h
        cases h
      · intro h
        obtain ⟨s₁, hs₁, -⟩ := exists_apply s h.1.1
        rw [happly] at hs₁
        cases hs₁
    | ok s₁ =>
      have hp := admits_of_apply happly
      obtain ⟨s₂, hs₂, hvalue⟩ := exists_apply s hp
      obtain rfl : s₁ = s₂ := Except.ok.inj (happly.symm.trans hs₂)
      have hafter : ∀ g, valueAfter g (s₁.value g) l = valueAfter g (s.value g) (p :: l) := by
        intro g
        rw [hvalue g, valueAfter, valueAfter, List.foldl_cons]
        by_cases hg : p.1 = g
        · rw [hg]
        · simp only [if_neg hg]
      refine (ih s₁).trans ?_
      simp only [hafter, hp, true_and]

theorem exists_override_entries (s : Settings) (h : ∀ p ∈ l, p.1.Admits p.2) :
    ∃ s', s.override (l.map entry) = .ok s' := by
  rw [override_entries]
  induction l generalizing s with
  | nil => exact ⟨s, rfl⟩
  | cons p l ih =>
    rw [List.forall_mem_cons] at h
    obtain ⟨s₁, hs₁, -⟩ := exists_apply s h.1
    rw [List.foldlM_cons, hs₁]
    exact ih s₁ h.2

/-! ## Unknown names -/

/-- The key names no setting. -/
def IsUnknown (key : Value) : Prop := ∀ f : Setting, key ≠ .text f.name

/-- The error blames keys of the mapping that name no setting: all of them, or one that is no
text. -/
def BlamesKeys (m : List (Value × Value)) : SettingsError → Prop
  | .unknownNames names => ∀ t, t ∈ names ↔ (∃ v, (.text t, v) ∈ m) ∧ IsUnknown (.text t)
  | .unknownKey key => (∃ v, (key, v) ∈ m) ∧ ∀ t, key ≠ .text t
  | _ => False

/-- The keys of a mapping that name no setting. -/
def unknownKeys (m : List (Value × Value)) : List Value :=
  (m.map Prod.fst).filter fun key => (Setting.ofKey? key).isNone

theorem mem_unknownKeys {key : Value} :
    key ∈ unknownKeys m ↔ (∃ v, (key, v) ∈ m) ∧ IsUnknown key := by
  rw [unknownKeys, List.mem_filter, Option.isNone_iff_eq_none, Setting.ofKey?_eq_none_iff]
  simp [IsUnknown]

theorem blamesKeys_unknownKeysError (m : List (Value × Value)) :
    BlamesKeys m (unknownKeysError (unknownKeys m)) := by
  dsimp only [unknownKeysError]
  split
  · next key hkey =>
    obtain ⟨v, hv⟩ := (mem_unknownKeys.1 (List.mem_of_find?_eq_some hkey)).1
    refine ⟨⟨v, hv⟩, fun t ht => ?_⟩
    have hfound := List.find?_some hkey
    rw [ht] at hfound
    cases hfound
  · intro t
    rw [Text.sort, List.mem_mergeSort, List.mem_filterMap, ← mem_unknownKeys]
    constructor
    · intro h
      obtain ⟨key, hkey, ht⟩ := h
      cases key with
      | text u => rwa [Option.some.inj ht] at hkey
      | _ => cases ht
    · exact fun h => ⟨.text t, h, rfl⟩

/-- **Unknown names are rejected first**, whatever the values are. -/
theorem exists_blamesKeys (s : Settings) {e : Value × Value} (he : e ∈ m) (h : IsUnknown e.1) :
    ∃ error, s.override m = .error error ∧ BlamesKeys m error := by
  have hne : (unknownKeys m).isEmpty = false :=
    List.isEmpty_eq_false_iff.2 (List.ne_nil_of_mem (mem_unknownKeys.2 ⟨⟨e.2, he⟩, h⟩))
  refine ⟨_, ?_, blamesKeys_unknownKeysError m⟩
  show (if (unknownKeys m).isEmpty then _ else _) = _
  rw [hne, if_neg Bool.false_ne_true]
  rfl

/-- **Which mappings are accepted** does not depend on what they override. -/
theorem exists_override_iff (s : Settings) (m : List (Value × Value)) :
    (∃ s', s.override m = .ok s') ↔ Fits m := by
  constructor
  · intro h
    obtain ⟨s', hs'⟩ := h
    have hknown : ∀ e ∈ m, ∃ f : Setting, e.1 = .text f.name := by
      intro e he
      cases hkey : Setting.ofKey? e.1 with
      | some f => exact ⟨f, Setting.ofKey?_eq_some_iff.1 hkey⟩
      | none =>
        obtain ⟨error, herror, -⟩ := exists_blamesKeys s he (Setting.ofKey?_eq_none_iff.1 hkey)
        rw [hs'] at herror
        cases herror
    obtain ⟨l, rfl⟩ := exists_map_entry hknown
    exact fits_map_entry.2 ((override_entries_eq_ok_iff s s' l).1 hs').1
  · intro h
    obtain ⟨l, rfl, hl⟩ := exists_map_entry_of_fits h
    exact exists_override_entries s hl

/-! ## Many mappings -/

/-- The settings after one mapping after the other. -/
def overrideAll (s : Settings) (ms : List (List (Value × Value))) : Except SettingsError Settings :=
  ms.foldlM override s

/-- All entries of some mappings; for a key that several of them have, the value of the last. -/
def union (ms : List (List (Value × Value))) : List (Value × Value) :=
  Value.distinctEntries ms.flatten

theorem sameKey_entry {p q : Setting × Value} :
    (entry p).1.sameKey (entry q).1 = true ↔ p.1 = q.1 := by
  rw [← Setting.name_inj]
  exact beq_iff_eq

theorem insertEntry_map_entry (p : Setting × Value) (l : List (Setting × Value)) :
    Value.insertEntry (entry p).1 (entry p).2 (l.map entry) =
      (OrderedMap.insertEntry p.1 p.2 l).map entry := by
  induction l with
  | nil => rfl
  | cons q l ih =>
    rw [List.map_cons, OrderedMap.insertEntry, Value.insertEntry, ih]
    by_cases hq : q.1 = p.1
    · rw [if_pos hq, if_pos (sameKey_entry.2 hq)]
      rfl
    · rw [if_neg hq, if_neg fun h => hq (sameKey_entry.1 h)]
      rfl

/-- The entries of a mapping from settings, written with their names. -/
theorem distinctEntries_map_entry (l : List (Setting × Value)) :
    Value.distinctEntries (l.map entry) = (OrderedMap.ofList l).entries.map entry := by
  suffices h : ∀ m : OrderedMap Setting Value,
      (l.map entry).foldl (fun es e => Value.insertEntry e.1 e.2 es) (m.entries.map entry) =
        (l.foldl (fun m p => m.insert p.1 p.2) m).entries.map entry from h ∅
  induction l with
  | nil => exact fun m => rfl
  | cons p l ih =>
    intro m
    rw [List.map_cons, List.foldl_cons, List.foldl_cons, insertEntry_map_entry]
    exact ih (m.insert p.1 p.2)

theorem valueAfter_of_notMem {g : Setting} (h : g ∉ l.map Prod.fst) (old : Value) :
    valueAfter g old l = old := by
  induction l generalizing old with
  | nil => rfl
  | cons p l ih =>
    rw [List.map_cons, List.mem_cons, not_or] at h
    rw [valueAfter, List.foldl_cons, if_neg (Ne.symm h.1)]
    exact ih h.2 old

/-- In a map every setting has one value at most. -/
theorem valueAfter_entries (g : Setting) (old : Value) (m : OrderedMap Setting Value) :
    valueAfter g old m.entries = ((m.get? g).map (stored g)).getD old := by
  obtain ⟨l, hl⟩ := m
  show valueAfter g old l = ((l.lookup g).map (stored g)).getD old
  induction l with
  | nil => rfl
  | cons p l ih =>
    rw [List.map_cons, List.nodup_cons] at hl
    rw [valueAfter, List.foldl_cons, List.lookup_cons]
    by_cases hp : p.1 = g
    · rw [hp] at hl
      rw [if_pos hp, hp, beq_self_eq_true]
      exact valueAfter_of_notMem hl.1 _
    · rw [if_neg hp, beq_false_of_ne (Ne.symm hp)]
      exact ih hl.2

/-- Dropping values that are replaced later changes no setting. -/
theorem valueAfter_ofList (g : Setting) (old : Value) (l : List (Setting × Value)) :
    valueAfter g old (OrderedMap.ofList l).entries = valueAfter g old l := by
  suffices h : ∀ m : OrderedMap Setting Value,
      valueAfter g old (l.foldl (fun m p => m.insert p.1 p.2) m).entries =
        valueAfter g (valueAfter g old m.entries) l from h ∅
  induction l with
  | nil => exact fun m => rfl
  | cons p l ih =>
    intro m
    have hinsert : valueAfter g old (m.insert p.1 p.2).entries =
        if p.1 = g then stored g p.2 else valueAfter g old m.entries := by
      rw [valueAfter_entries, valueAfter_entries, OrderedMap.get?_insert]
      by_cases hp : p.1 = g
      · rw [if_pos hp, if_pos hp.symm]
        rfl
      · rw [if_neg hp, if_neg (Ne.symm hp)]
    rw [List.foldl_cons, ih, hinsert]
    rfl

theorem exists_map_map_entry {ms : List (List (Value × Value))} (h : ∀ m ∈ ms, Fits m) :
    ∃ ls : List (List (Setting × Value)), ms = ls.map (List.map entry) := by
  induction ms with
  | nil => exact ⟨[], rfl⟩
  | cons m ms ih =>
    rw [List.forall_mem_cons] at h
    obtain ⟨l, rfl, -⟩ := exists_map_entry_of_fits h.1
    obtain ⟨ls, rfl⟩ := ih h.2
    exact ⟨l :: ls, rfl⟩

theorem overrideAll_entries (s : Settings) (ls : List (List (Setting × Value))) :
    s.overrideAll (ls.map (List.map entry)) = s.override (ls.flatten.map entry) := by
  rw [overrideAll, override_entries]
  induction ls generalizing s with
  | nil => rfl
  | cons l ls ih =>
    rw [List.map_cons, List.foldlM_cons, List.flatten_cons, List.foldlM_append, override_entries]
    exact bind_congr fun s₁ => ih s₁

/-- A chain of overrides is accepted when each of them is. -/
theorem exists_overrideAll_iff (s : Settings) (ms : List (List (Value × Value))) :
    (∃ s', s.overrideAll ms = .ok s') ↔ ∀ m ∈ ms, Fits m := by
  induction ms generalizing s with
  | nil => exact iff_of_true ⟨s, rfl⟩ fun m hm => absurd hm List.not_mem_nil
  | cons m ms ih =>
    rw [overrideAll, List.foldlM_cons, List.forall_mem_cons, ← exists_override_iff s m]
    cases hm : s.override m with
    | error e =>
      refine iff_of_false (fun h => ?_) fun h => ?_
      · obtain ⟨s', hs'⟩ := h
        cases hs'
      · obtain ⟨⟨s', hs'⟩, -⟩ := h
        cases hs'
    | ok s₁ => exact (ih s₁).trans (and_iff_right ⟨s₁, rfl⟩).symm

/-- **Overrides compose.** A chain of overrides ends like one override with all entries. -/
theorem override_union {ms : List (List (Value × Value))} {s s' : Settings}
    (h : s.overrideAll ms = .ok s') : s.override (union ms) = .ok s' := by
  have hfits := (exists_overrideAll_iff s ms).1 ⟨s', h⟩
  obtain ⟨ls, rfl⟩ := exists_map_map_entry hfits
  rw [overrideAll_entries, override_entries_eq_ok_iff] at h
  rw [union, ← List.map_flatten, distinctEntries_map_entry, override_entries_eq_ok_iff]
  refine ⟨fun p hp => h.1 p (OrderedMap.mem_of_mem_entries_ofList hp), fun g => ?_⟩
  rw [valueAfter_ofList]
  exact h.2 g

/-! ## Valid settings -/

/-- Every setting has a value that it admits. -/
def Valid (s : Settings) : Prop := ∀ f : Setting, f.Admits (s.value f)

theorem admits_stored {f : Setting} {v : Value} (h : f.Admits v) : f.Admits (stored f v) := by
  cases f with
  | hostedComputeTypes =>
    rcases h with ⟨t, hne, rfl⟩ | ⟨ts, hne, rfl⟩ | rfl
    · exact .inr (.inl ⟨[t], by simpa using hne, rfl⟩)
    · exact .inr (.inl ⟨ts, hne, rfl⟩)
    · exact .inr (.inl ⟨[], by simp, rfl⟩)
  | _ => exact h

theorem valid_default : Valid {} := by
  intro f
  cases f with
  | hostedComputeTypes => exact .inr (.inl ⟨_, by decide, rfl⟩)
  | useRenderer => exact ⟨false, rfl⟩
  | rendererTimeout => exact ⟨30, by decide, rfl⟩
  | _ => exact ⟨_, by decide, rfl⟩

/-- The invariant: what is admitted takes the place of what is admitted. -/
theorem admits_valueAfter {g : Setting} {old : Value} (hold : g.Admits old)
    (hl : ∀ p ∈ l, p.1.Admits p.2) : g.Admits (valueAfter g old l) := by
  induction l generalizing old with
  | nil => exact hold
  | cons p l ih =>
    rw [List.forall_mem_cons] at hl
    rw [valueAfter, List.foldl_cons]
    by_cases hp : p.1 = g
    · rw [if_pos hp]
      exact ih (admits_stored (hp ▸ hl.1)) hl.2
    · rw [if_neg hp]
      exact ih hold hl.2

theorem Valid.of_override {s s' : Settings} (hs : Valid s) (h : s.override m = .ok s') :
    Valid s' := by
  obtain ⟨l, rfl, hl⟩ := exists_map_entry_of_fits ((exists_override_iff s m).1 ⟨s', h⟩)
  intro g
  rw [((override_entries_eq_ok_iff s s' l).1 h).2 g]
  exact admits_valueAfter (hs g) hl

/-- So every chain of overrides keeps settings valid. -/
theorem Valid.of_overrideAll {ms : List (List (Value × Value))} {s s' : Settings} (hs : Valid s)
    (h : s.overrideAll ms = .ok s') : Valid s' := by
  induction ms generalizing s with
  | nil =>
    obtain rfl := Except.ok.inj h
    exact hs
  | cons m ms ih =>
    rw [overrideAll, List.foldlM_cons] at h
    cases hm : s.override m with
    | error e =>
      rw [hm] at h
      cases h
    | ok s₁ =>
      rw [hm] at h
      exact ih (hs.of_override hm) h

/-- The mapping that gives every setting its value. -/
def values (s : Settings) : List (Value × Value) :=
  Setting.all.map fun f => (.text f.name, s.value f)

/-- **Settings are read back** from their own values, whatever they override. -/
theorem override_values {s : Settings} (hs : Valid s) (old : Settings) :
    old.override s.values = .ok s := by
  have hentries : s.values = (Setting.all.map fun f => (f, s.value f)).map entry := by
    rw [List.map_map]
    rfl
  rw [hentries, override_entries_eq_ok_iff]
  refine ⟨List.forall_mem_map.2 fun f _ => hs f, fun g => ?_⟩
  cases g <;> rfl

/-! ## Chains from the defaults -/

/-- **Overrides compose.** The test of a value is that of the value it replaces, and this is the
same test for all settings: whatever is overridden, a mapping is accepted exactly when every key
names a setting that admits its value. A chain from the defaults is accepted when each of its
mappings is. A mapping with an unknown name is rejected for its names, whatever its values are.

An accepted chain ends like one override with all entries, of which later ones replace earlier ones.
Its settings are valid, and they are read back from the values of all settings. -/
theorem overrides_compose (ms : List (List (Value × Value))) :
    (∀ (s : Settings) (f : Setting) (v : Value), MayReplace (s.value f) v ↔ f.Admits v) ∧
    (∀ (s : Settings) (m : List (Value × Value)), (∃ s', s.override m = .ok s') ↔ Fits m) ∧
    ((∃ s, ({} : Settings).overrideAll ms = .ok s) ↔ ∀ m ∈ ms, Fits m) ∧
    (∀ (s : Settings) (m : List (Value × Value)), (∃ e ∈ m, IsUnknown e.1) →
      ∃ error, s.override m = .error error ∧ BlamesKeys m error) ∧
    ∀ s, ({} : Settings).overrideAll ms = .ok s →
      ({} : Settings).override (union ms) = .ok s ∧ Valid s ∧
        ∀ old : Settings, old.override s.values = .ok s := by
  refine ⟨mayReplace_value_iff, exists_override_iff, exists_overrideAll_iff {} ms, ?_, ?_⟩
  · intro s m h
    obtain ⟨e, he, hunknown⟩ := h
    exact exists_blamesKeys s he hunknown
  · intro s h
    have hvalid : Valid s := valid_default.of_overrideAll h
    exact ⟨override_union h, hvalid, override_values hvalid⟩

/-- The second mapping replaces a value of the first one, and gives one type where a list may
stand. -/
def layers : List (List (Value × Value)) := [
  [(.text "infra_dir", .text "deploy"), (.text "mmdc_timeout", .int 60)],
  [(.text "mmdc_timeout", .int 5), (.text "hosted_compute_types", .text "App/jobs")]]

/-- A mapping with a name that is unknown and a value that does not fit. -/
def misnamed : List (Value × Value) :=
  [(.text "mmdc_timeout", .flag true), (.text "plan", .text "hostingPlan")]

theorem overrides_compose_layers :
    ∃ s : Settings, s.infraDir = "deploy" ∧ s.rendererTimeout = 5 ∧
      s.hostedComputeTypes = [("App/jobs" : Text)] ∧
      ({} : Settings).overrideAll layers = .ok s ∧
      ({} : Settings).override (union layers) = .ok s ∧ Valid s ∧
      (∃ e ∈ misnamed, IsUnknown e.1) ∧
      ∃ error, s.override misnamed = .error error ∧ BlamesKeys misnamed error := by
  obtain ⟨-, -, -, hunknown, hchain⟩ := overrides_compose layers
  have hlayers : ({} : Settings).overrideAll layers = .ok
      { infraDir := "deploy", rendererTimeout := 5, hostedComputeTypes := ["App/jobs"] } := rfl
  have hplan : ∃ e ∈ misnamed, IsUnknown e.1 :=
    ⟨_, List.mem_cons_of_mem _ List.mem_cons_self, Setting.ofKey?_eq_none_iff.1 rfl⟩
  obtain ⟨hunion, hvalid, -⟩ := hchain _ hlayers
  exact ⟨_, rfl, rfl, rfl, hlayers, hunion, hvalid, hplan, hunknown _ misnamed hplan⟩

end Settings

end Groundplan

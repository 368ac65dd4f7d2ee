import Mathlib.Data.List.Perm.Basic
import Groundplan.Proofs.Flowchart.Repetition
import Groundplan.Proofs.Inference.Items

/-!
# Resources are inferred independently of each other

**One after the other** (`ResourceSet.inferEach`). Resources may be inferred in place, each in the
set that the ones before it have left. A step keeps the keys and changes one resource, and of the
other resources no step reads more than the keys. So the resources can be taken in any order
(`inferEach_eq_infer`).

**Additions.** What a resource gets (`Adds`) is said in terms of its own identifier, type and body,
the keys of the set and the settings, and these determine it (`Adds.unique`). Besides these
additions nothing of the resource changes (`Receives`).

Main result: `infer_independent`.
-/

namespace Groundplan

namespace OrderedMap

variable {α β γ δ : Type}

theorem mapValues_mapValues (f : α → β → γ) (g : α → γ → δ) (m : OrderedMap α β) :
    (m.mapValues f).mapValues g = m.mapValues fun k v => g k (f k v) := by
  refine ext ?_
  rw [entries_mapValues, entries_mapValues, entries_mapValues, List.map_map]
  rfl

theorem mapValues_congr {f g : α → β → γ} {m : OrderedMap α β}
    (h : ∀ k ∈ m.keys, ∀ v, f k v = g k v) : m.mapValues f = m.mapValues g := by
  refine ext (List.map_congr_left fun (k, v) he => ?_)
  exact congrArg (k, ·) (h k (List.mem_map_of_mem he) v)

theorem mapValues_eq_self {f : α → β → β} {m : OrderedMap α β} (h : ∀ k v, f k v = v) :
    m.mapValues f = m := by
  refine ext ?_
  simp [entries_mapValues, h]

end OrderedMap

/-! ## One after the other -/

namespace ResourceSet

variable {s : Settings} {rs : ResourceSet} {order : List Text}

/-- The set in which the resource under one key has been inferred, as the set is now. -/
def inferAt (s : Settings) (rs : ResourceSet) (key : Text) : ResourceSet :=
  rs.modify key (Resource.infer s rs.keys)

/-- The resources are inferred one after the other, each in the set that the ones before have
left. -/
def inferEach (s : Settings) (order : List Text) (rs : ResourceSet) : ResourceSet :=
  order.foldl (inferAt s) rs

theorem keys_inferAt (s : Settings) (rs : ResourceSet) (key : Text) :
    (rs.inferAt s key).keys = rs.keys :=
  OrderedMap.keys_mapValues _ _

/-- **A run of steps.** When some resources have been inferred, these are inferred and the others
are as they were, in whatever order it was done. -/
theorem inferEach_eq_mapValues (h : order.Nodup) (rs : ResourceSet) :
    rs.inferEach s order =
      rs.mapValues fun key r => if key ∈ order then r.infer s rs.keys else r := by
  induction order generalizing rs with
  | nil => exact (OrderedMap.mapValues_eq_self fun _ _ => rfl).symm
  | cons k order ih =>
    obtain ⟨hk, horder⟩ := List.nodup_cons.1 h
    have hstep : rs.inferEach s (k :: order) = (rs.inferAt s k).inferEach s order := rfl
    rw [hstep, ih horder, keys_inferAt, inferAt, OrderedMap.modify, OrderedMap.mapValues_mapValues]
    refine OrderedMap.mapValues_congr fun key _ r => ?_
    by_cases hkey : key = k
    · subst hkey
      rw [if_neg hk, if_pos rfl, if_pos List.mem_cons_self]
    · simp [hkey]

/-- The order in which the resources are inferred does not matter. -/
theorem inferEach_eq_infer (h : order.Perm rs.keys) : rs.inferEach s order = rs.infer s := by
  rw [inferEach_eq_mapValues (h.nodup_iff.2 rs.nodup_keys), infer]
  exact OrderedMap.mapValues_congr fun key hkey r => if_pos (h.mem_iff.2 hkey)

end ResourceSet

/-! ## Additions -/

namespace Resource

variable {s : Settings} {keys : List Text} {id type : Text} {body : Option Text} {r r' : Resource}

/-- What a resource may get: connections behind those that it has, a name and a service. -/
structure Additions where
  connections : List Text := []
  name : Option Text := none
  service : Option Text := none

/-- The plan is called for: it is another key of the set, and the type is one of hosted compute or
the body has the server-farm property. -/
def CallsForPlan (s : Settings) (keys : List Text) (id type body : Text) : Prop :=
  s.planId ∈ keys ∧ id ≠ s.planId ∧
    ((∃ t ∈ s.hostedComputeTypes, t <:+: type) ∨ s.serverFarmProperty <:+: body)

/-- **What a body says**, in a set with the given keys, of a resource with the given identifier and
type. Its connections are the dependencies that it lists, as they follow each other in the body,
then the other keys that it mentions in the order of the keys, then the plan, at most once. -/
def Adds (s : Settings) (keys : List Text) (id type : Text) : Option Text → Additions → Prop
  | none, a => a = {}
  | some body, a => ∃ mentioned plan,
    a = { connections := Body.dependsOn body ++ mentioned ++ plan
          name := Body.name? body
          service := Body.serviceTag? s.serviceTagKey body } ∧
      (Body.dependsOn body).flatten.Sublist body ∧
      (mentioned.Sublist keys ∧
        ∀ key, key ∈ mentioned ↔ key ∈ keys ∧ key ≠ id ∧ Body.Mentions body key) ∧
      (plan = [s.planId] ∧ CallsForPlan s keys id type body ∨
        plan = [] ∧ ¬CallsForPlan s keys id type body)

/-- The resource `r'` is `r` with the additions and nothing else. -/
structure Receives (r : Resource) (a : Additions) (r' : Resource) : Prop where
  id : r'.id = r.id
  type : r'.type = r.type
  body : r'.body = r.body
  connections : r'.connections = r.connections ++ a.connections
  name : r'.properties.get? nameProperty = a.name.or (r.properties.get? nameProperty)
  service : r'.properties.get? serviceProperty = a.service.or (r.properties.get? serviceProperty)
  properties : ∀ other, other ≠ nameProperty → other ≠ serviceProperty →
    r'.properties.get? other = r.properties.get? other

/-- Keys in the order of the set are determined by which they are. -/
theorem eq_of_sublist_of_mem_iff {a b : List Text} (h : keys.Nodup) (ha : a.Sublist keys)
    (hb : b.Sublist keys) (hmem : ∀ key, key ∈ a ↔ key ∈ b) : a = b :=
  (List.Nodup.perm_iff_eq_of_sublist h ha hb).1
    ((List.perm_ext_iff_of_nodup (h.sublist ha) (h.sublist hb)).2 hmem)

/-- The additions are determined. -/
theorem Adds.unique {a a' : Additions} (h : keys.Nodup) (ha : Adds s keys id type body a)
    (ha' : Adds s keys id type body a') : a = a' := by
  cases body with
  | none => exact ha.trans ha'.symm
  | some body =>
    obtain ⟨mentioned, plan, rfl, -, ⟨hsub, hmem⟩, hplan⟩ := ha
    obtain ⟨mentioned', plan', rfl, -, ⟨hsub', hmem'⟩, hplan'⟩ := ha'
    obtain rfl : mentioned = mentioned' :=
      eq_of_sublist_of_mem_iff h hsub hsub' fun key => (hmem key).trans (hmem' key).symm
    obtain rfl : plan = plan' := by
      rcases hplan with ⟨rfl, hcalled⟩ | ⟨rfl, hcalled⟩
      · rcases hplan' with ⟨rfl, -⟩ | ⟨-, hnot⟩
        · rfl
        · exact absurd hcalled hnot
      · rcases hplan' with ⟨-, hnot⟩ | ⟨rfl, -⟩
        · exact absurd hnot hcalled
        · rfl
    rfl

theorem get?_withProperty (properties : OrderedMap Text Text) (name : Text) (value : Option Text) :
    (withProperty properties name value).get? name = value.or (properties.get? name) := by
  cases value with
  | none => rfl
  | some t => simp [withProperty]

/-- What a resource gets are the additions of its body. -/
theorem exists_adds (s : Settings) (keys : List Text) (r : Resource) :
    ∃ a, Adds s keys r.id r.type r.body a ∧ Receives r a (r.infer s keys) := by
  cases hbody : r.body with
  | none =>
    have hinfer : r.infer s keys = r := by rw [infer, hbody]
    rw [hinfer]
    exact ⟨{}, rfl, {
      id := rfl
      type := rfl
      body := rfl
      connections := (List.append_nil _).symm
      name := rfl
      service := rfl
      properties := fun _ _ _ => rfl }⟩
  | some body =>
    have hdifferent : nameProperty ≠ serviceProperty := by decide
    rw [infer_of_body hbody]
    refine ⟨_, ⟨_, _, rfl, Body.sublist_flatten_dependsOn body, ⟨List.filter_sublist, ?_⟩, ?_⟩, {
      id := rfl
      type := rfl
      body := rfl
      connections := rfl
      name := ?_
      service := ?_
      properties := ?_ }⟩
    · intro key
      rw [List.mem_filter, Bool.and_eq_true, bne_iff_ne, Body.references_iff]
    · have hplan : (keys.contains s.planId && r.id != s.planId && r.needsPlan s body) = true ↔
          CallsForPlan s keys r.id r.type body := by
        rw [Bool.and_eq_true, Bool.and_eq_true, List.contains_iff_mem, bne_iff_ne, needsPlan_iff,
          and_assoc]
        rfl
      rw [← hplan]
      split
      · next hcalled => exact .inl ⟨rfl, hcalled⟩
      · next hcalled => exact .inr ⟨rfl, hcalled⟩
    · show (inferredProperties s r body).get? nameProperty = _
      rw [inferredProperties, get?_withProperty_of_ne hdifferent, get?_withProperty]
    · show (inferredProperties s r body).get? serviceProperty = _
      rw [inferredProperties, get?_withProperty, get?_withProperty_of_ne hdifferent.symm]
    · intro other hname hservice
      show (inferredProperties s r body).get? other = _
      rw [inferredProperties, get?_withProperty_of_ne hservice, get?_withProperty_of_ne hname]

end Resource

namespace ResourceSet

/-- **Inference takes each resource on its own and only adds.** The keys and their order stay. The
resources may be inferred in any order, each in the set that the ones before have left. A resource
gets the additions that its body calls for and nothing else, and one without a body stays as it is.
These additions are the same in every set with the same keys, for every resource with the same
identifier, type and body. -/
theorem infer_independent (s : Settings) (rs : ResourceSet) :
    (rs.infer s).keys = rs.keys ∧
      (∀ order : List Text, order.Perm rs.keys → rs.inferEach s order = rs.infer s) ∧
      ∀ key r, rs.get? key = some r → ∃ a r', Resource.Adds s rs.keys r.id r.type r.body a ∧
        (rs.infer s).get? key = some r' ∧ r.Receives a r' ∧ (r.body = none → r' = r) ∧
        ∀ (rs' : ResourceSet) key' q, rs'.keys = rs.keys → rs'.get? key' = some q → q.id = r.id →
          q.type = r.type → q.body = r.body →
          ∃ q', (rs'.infer s).get? key' = some q' ∧ q.Receives a q' := by
  refine ⟨keys_infer s rs, fun order horder => inferEach_eq_infer horder, fun key r hr => ?_⟩
  obtain ⟨a, ha, hreceives⟩ := Resource.exists_adds s rs.keys r
  refine ⟨a, r.infer s rs.keys, ha, by rw [get?_infer, hr, Option.map_some], hreceives, ?_, ?_⟩
  · intro hbody
    rw [Resource.infer, hbody]
  · intro rs' key' q hkeys hq hid htype hbody
    obtain ⟨b, hb, hreceives'⟩ := Resource.exists_adds s rs'.keys q
    rw [hkeys, hid, htype, hbody] at hb
    obtain rfl := ha.unique rs.nodup_keys hb
    exact ⟨q.infer s rs'.keys, by rw [get?_infer, hq, Option.map_some], hreceives'⟩

/-- A resource that lists `db` and mentions `cache`. -/
def site : Resource :=
  { id := "site", type := "Web", body := some "dependsOn: [db]\nname: 'shop'\nhost: cache.id" }

/-- A set in which the body of the other resource is given. -/
def besideCache (body : Text) : ResourceSet where
  entries := [("site", site), ("cache", { id := "cache", type := "Cache", body := some body })]
  distinct := by
    show [("site" : Text), ("cache" : Text)].Nodup
    decide

theorem infer_independent_site :
    (besideCache "x: site.id").get? "site" = some site ∧
      (besideCache "").get? "site" = some site ∧
      (besideCache "x: site.id").inferEach default ["cache", "site"] =
        (besideCache "x: site.id").infer default ∧
      ∃ a r' q', a.connections = [("db" : Text), ("cache" : Text)] ∧
        ((besideCache "x: site.id").infer default).get? "site" = some r' ∧ site.Receives a r' ∧
        ((besideCache "").infer default).get? "site" = some q' ∧ site.Receives a q' := by
  have hsite : (besideCache "x: site.id").get? "site" = some site := rfl
  have hbare : (besideCache "").get? "site" = some site := rfl
  have horder : ([("cache" : Text), ("site" : Text)] : List Text).Perm
      (besideCache "x: site.id").keys := List.Perm.swap _ _ _
  obtain ⟨-, heach, hall⟩ := infer_independent default (besideCache "x: site.id")
  obtain ⟨a, r', -, hr', hreceives, -, hsame⟩ := hall "site" site hsite
  obtain ⟨q', hq', hreceives'⟩ := hsame (besideCache "") "site" site rfl hbare rfl rfl rfl
  have hconnections : r'.connections = [("db" : Text), ("cache" : Text)] := by
    have hget : ((besideCache "x: site.id").infer default).get? "site" =
        some (site.infer default (besideCache "x: site.id").keys) := rfl
    rw [Option.some.inj (hr'.symm.trans hget)]
    decide
  exact ⟨hsite, hbare, heach _ horder, a, r', q', hreceives.connections.symm.trans hconnections,
    hr', hreceives, hq', hreceives'⟩

end ResourceSet

end Groundplan

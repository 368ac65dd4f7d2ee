import Groundplan.Declaration
import Groundplan.Settings

/-!
# Inference

What the property block of a resource says about it: the resources it depends on, its display name
and the service it hosts.

**Dependencies.** A block lists dependencies in `dependsOn: [...]`, and it refers to another
resource by a field such as `other.id`. A resource of a hosted compute type, or one whose block
has the server-farm property, depends on the plan.

**Inference** (`ResourceSet.infer`). Each resource with a body gets its dependencies appended to
its connections and its name and service as properties. What a resource gets depends on that
resource, the keys of the set and the settings, not on the other resources.
-/

namespace Groundplan

namespace Body

/-! ## Searching a block -/

/-- What `p` finds at the first position of the text where it finds anything. -/
def findFirst? {α : Type} (p : Text → Option α) : Text → Option α
  | [] => p []
  | c :: r => p (c :: r) <|> findFirst? p r

/-- Text up to the next quote of either kind, which is not empty. -/
def untilQuote? (t : Text) : Option Text :=
  let value := t.takeWhile fun c => !Block.isQuote c
  if value.isEmpty || value.length = t.length then none else some value

/-- The value between quotes that stands, perhaps after blanks, at the start of the text. -/
def quotedValue? (t : Text) : Option Text :=
  match Text.trimStart t with
  | c :: r => if Block.isQuote c then untilQuote? r else none
  | [] => none

/-! ## Lists of dependencies -/

/-- The list that the text starts with, `dependsOn: [...]`: what stands between the brackets and
how long the whole is. -/
def dependencyList? (t : Text) : Option (Text × Nat) := do
  let rest ← Text.after? "dependsOn" t
  let rest ← Text.after? ":" (Text.trimStart rest)
  let rest ← Text.after? "[" (Text.trimStart rest)
  let items := rest.takeWhile (· != ↑ ']')
  if items.length = rest.length then none
  else return (items, t.length - rest.length + items.length + 1)

/-- The lists of a text whose first `skip` characters belong to a list already found. -/
def dependencyListsFrom : (skip : Nat) → Text → List Text
  | _, [] => []
  | skip + 1, _ :: r => dependencyListsFrom skip r
  | 0, c :: r =>
    match dependencyList? (c :: r) with
    | some (items, length) => items :: dependencyListsFrom (length - 1) r
    | none => dependencyListsFrom 0 r

/-- What stands between the brackets of every `dependsOn: [...]`. -/
def dependencyLists (t : Text) : List Text := dependencyListsFrom 0 t

/-- The length of the block comment that the text starts with, if it is closed. -/
def blockCommentLength? (t : Text) : Option Nat := do
  let rest ← Text.after? "/*" t
  let (inside, _) ← Text.breakOn "*/" rest
  return inside.length + 4

/-- Drops every closed block comment; the first `skip` characters belong to one. -/
def withoutBlockCommentsFrom : (skip : Nat) → Text → Text
  | _, [] => []
  | skip + 1, _ :: r => withoutBlockCommentsFrom skip r
  | 0, c :: r =>
    match blockCommentLength? (c :: r) with
    | some length => withoutBlockCommentsFrom (length - 1) r
    | none => c :: withoutBlockCommentsFrom 0 r

/-- The text without its closed block comments. -/
def withoutBlockComments (t : Text) : Text := withoutBlockCommentsFrom 0 t

/-- The text without its line comments; `inComment` says that it starts inside one. -/
def withoutLineCommentsFrom : (inComment : Bool) → Text → Text
  | _, [] => []
  | true, c :: r =>
    if c = '\n' then c :: withoutLineCommentsFrom false r else withoutLineCommentsFrom true r
  | false, '/' :: '/' :: r => withoutLineCommentsFrom true r
  | false, c :: r => c :: withoutLineCommentsFrom false r

/-- The text without its line comments. -/
def withoutLineComments (t : Text) : Text := withoutLineCommentsFrom false t

/-- A comma or a newline: what separates the items of a list. -/
def isSeparator (c : CodePoint) : Bool := c == ',' || c == '\n'

/-- An item of a list without the blanks around it and the commas and semicolons behind it. -/
def listItem (t : Text) : Text := Text.dropEnd (fun c => c == ',' || c == ';') (Text.trim t)

/-- The items between the brackets of one list. -/
def listItems (inside : Text) : List Text :=
  ((Text.split isSeparator (withoutLineComments (withoutBlockComments inside))).map listItem).filter
    fun item => !item.isEmpty

/-- The identifiers that the block lists as dependencies. -/
def dependsOn (body : Text) : List Text := (dependencyLists body).flatMap listItems

/-! ## References -/

/-- The fields by which a block refers to another resource. -/
def referenceFields : List Text := [".id", ".name", ".properties"]

/-- The text mentions a field of the resource `id`. -/
def references (t id : Text) : Bool :=
  referenceFields.any fun field => Text.occursIn (id ++ field) t

/-! ## Display properties -/

/-- The first value of a `name:`. -/
def name? (body : Text) : Option Text :=
  findFirst? (fun t => (Text.after? "name:" t).bind quotedValue?) body

/-- The text without a quote of either kind at its start. -/
def skipQuote : Text → Text
  | [] => []
  | c :: r => if Block.isQuote c then r else c :: r

/-- The value of the tag `key` when the text starts with the unquoted key. -/
def valueAfterKey? (key t : Text) : Option Text := do
  let rest ← Text.after? key t
  let rest ← Text.after? ":" (Text.trimStart (skipQuote rest))
  quotedValue? rest

/-- The value of the tag `key` when the text starts with it; the key may stand between quotes. -/
def tag? (key t : Text) : Option Text :=
  (match t with
    | c :: r => if Block.isQuote c then valueAfterKey? key r else none
    | [] => none) <|> valueAfterKey? key t

/-- The first value of the tag `key` after a `tags:`. -/
def serviceTag? (key body : Text) : Option Text :=
  findFirst? (fun t => (Text.after? "tags:" t).bind (findFirst? (tag? key))) body

end Body

namespace Settings

/-- The type belongs to hosted compute. -/
def isHostedCompute (s : Settings) (type : Text) : Bool :=
  s.hostedComputeTypes.any fun t => Text.occursIn t type

end Settings

namespace Resource

/-- The resource depends on the plan by convention. -/
def needsPlan (s : Settings) (r : Resource) (body : Text) : Bool :=
  s.isHostedCompute r.type || Text.occursIn s.serverFarmProperty body

/-- The connections that a resource with the given body gets in a set with the given keys: the
listed dependencies, the keys that the body refers to, and the plan. -/
def inferredConnections (s : Settings) (keys : List Text) (r : Resource) (body : Text) :
    List Text :=
  Body.dependsOn body ++
    keys.filter (fun key => key != r.id && Body.references body key) ++
    if keys.contains s.planId && r.id != s.planId && r.needsPlan s body then [s.planId] else []

/-- Sets a property if there is a value for it. -/
def withProperty (properties : OrderedMap Text Text) (name : Text) :
    Option Text → OrderedMap Text Text
  | some value => properties.insert name value
  | none => properties

/-- The properties of a resource with the given body. -/
def inferredProperties (s : Settings) (r : Resource) (body : Text) : OrderedMap Text Text :=
  withProperty (withProperty r.properties nameProperty (Body.name? body))
    serviceProperty (Body.serviceTag? s.serviceTagKey body)

/-- The resource with what its body says. Without a body nothing changes. -/
def infer (s : Settings) (keys : List Text) (r : Resource) : Resource :=
  match r.body with
  | none => r
  | some body =>
    { r with
      connections := r.connections ++ r.inferredConnections s keys body
      properties := r.inferredProperties s body }

end Resource

namespace ResourceSet

/-- Every resource with what its body says. -/
def infer (s : Settings) (rs : ResourceSet) : ResourceSet :=
  rs.mapValues fun _ r => r.infer s rs.keys

end ResourceSet

end Groundplan

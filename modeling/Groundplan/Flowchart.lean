import Groundplan.Flowchart.Label
import Groundplan.Inference

/-!
# Flowcharts

A resource set drawn as a top-down flowchart: a header, one line for every resource, and one line
for every connection between two resources.

**Connections.** A resource is connected to a different one when it lists it, when its view refers
to a field of it, or when the other is the plan and the resource falls under the plan convention
(`Resource.isConnectedTo`). Every ordered pair of keys is drawn at most once, and names of
resources that are not in the set are not drawn.
-/

namespace Groundplan

namespace Flowchart

/-! ## Lines -/

/-- The first line of a flowchart. -/
def header : Text := "graph TD"

/-- The line of a node; its label is escaped already. -/
def nodeLine (key label : Text) : Text := "    " ++ key ++ "[\"" ++ label ++ "\"]"

/-- The line of an edge. -/
def edgeLine (source target : Text) : Text := "    " ++ source ++ " --> " ++ target

/-- A character that can start an identifier. -/
def isIdStart (c : CodePoint) : Bool := c.isAlpha || c == '_'

/-- A character that can stand in an identifier. -/
def isIdChar (c : CodePoint) : Bool := c.isAlphanum || c == '_'

/-- The text is an identifier of a flowchart: ASCII letters, digits and underscores, not a digit
first. One newline at the end is let through. -/
def isId : Text → Bool
  | [] => false
  | c :: r =>
    let r := if r.getLast? = some ↑ '\n' then r.dropLast else r
    isIdStart c && r.all isIdChar

/-- The flowchart shown when there are no resources to draw. -/
def placeholder : Text :=
  Text.join ['\n'] [
    "graph TD",
    "    User[👤 User] --> FrontEnd[🌐 Frontend]",
    "    FrontEnd --> API[🔌 API Service]",
    "    API --> Database[(🗄️ Database)]",
    "    API --> Storage[💾 Storage]",
    "    API --> KeyVault[🔐 Key Vault]",
    "    note[This is a placeholder diagram. Replace with actual architecture.]"]

/-! ## Icons -/

/-- The icons of the known types; the first entry whose text occurs in a type decides. -/
def iconRules : List (Text × Text) := [
  ("Microsoft.Web/sites", "🌐"),
  ("Microsoft.App/containerApps", "🐳"),
  ("Microsoft.Functions/functionApps", "⚡"),
  ("Microsoft.KeyVault/vaults", "🔐"),
  ("Microsoft.Storage/storageAccounts", "💾"),
  ("Microsoft.Sql/servers", "🗄️"),
  ("Microsoft.DocumentDB", "🔄"),
  ("Microsoft.Insights/components", "📊"),
  ("Microsoft.Network", "🔌")]

/-- The icon of a type that no rule knows. -/
def defaultIcon : Text := "📦"

/-- The icon of a type. -/
def iconFor (type : Text) : Text :=
  match iconRules.find? fun (part, _) => Text.occursIn part type with
  | some (_, icon) => icon
  | none => defaultIcon

end Flowchart

namespace Resource

/-- The label of a resource: icon and name, then short type and service. -/
def label (r : Resource) : Text :=
  let first := Flowchart.iconFor r.type ++ " " ++ r.displayName
  let second := match r.service? with
    | some service => r.shortType ++ " (" ++ service ++ ")"
    | none => r.shortType
  Label.ofLines [first, second]

/-- The resource `r`, whose view is `view`, is connected to a different resource with the
identifier `target`. -/
def connects (s : Settings) (r : Resource) (view target : Text) : Bool :=
  r.connections.contains target || Body.references view target ||
    (target == s.planId && r.needsPlan s view)

/-- The resource `r` is connected to a different resource with the identifier `target`. -/
def isConnectedTo (s : Settings) (r : Resource) (target : Text) : Bool :=
  r.connects s r.view target

end Resource

namespace Flowchart

/-- The edges of a resource set as pairs of keys, by source and then by target. -/
def edges (s : Settings) (rs : ResourceSet) : List (Text × Text) :=
  rs.entries.flatMap fun (key, r) =>
    let view := r.view
    (rs.entries.filter fun (other, target) => other != key && r.connects s view target.id).map
      fun (other, _) => (key, other)

/-- The lines of a resource set's flowchart. -/
def lines (s : Settings) (rs : ResourceSet) : List Text :=
  header :: rs.entries.map (fun (key, r) => nodeLine key r.label) ++
    (edges s rs).map fun (source, target) => edgeLine source target

/-- The flowchart of a resource set. -/
def draw (s : Settings) (rs : ResourceSet) : Text :=
  Text.join ['\n'] (lines s rs) ++ (['\n'] : Text)

end Flowchart

end Groundplan

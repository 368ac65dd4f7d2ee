import Groundplan.OrderedMap
import Groundplan.Text.Json

/-!
# Resources

A resource is one declared part of an infrastructure: an identifier, a type such as
`Microsoft.Web/sites@2022-03-01`, the text of its property block if it has one, and what reading
that block has found out: properties and the identifiers it is connected to.

A resource set maps keys to resources and keeps the order of declaration. The key of a resource is
usually its identifier.

The *view* of a resource is one line of JSON with all its fields, sorted by name. References to
other resources are searched in it.
-/

namespace Groundplan

/-- One declared resource. A resource without a property block has no body. -/
structure Resource where
  id : Text
  type : Text
  properties : OrderedMap Text Text := ∅
  connections : List Text := []
  body : Option Text := none

/-- Resources under their keys, in order of declaration. -/
abbrev ResourceSet := OrderedMap Text Resource

namespace Resource

/-- The property that holds the display name. -/
def nameProperty : Text := "name"

/-- The property that holds the name of the hosted service. -/
def serviceProperty : Text := "service"

/-- A property, unless it is missing or empty. -/
def property? (r : Resource) (name : Text) : Option Text :=
  (r.properties.get? name).filter fun value => !value.isEmpty

/-- The name shown for the resource: its name property, else its identifier. -/
def displayName (r : Resource) : Text := (r.property? nameProperty).getD r.id

/-- The service that the resource is tagged with. -/
def service? (r : Resource) : Option Text := r.property? serviceProperty

/-- The part of a text after its last slash. -/
def lastSegment (t : Text) : Text := (t.reverse.takeWhile (· != ↑ '/')).reverse

/-- The last segment of the type, with its version; the whole type if that segment is empty. -/
def shortType (r : Resource) : Text :=
  let segment := lastSegment r.type
  if segment.isEmpty then r.type else segment

/-- The properties sorted by name. -/
def sortedProperties (r : Resource) : List (Text × Text) :=
  r.properties.entries.mergeSort fun a b => Text.atMost a.1 b.1

/-- One line of JSON with every field of the resource. -/
def view (r : Resource) : Text :=
  Json.object [
    ("body", Json.string (r.body.getD [])),
    ("connections", Json.array (r.connections.map Json.string)),
    ("id", Json.string r.id),
    ("properties", Json.object (r.sortedProperties.map fun (name, value) =>
      (name, Json.string value))),
    ("type", Json.string r.type)]

end Resource

end Groundplan

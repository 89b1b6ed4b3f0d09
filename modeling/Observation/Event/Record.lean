import Observation.Event
import Observation.Json.Reader
import Observation.Json.Value
import Observation.Path.Parse

/-!
# Events as JSON

* `Event.toValue`, `Event.toJson` - an event as an object with its five fields in order.
* `Event.reader`, `Event.ofJson` - reads an event; the mixin types may be left out.
* `QualifiedName.reader`, `ItemPath.reader`, `EventType.reader`, `Parent.reader` - the parts.
-/

namespace Observation

/-- Reads a name from a string. -/
def QualifiedName.reader : Json.Reader QualifiedName :=
  Json.mapped Json.text fun s => (QualifiedName.parse s).mapError NameError.message

/-- Reads a path from a string. -/
def ItemPath.reader : Json.Reader ItemPath :=
  Json.mapped Json.text fun s => (ItemPath.parse s).mapError PathError.message

namespace EventType

/-- The type of a name, or the error that lists the known ones. -/
def ofName (name : String) : Except Json.ReadError EventType :=
  match ofKey? name with
  | some t => .ok t
  | none => .error (.unknownVariant name (all.map key))

/-- Reads an event type: its name, or an object with `null` under its name. -/
def reader : Json.Reader EventType :=
  Json.tagged ofName fun name => do
    let t ← ofName name
    return do
      Json.unit
      return t

/-- An event type is written by its name. -/
def toValue (t : EventType) : Json.Value :=
  .text t.key

end EventType

namespace Parent

/-- The reader of what stands under one of the two names. -/
def payload (name : String) : Except Json.ReadError (Json.Reader Parent) :=
  if name = "uuid" then .ok (identified <$> Json.text)
  else if name = "path" then .ok (located <$> ItemPath.reader)
  else .error (.unknownVariant name ["uuid", "path"])

/-- Reads an owner: an object with one member. -/
def reader : Json.Reader Parent :=
  Json.tagged
    (fun name => do
      let _ ← payload name
      .error (.unwantedType .bareVariant "newtype variant"))
    payload

/-- An owner is written as an object with one member. -/
def toValue : Parent → Json.Value
  | identified id => .object [("uuid", .text id)]
  | located path => .object [("path", .text path.text)]

end Parent

namespace Event

/-- The fields of an event that have been read so far. -/
structure Draft where
  type : Option EventType := none
  parent : Option Parent := none
  path : Option ItemPath := none
  primaryType : Option QualifiedName := none
  mixinTypes : Option (List QualifiedName) := none

/-- The fields of an event in order. -/
def fields : List (Json.Field Draft) := [
  .required "type" (·.type) (fun d v => { d with type := some v }) EventType.reader,
  .required "parent" (·.parent) (fun d v => { d with parent := some v }) Parent.reader,
  .required "path" (·.path) (fun d v => { d with path := some v }) ItemPath.reader,
  .required "primaryType" (·.primaryType) (fun d v => { d with primaryType := some v })
    QualifiedName.reader,
  .defaulted "mixinTypes" (·.mixinTypes) (fun d v => { d with mixinTypes := some v })
    (Json.listOf QualifiedName.reader)]

/-- The event of a draft; the first field that is missing is the error. -/
def Draft.build (d : Draft) : Except Json.ReadError Event := do
  let type ← Json.filled "type" d.type
  let parent ← Json.filled "parent" d.parent
  let path ← Json.filled "path" d.path
  let primaryType ← Json.filled "primaryType" d.primaryType
  return make type parent path primaryType (d.mixinTypes.getD [])

/-- Reads an event. -/
def reader : Json.Reader Event :=
  Json.record "struct Event" fields {} Draft.build

/-- Reads a text that holds an event and nothing else. -/
def ofJson (s : String) : Except Json.ReadError Event :=
  Json.document reader s

/-- An event is written with all its fields; mixin types stand in order. -/
def toValue (e : Event) : Json.Value :=
  .object [
    ("type", e.type.toValue),
    ("parent", e.parent.toValue),
    ("path", .text e.path.text),
    ("primaryType", .text e.primaryType.text),
    ("mixinTypes", .texts (e.mixinTypes.toList.map QualifiedName.text))]

/-- The text of an event, on one line and without blanks. -/
def toJson (e : Event) : String :=
  e.toValue.compact

end Event

end Observation

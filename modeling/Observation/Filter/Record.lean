import Observation.Event.Record
import Observation.Failure
import Observation.Filter

/-!
# Filters as records and as JSON

A record holds the criteria of a filter as plain texts, as they are exchanged.

* `FilterRecord` - the record; `EventFilter.toRecord` and `FilterRecord.toFilter` convert.
* `FilterRecord.ofJson`, `FilterRecord.toValue` - a record as JSON.
* `EventFilter.ofJson`, `EventFilter.toJson` - a filter as JSON.
-/

namespace Observation

/-- The criteria of a filter as they are exchanged. -/
structure FilterRecord where
  eventTypes : UInt32
  absPath : String
  isDeep : Bool
  uuids : Option (List String)
  nodeTypeNames : Option (List String)
  noLocal : Bool
  deriving DecidableEq, Repr

/-- The record of a filter: sets as lists in increasing order. -/
def EventFilter.toRecord (f : EventFilter) : FilterRecord where
  eventTypes := f.types.bits
  absPath := f.path.text
  isDeep := f.isDeep
  uuids := f.parents.map (·.toList)
  nodeTypeNames := f.nodeTypes.map fun names => names.toList.map QualifiedName.text
  noLocal := f.noLocal

namespace FilterRecord

/-- Reads the names of a set, in order; an absent set stays absent. -/
def readNames : Option (List String) → Except NameError (Option (List QualifiedName))
  | none => .ok none
  | some names => some <$> names.mapM QualifiedName.parse

/-- The filter of a record; the path is read first, then the names in order. -/
def toFilter (r : FilterRecord) : Except Failure EventFilter := do
  let path ← (ItemPath.parse r.absPath).mapError fun e =>
    Failure.invalidFilterRecord "absPath" e.message
  let nodeTypes ← (readNames r.nodeTypeNames).mapError fun e =>
    Failure.invalidFilterRecord "nodeTypeNames" e.message
  return .make ⟨r.eventTypes⟩ path r.isDeep r.uuids nodeTypes r.noLocal

/-- The fields of a record that have been read so far. -/
structure Draft where
  eventTypes : Option UInt32 := none
  absPath : Option String := none
  isDeep : Option Bool := none
  uuids : Option (Option (List String)) := none
  nodeTypeNames : Option (Option (List String)) := none
  noLocal : Option Bool := none

/-- The fields of a record in order. -/
def fields : List (Json.Field Draft) := [
  .required "eventTypes" (·.eventTypes) (fun d v => { d with eventTypes := some v }) Json.word,
  .required "absPath" (·.absPath) (fun d v => { d with absPath := some v }) Json.text,
  .defaulted "isDeep" (·.isDeep) (fun d v => { d with isDeep := some v }) Json.flag,
  .defaulted "uuids" (·.uuids) (fun d v => { d with uuids := some v })
    (Json.optional (Json.listOf Json.text)),
  .defaulted "nodeTypeNames" (·.nodeTypeNames) (fun d v => { d with nodeTypeNames := some v })
    (Json.optional (Json.listOf Json.text)),
  .defaulted "noLocal" (·.noLocal) (fun d v => { d with noLocal := some v }) Json.flag]

/-- The record of a draft; the first field that is missing is the error. -/
def Draft.build (d : Draft) : Except Json.ReadError FilterRecord := do
  let eventTypes ← Json.filled "eventTypes" d.eventTypes
  let absPath ← Json.filled "absPath" d.absPath
  return {
    eventTypes, absPath
    isDeep := d.isDeep.getD false
    uuids := d.uuids.getD none
    nodeTypeNames := d.nodeTypeNames.getD none
    noLocal := d.noLocal.getD false }

/-- Reads a record. -/
def reader : Json.Reader FilterRecord :=
  Json.record "struct EventFilterRecord" fields {} Draft.build

/-- Reads a text that holds a record and nothing else. -/
def ofJson (s : String) : Except Json.ReadError FilterRecord :=
  Json.document reader s

/-- A record is written with its fields in order; absent sets are left out. -/
def toValue (r : FilterRecord) : Json.Value :=
  let set (name : String) (values : Option (List String)) : List (String × Json.Value) :=
    (values.map fun vs => (name, Json.Value.texts vs)).toList
  .object <|
    [("eventTypes", .number r.eventTypes.toNat), ("absPath", .text r.absPath),
      ("isDeep", .boolean r.isDeep)]
    ++ set "uuids" r.uuids ++ set "nodeTypeNames" r.nodeTypeNames
    ++ [("noLocal", .boolean r.noLocal)]

end FilterRecord

namespace EventFilter

/-- Reads a text that holds the record of a filter. -/
def ofJson (s : String) : Except Failure EventFilter := do
  let record ← (FilterRecord.ofJson s).mapError fun e => Failure.serialization e.message
  record.toFilter

/-- The text of a filter, on one line and without blanks. -/
def toJson (f : EventFilter) : String :=
  f.toRecord.toValue.compact

end EventFilter

end Observation

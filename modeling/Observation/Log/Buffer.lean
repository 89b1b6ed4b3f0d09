import Observation.Log.Record

/-!
# Collected log records

* `Buffer` - the records collected since the buffer was last cleared, oldest first.
* `Buffer.recordsFor`, `Buffer.countWhere` - looking records up.
* `Buffer.expect` - demands a record.
-/

namespace Observation.Log

/-- Collected records, oldest first. -/
structure Buffer where
  records : List LogRecord := []
  deriving DecidableEq, Repr

namespace Buffer

/-- The buffer without records. -/
def empty : Buffer := {}

/-- Collects more records. -/
def append (b : Buffer) (records : List LogRecord) : Buffer :=
  ⟨b.records ++ records⟩

/-- Forgets all records. -/
def clear (_ : Buffer) : Buffer :=
  empty

/-- How many records are held. -/
def size (b : Buffer) : Nat :=
  b.records.length

/-- The records of an operation that say that something happened. -/
def recordsFor (b : Buffer) (operation happening : String) : List LogRecord :=
  b.records.filter fun r => r.operation? == some operation && r.happening? == some happening

/-- How many records satisfy a condition. -/
def countWhere (b : Buffer) (condition : LogRecord → Bool) : Nat :=
  b.records.countP condition

/-- Whether a record has a field with a given text. -/
def hasField (name value : String) (r : LogRecord) : Bool :=
  (r.texts "").any fun f => f.1 == name && f.2 == value

/-- Demands a record of an operation that says that something happened. -/
def expect (b : Buffer) (operation happening : String) : Except String Unit :=
  if b.recordsFor operation happening = [] then
    .error ("Expected event op=" ++ operation ++ " event=" ++ happening ++ " not found in "
      ++ toString b.size ++ " captured events")
  else .ok ()

end Buffer

end Observation.Log

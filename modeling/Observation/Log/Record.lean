import Observation.Json.Value
import Observation.Text.Quoted

/-!
# Log records

A record has a level, the part of the program it comes from, perhaps a message, and named fields
in order.

* `Level`, `FieldValue`, `LogRecord` - the records.
* `LogRecord.line` - a record as a line for people.
* `LogRecord.toValue` - a record as a JSON object.
* `Field` - the names of fields, and `Happening` the names of what is logged.
-/

namespace Observation.Log

/-- How urgent a record is. -/
inductive Level where
  | error
  | warn
  | info
  | debug
  deriving DecidableEq, Repr

namespace Level

/-- The name of a level. -/
def label : Level → String
  | error => "ERROR"
  | warn => "WARN"
  | info => "INFO"
  | debug => "DEBUG"

/-- How many levels are at least as urgent. -/
def rank : Level → Nat
  | error => 1
  | warn => 2
  | info => 3
  | debug => 4

end Level

/-- The value of a field. -/
inductive FieldValue where
  /-- A text that lines show in quotes. -/
  | quoted (s : String)
  /-- A text that lines show as it is. -/
  | shown (s : String)
  | number (n : Int)
  | flag (b : Bool)
  /-- The milliseconds since the operation began; they are known when the record is shown. -/
  | elapsed
  /-- No value: the record has the field, but nothing is shown of it. -/
  | absent
  deriving DecidableEq, Repr

namespace FieldValue

/-- The value as a plain text, where `clock` stands for elapsed time; none if it is absent. -/
def text? (clock : String) : FieldValue → Option String
  | quoted s => some s
  | shown s => some s
  | number n => some (toString n)
  | flag b => some (toString b)
  | elapsed => some clock
  | absent => none

/-- The value as lines show it. -/
def inLine? (clock : String) : FieldValue → Option String
  | quoted s => some (Text.quote s)
  | v => v.text? clock

/-- The value in a JSON object, where elapsed time is `clock` milliseconds. -/
def toValue? (clock : Nat) : FieldValue → Option Json.Value
  | quoted s => some (.text s)
  | shown s => some (.text s)
  | number n => some (.number n)
  | flag b => some (.boolean b)
  | elapsed => some (.number clock)
  | absent => none

end FieldValue

/-! ## Names of fields and of what is logged -/

namespace Field

/-- The part of the program that logs. -/
def component : String := "component"

/-- The operation that is under way. -/
def operation : String := "op"

/-- What happened. -/
def happening : String := "event"

/-- How long an operation took, in milliseconds. -/
def durationMs : String := "duration_ms"

/-- The type of an event. -/
def eventType : String := "event_type"

/-- The path of an event. -/
def eventPath : String := "event_path"

/-- The path of a filter. -/
def filterPath : String := "filter_path"

/-- How many events were read. -/
def eventsRead : String := "events_read"

/-- How many events were accepted. -/
def eventsAccepted : String := "events_accepted"

/-- The kind of a failure. -/
def errorKind : String := "err.kind"

/-- The code of a failure. -/
def errorCode : String := "err.code"

/-- The message of a record, which counts as one of its fields. -/
def message : String := "message"

/-- The fields whose names are fixed. -/
def all : List String :=
  [component, operation, happening, durationMs, eventType, eventPath, filterPath, eventsRead,
    eventsAccepted, errorKind, errorCode]

end Field

namespace Happening

/-- An operation starts. -/
def start : String := "start"

/-- An operation ends well. -/
def finish : String := "end"

/-- An operation fails. -/
def failure : String := "end_error"

/-- A path was malformed. -/
def malformedPath : String := "malformed_path"

/-- Everything that is logged under a fixed name. -/
def all : List String :=
  [start, finish, failure, malformedPath]

end Happening

/-! ## Records -/

/-- One record of the log. -/
structure LogRecord where
  level : Level
  target : String
  message : Option String := none
  fields : List (String × FieldValue)
  deriving DecidableEq, Repr

namespace LogRecord

/-- The value of a field, if the record has it. -/
def field? (r : LogRecord) (name : String) : Option FieldValue :=
  (r.fields.find? fun f => f.1 == name).map (·.2)

/-- The text of a field, if the record has it and shows something of it. -/
def text? (r : LogRecord) (name : String) : Option String :=
  (r.field? name).bind (·.text? "")

/-- Whether the record has a field, be its value absent or not; the message is one. -/
def hasField (r : LogRecord) (name : String) : Bool :=
  r.fields.any (fun f => f.1 == name) || (r.message.isSome && name == Field.message)

/-- The fields of which `view` shows something. -/
def visible {α : Type} (r : LogRecord) (view : FieldValue → Option α) : List (String × α) :=
  r.fields.filterMap fun f => (view f.2).map fun v => (f.1, v)

/-- All fields as plain texts, the message as one of them. -/
def texts (r : LogRecord) (clock : String) : List (String × String) :=
  (r.message.map fun m => (Field.message, m)).toList ++ r.visible (·.text? clock)

/-- The operation the record belongs to. -/
def operation? (r : LogRecord) : Option String :=
  r.text? Field.operation

/-- What the record says has happened. -/
def happening? (r : LogRecord) : Option String :=
  r.text? Field.happening

/-- The record as a line: level, origin, message, fields.  A message cannot steer the terminal. -/
def line (r : LogRecord) (clock : String) : String :=
  let message := (r.message.map Text.disarm).toList
  let fields := (r.visible (·.inLine? clock)).map fun f => f.1 ++ "=" ++ f.2
  r.level.label ++ " " ++ r.target ++ ": " ++ String.intercalate " " (message ++ fields)

/-- The record as a JSON object. -/
def toValue (r : LogRecord) (clock : Nat) : Json.Value :=
  let message := (r.message.map fun m => (Field.message, Json.Value.text m)).toList
  .object [
    ("level", .text r.level.label),
    ("fields", .object (message ++ r.visible (·.toValue? clock))),
    ("target", .text r.target)]

end LogRecord

end Observation.Log

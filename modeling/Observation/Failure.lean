import Observation.EventType
import Observation.Path.Error

/-!
# Failures and their reports

* `Failure` - everything that can go wrong, with `Failure.message` and `Failure.detail`.
* `FailureKind` - the kinds of failure, each with a stable code.
* `FailureReport` - a kind with what is known about the operation, the path and the field;
  `Failure.report` makes one of a failure.
-/

namespace Observation

/-- What went wrong. -/
inductive Failure where
  | path (error : PathError)
  | name (error : NameError)
  | unknownEventType (bits : UInt32)
  | invalidFilterRecord (field reason : String)
  | invalidEvent (line : Nat) (reason : String)
  | serialization (reason : String)
  | io (reason : String)
  deriving DecidableEq, Repr

namespace Failure

/-- The failure as a sentence. -/
def message : Failure → String
  | path error => error.message
  | name error => error.message
  | unknownEventType bits => unknownTypeMessage bits
  | invalidFilterRecord field reason =>
    "Invalid filter record field '" ++ field ++ "': " ++ reason
  | invalidEvent line reason => "Invalid event at line " ++ toString line ++ ": " ++ reason
  | serialization reason => "Serialization error: " ++ reason
  | io reason => "I/O error: " ++ reason

/-- The failure with its parts spelled out. -/
def detail : Failure → String
  | path error => Text.wrapped "Path" error.detail
  | name error => Text.wrapped "Name" error.detail
  | unknownEventType bits => Text.record "UnknownEventType" [("bits", toString bits.toNat)]
  | invalidFilterRecord field reason =>
    Text.record "InvalidFilterRecord" [("field", Text.quote field), ("reason", Text.quote reason)]
  | invalidEvent line reason =>
    Text.record "InvalidEvent" [("line", toString line), ("reason", Text.quote reason)]
  | serialization reason => Text.wrapped "Serialization" (Text.quote reason)
  | io reason => Text.wrapped "Io" (Text.quote reason)

end Failure

/-- The kinds of failure. -/
inductive FailureKind where
  | malformedPath
  | invalidName
  | unknownEventType
  | invalidEvent
  | invalidFilterRecord
  | serialization
  | io
  deriving DecidableEq, Repr

namespace FailureKind

/-- Every kind of failure. -/
def all : List FailureKind :=
  [malformedPath, invalidName, unknownEventType, invalidEvent, invalidFilterRecord,
    serialization, io]

/-- The stable code of a kind. -/
def code : FailureKind → String
  | malformedPath => "ERR_MALFORMED_PATH"
  | invalidName => "ERR_INVALID_NAME"
  | unknownEventType => "ERR_UNKNOWN_EVENT_TYPE"
  | invalidEvent => "ERR_INVALID_EVENT"
  | invalidFilterRecord => "ERR_INVALID_FILTER_RECORD"
  | serialization => "ERR_SERIALIZATION"
  | io => "ERR_IO"

/-- The name of a kind. -/
def label : FailureKind → String
  | malformedPath => "MalformedPath"
  | invalidName => "InvalidName"
  | unknownEventType => "UnknownEventType"
  | invalidEvent => "InvalidEvent"
  | invalidFilterRecord => "InvalidFilterRecord"
  | serialization => "Serialization"
  | io => "Io"

end FailureKind

/-- A kind of failure with what is known about it. -/
structure FailureReport where
  kind : FailureKind
  operation : Option String := none
  path : Option String := none
  field : Option String := none
  message : String := ""
  deriving DecidableEq, Repr

namespace FailureReport

/-- The report on one line: the code, then whatever else is known. -/
def text (r : FailureReport) : String :=
  let operation := (r.operation.map fun o => " in operation '" ++ o ++ "'").getD ""
  let message := if r.message = "" then "" else ": " ++ r.message
  let field := (r.field.map fun f => " (field: " ++ f ++ ")").getD ""
  let path := (r.path.map fun p => " (path: " ++ p ++ ")").getD ""
  "[" ++ r.kind.code ++ "]" ++ operation ++ message ++ field ++ path

end FailureReport

/-- The report of an error about a path. -/
def PathError.report (e : PathError) : FailureReport where
  kind := .malformedPath
  path := e.subject
  message := e.message

/-- The report of a failure. -/
def Failure.report : Failure → FailureReport
  | path error => error.report
  | name error => { kind := .invalidName, message := error.message }
  | unknownEventType bits => { kind := .unknownEventType, message := unknownTypeMessage bits }
  | invalidFilterRecord field reason =>
    { kind := .invalidFilterRecord, field := some field, message := reason }
  | invalidEvent line reason =>
    { kind := .invalidEvent, message := "line " ++ toString line ++ ": " ++ reason }
  | serialization reason => { kind := .serialization, message := reason }
  | io reason => { kind := .io, message := reason }

end Observation

import Observation.Failure
import Observation.Log.Record

/-!
# Operations in the log

An operation is bracketed by one record at its start and one at its end, which tells success from
failure.

* `Operation` - the part of the program and the name of an operation.
* `Operation.start`, `Operation.finish`, `Operation.fail` - the records.
-/

namespace Observation.Log

/-- A named operation of one part of the program. -/
structure Operation where
  component : String
  name : String
  deriving DecidableEq, Repr

namespace Operation

/-- A record of the operation: the fields that tell what happened come first. -/
def record (op : Operation) (level : Level) (happening : String)
    (fields : List (String × FieldValue)) : LogRecord where
  level := level
  target := op.component
  fields :=
    [(Field.component, .quoted op.component), (Field.operation, .quoted op.name),
      (Field.happening, .quoted happening)] ++ fields

/-- The record at the start. -/
def start (op : Operation) (fields : List (String × FieldValue)) : LogRecord :=
  op.record .info Happening.start fields

/-- The record at a successful end. -/
def finish (op : Operation) (duration : FieldValue) (fields : List (String × FieldValue)) :
    LogRecord :=
  op.record .info Happening.finish ((Field.durationMs, duration) :: fields)

/-- The fields that describe a failure. -/
def failureFields (r : FailureReport) : List (String × FieldValue) :=
  [(Field.errorKind, .shown r.kind.label), (Field.errorCode, .quoted r.kind.code)]
    ++ [("err.field", (r.field.map FieldValue.quoted).getD .absent), ("error", .shown r.text)]

/-- The record at the end of an operation that failed. -/
def fail (op : Operation) (failure : Failure) (duration : FieldValue)
    (fields : List (String × FieldValue)) : LogRecord :=
  op.record .error Happening.failure
    ((Field.durationMs, duration) :: failureFields failure.report ++ fields)

end Operation

end Observation.Log

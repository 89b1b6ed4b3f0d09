import Observation.Filter
import Observation.Log.Buffer
import Observation.Log.Operation

/-!
# Malformed paths in the log

A malformed path shows up twice: as a warning about the event, and as a detail about the filter.

* `malformedPathRecords` - the two records.
* `recordingSink`, `loggingSink` - sinks that keep the reports, or the records of the log.
* `EventFilter.accept` - decides about an event and logs to a buffer.
-/

namespace Observation

/-- The operation under which malformed paths are logged. -/
def acceptOperation : Log.Operation :=
  ⟨"obsfilter_core::filter::diagnostics", "accept"⟩

/-- The warning and the detail about a malformed path. -/
def malformedPathRecords (f : EventFilter) (e : Event) (error : PathError) :
    List Log.LogRecord :=
  let warning := acceptOperation.record .warn Log.Happening.malformedPath [
    (Log.Field.eventType, .shown e.type.label),
    (Log.Field.eventPath, .shown e.path.text),
    (Log.Field.errorCode, .quoted error.report.kind.code)]
  let detail := acceptOperation.record .debug Log.Happening.malformedPath [
    (Log.Field.filterPath, .shown f.path.text),
    ("is_deep", .flag f.isDeep),
    ("detail", .shown error.detail)]
  [{ warning with message := some ("malformed path: " ++ error.message) }, detail]

/-- A malformed path met in evaluating a filter. -/
structure MalformedPath where
  filter : EventFilter
  event : Event
  error : PathError
  deriving DecidableEq, Repr

/-- Keeps the reports, oldest first. -/
def recordingSink : DiagnosticSink (List MalformedPath) :=
  fun filter event error reports => reports ++ [⟨filter, event, error⟩]

/-- Keeps the records of the log. -/
def loggingSink : DiagnosticSink Log.Buffer :=
  fun filter event error log => log.append (malformedPathRecords filter event error)

/-- Decides about an event, and logs a malformed path. -/
def EventFilter.accept (f : EventFilter) (e : Event) (isLocal : Bool) (log : Log.Buffer) :
    Bool × Log.Buffer :=
  f.acceptWith e isLocal loggingSink log

end Observation

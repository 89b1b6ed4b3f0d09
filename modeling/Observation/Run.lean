import Observation.CommandLine
import Observation.Evaluation

/-!
# Running a command

* `Notice` - what goes to the error stream: records of the log, and lines for the user.
* `Outcome` - exit code, output and notices of a run; `Outcome.shown` selects the notices that a
  profile shows.
* `Command.run` - runs a command on the contents of files.
-/

namespace Observation

/-- Something for the error stream. -/
inductive Notice where
  | logged (record : Log.LogRecord)
  | line (s : String)
  deriving DecidableEq, Repr

/-- What a run leaves behind. -/
structure Outcome where
  exitCode : Nat
  output : String
  notices : List Notice
  deriving DecidableEq, Repr

namespace Outcome

/-- The records of the log, shown or not. -/
def records (o : Outcome) : List Log.LogRecord :=
  o.notices.filterMap fun n =>
    match n with
    | .logged r => some r
    | .line _ => none

/-- The notices that a profile shows; lines for the user always are. -/
def shown (o : Outcome) (profile : Log.Profile) (wish : Option String) : List Notice :=
  o.notices.filter fun n =>
    match n with
    | .logged r => profile.shows wish r
    | .line _ => true

end Outcome

/-- Reads the filter that a file holds. -/
def loadFilter (file : FileContent) : Except Failure EventFilter := do
  let text ← file.text.mapError fun e => Failure.io e.message
  EventFilter.ofJson text

/-- The notices at the end of an operation that failed. -/
def failureNotices (op : Log.Operation) (failure : Failure) : List Notice :=
  [.logged (op.fail failure .elapsed []), .line ("Error: " ++ failure.message)]

/-! ## Evaluating -/

/-- The operation of evaluating a filter. -/
def evalOperation : Log.Operation := ⟨"obsfilter::commands::eval", "eval"⟩

/-- Evaluates the filter of one file on the events of another. -/
def evaluateFiles (filter events : FileContent) (isLocal : Bool) : Evaluation :=
  match loadFilter filter with
  | .error failure => ⟨{}, some failure⟩
  | .ok f =>
    match events with
    | .error e => ⟨{}, some (.io e.message)⟩
    | .ok bytes => f.evaluate isLocal (.ofBytes bytes)

/-- The notices at the successful end of an evaluation. -/
def evalNotices (p : Progress) : List Notice :=
  [.logged (evalOperation.finish .elapsed [
      (Log.Field.eventsRead, .number p.read),
      (Log.Field.eventsAccepted, .number p.accepted.size)]),
    .line (toString p.accepted.size ++ " of " ++ toString p.read ++ " events accepted")]

/-- Runs an evaluation; the names of the files only show in the log. -/
def runEval (filterName eventsName : String) (isLocal : Bool) (filter events : FileContent) :
    Outcome :=
  let result := evaluateFiles filter events isLocal
  let start := evalOperation.start [("filter", .shown filterName), ("events", .shown eventsName)]
  let during := result.progress.log.records.map .logged
  let (exitCode, finish) :=
    match result.failure with
    | none => (0, evalNotices result.progress)
    | some failure => (1, failureNotices evalOperation failure)
  { exitCode, output := result.progress.output, notices := .logged start :: during ++ finish }

/-! ## Checking -/

/-- The operation of checking a filter. -/
def checkOperation : Log.Operation := ⟨"obsfilter::commands::check", "check"⟩

/-- A warning about a filter. -/
def checkWarning (message : String) : Log.LogRecord where
  level := .warn
  target := checkOperation.component
  message := some message
  fields := [(Log.Field.operation, .quoted checkOperation.name)]

/-- The warnings about the event types of a filter. -/
def checkWarnings (f : EventFilter) : List Log.LogRecord :=
  let empty :=
    if f.types.isEmpty then
      [checkWarning "filter selects no event types and rejects every event"]
    else []
  let unknown :=
    match f.types.types with
    | .ok _ => []
    | .error bits =>
      [checkWarning ("filter mask carries bits outside the known event types: "
        ++ unknownTypeMessage bits)]
  empty ++ unknown

/-- Runs a check; the name of the file only shows in the log. -/
def runCheck (filterName : String) (filter : FileContent) : Outcome :=
  let start := Notice.logged (checkOperation.start [("filter", .shown filterName)])
  match loadFilter filter with
  | .ok f =>
    { exitCode := 0
      output := f.toRecord.toValue.pretty ++ "\n"
      notices := start :: (checkWarnings f).map .logged
        ++ [.logged (checkOperation.finish .elapsed [])] }
  | .error failure =>
    { exitCode := 1, output := "", notices := start :: failureNotices checkOperation failure }

/-! ## Commands -/

namespace Command

/-- The names of the files that a command reads. -/
def files : Command → List String
  | eval filter events _ => [filter, events]
  | check filter => [filter]

/-- Runs a command, where `read` gives the content of a file. -/
def run (read : String → FileContent) : Command → Outcome
  | eval filter events isLocal => runEval filter events isLocal (read filter) (read events)
  | check filter => runCheck filter (read filter)

end Command

end Observation

import Observation.Filter.Diagnostics
import Observation.Filter.Record
import Observation.Input
import Observation.Text.Blank

/-!
# Evaluating a filter on a stream of events

Events stand one on a line; blank lines hold none.  The first line that holds no event ends the
evaluation, and what was accepted before it stays accepted.

* `Progress`, `Progress.take` - what has been read, accepted and logged so far.
* `evaluateLines`, `EventFilter.evaluate` - the whole evaluation.
-/

namespace Observation

/-- What has been read, accepted and logged so far. -/
structure Progress where
  read : Nat := 0
  accepted : Array Event := #[]
  log : Log.Buffer := {}
  deriving DecidableEq, Repr

namespace Progress

/-- Takes one more event in. -/
def take (p : Progress) (f : EventFilter) (isLocal : Bool) (e : Event) : Progress :=
  let (accepted, log) := f.accept e isLocal p.log
  { read := p.read + 1
    accepted := if accepted then p.accepted.push e else p.accepted
    log }

/-- The accepted events, one on a line. -/
def output (p : Progress) : String :=
  String.join (p.accepted.toList.map fun e => e.toJson ++ "\n")

end Progress

/-- How an evaluation ended. -/
structure Evaluation where
  progress : Progress
  failure : Option Failure
  deriving DecidableEq, Repr

/-- Reads events from lines, the first of which has the given number. -/
def evaluateLines (f : EventFilter) (isLocal : Bool) :
    Progress → Nat → List String → Evaluation
  | p, _, [] => ⟨p, none⟩
  | p, number, line :: lines =>
    if Text.isBlankText line then evaluateLines f isLocal p (number + 1) lines
    else
      match Event.ofJson line with
      | .error e => ⟨p, some (.invalidEvent number e.message)⟩
      | .ok e => evaluateLines f isLocal (p.take f isLocal e) (number + 1) lines

/-- Reads events from the lines of a file; a fault of the file shows after its readable lines. -/
def EventFilter.evaluate (f : EventFilter) (isLocal : Bool) (input : InputLines) : Evaluation :=
  let result := evaluateLines f isLocal {} 1 input.lines
  match result.failure, input.fault with
  | none, some fault => { result with failure := some (.io fault.message) }
  | _, _ => result

end Observation

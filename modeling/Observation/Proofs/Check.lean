import Observation.Proofs.Evaluation.Reference
import Observation.Proofs.Filter.Relay
import Observation.Proofs.Json.Pretty
import Observation.Run

/-!
# Checking

A check prints the filter of a text in its own spelling.  Whatever the text looks like, the print is
the same for the same filter, and it may stand in for the text.

* `EventFilter.printed` - the print of a filter.
* `EventFilter.isDocument_printed`, `EventFilter.ofJson_printed`, `EventFilter.printed_injective` -
  it is JSON, holds the filter, and no other filter has it.
* `evaluateFiles_congr`, `runEval_congr` - an evaluation knows of a file what filter it holds.
* `runCheck_canonical` - checks print texts in one spelling.
-/

namespace Observation

/-! ## Prints -/

namespace EventFilter

/-- What a check prints of a filter. -/
def printed (f : EventFilter) : String :=
  f.toRecord.toValue.pretty ++ "\n"

theorem isDocument_printed (f : EventFilter) : Json.IsDocument f.printed := by
  obtain ⟨as, cs, bs, ha, hb, hcs, hs⟩ := f.toRecord.toValue.holds_pretty
  exact ⟨as, cs, bs, ha, hb, hcs.valueText, hs⟩

theorem ofJson_printed (f : EventFilter) : ofJson f.printed = .ok f := by
  have hrecord : FilterRecord.ofJson f.printed = .ok f.toRecord :=
    Json.document_of_written f.toRecord.reads_reader f.toRecord.toValue.holds_pretty
  unfold ofJson
  rw [hrecord]
  exact f.toFilter_toRecord

theorem printed_injective : Function.Injective printed := by
  intro f g h
  have hf := f.ofJson_printed
  rw [h, g.ofJson_printed, Except.ok.injEq] at hf
  exact hf.symm

end EventFilter

/-! ## Files with the same filter -/

section Files

variable {file file' : FileContent}

theorem evaluateFiles_congr (h : loadFilter file = loadFilter file') (events : FileContent)
    (isLocal : Bool) : evaluateFiles file events isLocal = evaluateFiles file' events isLocal := by
  unfold evaluateFiles
  rw [h]

theorem runEval_congr (h : loadFilter file = loadFilter file') (filterName eventsName : String)
    (isLocal : Bool) (events : FileContent) :
    runEval filterName eventsName isLocal file events =
      runEval filterName eventsName isLocal file' events := by
  unfold runEval
  rw [evaluateFiles_congr h]

end Files

/-! ## Checks -/

section Check

variable {text : String} {f : EventFilter} {failure : Failure}

theorem runCheck_of_ok (h : EventFilter.ofJson text = .ok f) (name : String) :
    (runCheck name (.ok text.toUTF8)).exitCode = 0 ∧
      (runCheck name (.ok text.toUTF8)).output = f.printed := by
  unfold runCheck
  rw [loadFilter_toUTF8, h]
  exact ⟨rfl, rfl⟩

theorem runCheck_of_error (h : EventFilter.ofJson text = .error failure) (name : String) :
    (runCheck name (.ok text.toUTF8)).exitCode = 1 ∧
      (runCheck name (.ok text.toUTF8)).output = "" := by
  unfold runCheck
  rw [loadFilter_toUTF8, h]
  exact ⟨rfl, rfl⟩

theorem exitCode_runCheck_eq_zero_iff (name text : String) :
    (runCheck name (.ok text.toUTF8)).exitCode = 0 ↔ ∃ f, EventFilter.ofJson text = .ok f := by
  cases h : EventFilter.ofJson text with
  | ok f =>
    rw [(runCheck_of_ok h name).1]
    exact ⟨fun _ => ⟨f, rfl⟩, fun _ => rfl⟩
  | error failure =>
    rw [(runCheck_of_error h name).1]
    simp

/-- A check succeeds on the texts that hold a filter, and prints nothing of the others.  The print
is JSON that holds the same filter, is printed as it is, and stands in for the text in every
evaluation; and other texts have the same print if they hold the same filter, and only then. -/
theorem runCheck_canonical (name text : String) :
    let check := runCheck name (.ok text.toUTF8)
    (check.exitCode = 0 ↔ ∃ f, EventFilter.ofJson text = .ok f) ∧
    (∀ failure, EventFilter.ofJson text = .error failure → check.output = "") ∧
    ∀ f, EventFilter.ofJson text = .ok f →
      Json.IsDocument check.output ∧ EventFilter.ofJson check.output = .ok f ∧
      (∀ name', (runCheck name' (.ok check.output.toUTF8)).exitCode = 0 ∧
        (runCheck name' (.ok check.output.toUTF8)).output = check.output) ∧
      (∀ events isLocal, evaluateFiles (.ok check.output.toUTF8) events isLocal =
        evaluateFiles (.ok text.toUTF8) events isLocal) ∧
      (∀ filterName eventsName isLocal events,
        runEval filterName eventsName isLocal (.ok check.output.toUTF8) events =
          runEval filterName eventsName isLocal (.ok text.toUTF8) events) ∧
      ∀ name' text' f', EventFilter.ofJson text' = .ok f' →
        ((runCheck name' (.ok text'.toUTF8)).output = check.output ↔ f' = f) := by
  intro check
  refine ⟨exitCode_runCheck_eq_zero_iff name text, ?_, ?_⟩
  · intro failure h
    exact (runCheck_of_error h name).2
  · intro f h
    have houtput : check.output = f.printed := (runCheck_of_ok h name).2
    have hload : loadFilter (.ok f.printed.toUTF8) = loadFilter (.ok text.toUTF8) := by
      rw [loadFilter_toUTF8, loadFilter_toUTF8, f.ofJson_printed, h]
    rw [houtput]
    refine ⟨f.isDocument_printed, f.ofJson_printed, runCheck_of_ok f.ofJson_printed,
      evaluateFiles_congr hload, runEval_congr hload, ?_⟩
    intro name' text' f' h'
    rw [(runCheck_of_ok h' name').2]
    exact EventFilter.printed_injective.eq_iff

end Check

end Observation

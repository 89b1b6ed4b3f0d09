import Observation.Proofs.Log.Reports

/-!
# Operations between brackets

A run logs one operation: a record opens it, a record closes it, and neither opens nor closes
anything in between.  The exit code, the line for the user and the closing record are three accounts
of how the run has ended, and they agree.

* `Outcome.lines` - the lines for the user.
* `Log.LogRecord.IsBracket`, `Log.LogRecord.Describes` - records that open or close an operation,
  and what one says of a failure.
* `Outcome.Brackets` - a run between its brackets.
* `Outcome.Counts` - the closing record counts the events of an evaluation.
* `Command.run_bracketed` - every run is bracketed.
-/

namespace Observation

/-- The lines for the user. -/
def Outcome.lines (o : Outcome) : List String :=
  o.notices.filterMap fun n =>
    match n with
    | .logged _ => none
    | .line s => some s

/-! ## What a run is about -/

/-- What goes wrong in reading the filter that a file holds. -/
def loadFailure? (filter : FileContent) : Option Failure :=
  match loadFilter filter with
  | .ok _ => none
  | .error failure => some failure

namespace Command

/-- The operation that a command logs. -/
def operation : Command → Log.Operation
  | eval _ _ _ => evalOperation
  | check _ => checkOperation

/-- What goes wrong in a command. -/
def failure? (read : String → FileContent) : Command → Option Failure
  | eval filter events isLocal => (evaluateFiles (read filter) (read events) isLocal).failure
  | check filter => loadFailure? (read filter)

end Command

namespace Log

/-- A record that opens or closes an operation. -/
def LogRecord.IsBracket (r : LogRecord) : Prop :=
  r.happening? = some Happening.start ∨ r.happening? = some Happening.finish ∨
    r.happening? = some Happening.failure

/-- A record says of a failure what is in its report.  It names a field for an invalid filter
only. -/
structure LogRecord.Describes (r : LogRecord) (failure : Failure) : Prop where
  kind : r.text? Field.errorKind = some failure.report.kind.label
  code : r.text? Field.errorCode = some failure.report.kind.code
  field : r.text? "err.field" = failure.report.field
  field_iff : (r.text? "err.field").isSome ↔
    ∃ field reason, failure = .invalidFilterRecord field reason
  error : r.text? "error" = some failure.report.text

end Log

namespace Outcome

/-- A run that is bracketed: what it logs, and how its three accounts of the end agree. -/
structure Brackets (o : Outcome) (op : Log.Operation) (failure? : Option Failure)
    (opening : Log.LogRecord) (between : List Log.LogRecord) (closing : Log.LogRecord) : Prop where
  records : o.records = opening :: between ++ [closing]
  opening_operation : opening.operation? = some op.name
  opening_happening : opening.happening? = some Log.Happening.start
  closing_operation : closing.operation? = some op.name
  not_isBracket : ∀ r ∈ between, ¬ r.IsBracket
  exitCode_eq : o.exitCode = if failure?.isSome then 1 else 0
  finish_iff : closing.happening? = some Log.Happening.finish ↔ o.exitCode = 0
  failure_iff : closing.happening? = some Log.Happening.failure ↔ o.exitCode = 1
  describes : o.exitCode = 1 → ∃ failure, failure? = some failure ∧
    o.lines = ["Error: " ++ failure.message] ∧ closing.Describes failure

/-- The record at a good end counts the events as the line for the user does. -/
def Counts (o : Outcome) (closing : Log.LogRecord) : Prop :=
  o.exitCode = 0 → ∃ read accepted : Nat,
    closing.field? Log.Field.eventsRead = some (.number read) ∧
    closing.field? Log.Field.eventsAccepted = some (.number accepted) ∧
    o.lines = [toString accepted ++ " of " ++ toString read ++ " events accepted"]

end Outcome

/-! ## The brackets of an operation -/

theorem Failure.report_field_isSome_iff (failure : Failure) :
    failure.report.field.isSome ↔ ∃ field reason, failure = .invalidFilterRecord field reason := by
  cases failure <;> simp [report, PathError.report]

/-- What tells of a malformed path, or of nothing that has a name, is no bracket. -/
theorem Log.LogRecord.not_isBracket {r : LogRecord}
    (h : r.happening? = some Happening.malformedPath ∨ r.happening? = none) : ¬ r.IsBracket := by
  unfold IsBracket
  rcases h with h | h
  · rw [h]
    decide
  · rw [h]
    decide

section Operation

variable (op : Log.Operation) (fields : List (String × Log.FieldValue))

theorem Log.Operation.happening?_finish (duration : Log.FieldValue) :
    (op.finish duration fields).happening? = some Happening.finish := rfl

theorem Log.Operation.happening?_fail (failure : Failure) (duration : Log.FieldValue) :
    (op.fail failure duration fields).happening? = some Happening.failure := rfl

theorem Log.Operation.describes_fail (failure : Failure) (duration : Log.FieldValue) :
    (op.fail failure duration fields).Describes failure := by
  have hfield : (op.fail failure duration fields).text? "err.field" = failure.report.field := by
    show ((failure.report.field.map FieldValue.quoted).getD .absent).text? "" = _
    cases failure.report.field <;> rfl
  refine ⟨rfl, rfl, hfield, ?_, rfl⟩
  rw [hfield]
  exact failure.report_field_isSome_iff

end Operation

namespace Outcome

section Ends

variable {op : Log.Operation} {o : Outcome} {between : List Log.LogRecord}
  {starting ending : List (String × Log.FieldValue)}

/-- A run that ends well is bracketed. -/
theorem brackets_finish (hexit : o.exitCode = 0)
    (hrecords : o.records = op.start starting :: between ++ [op.finish .elapsed ending])
    (hbetween : ∀ r ∈ between, ¬ r.IsBracket) :
    o.Brackets op none (op.start starting) between (op.finish .elapsed ending) where
  records := hrecords
  opening_operation := rfl
  opening_happening := rfl
  closing_operation := rfl
  not_isBracket := hbetween
  exitCode_eq := hexit
  finish_iff := iff_of_true (op.happening?_finish _ _) hexit
  failure_iff := by
    rw [op.happening?_finish, hexit]
    decide
  describes h := by
    rw [hexit] at h
    cases h

/-- A run that fails is bracketed. -/
theorem brackets_failure {failure : Failure} (hexit : o.exitCode = 1)
    (hrecords : o.records = op.start starting :: between ++ [op.fail failure .elapsed ending])
    (hlines : o.lines = ["Error: " ++ failure.message])
    (hbetween : ∀ r ∈ between, ¬ r.IsBracket) :
    o.Brackets op (some failure) (op.start starting) between (op.fail failure .elapsed ending) where
  records := hrecords
  opening_operation := rfl
  opening_happening := rfl
  closing_operation := rfl
  not_isBracket := hbetween
  exitCode_eq := hexit
  finish_iff := by
    rw [op.happening?_fail, hexit]
    decide
  failure_iff := iff_of_true (op.happening?_fail _ _ _) hexit
  describes _ := ⟨failure, rfl, hlines, op.describes_fail ending failure .elapsed⟩

end Ends

/-! ## Notices -/

section Notices

variable (code : Nat) (output : String) (opening : Log.LogRecord) (between : List Log.LogRecord)
  (ending : List Notice)

theorem records_mk :
    (mk code output (.logged opening :: between.map .logged ++ ending)).records =
      opening :: between ++ (mk code output ending).records := by
  simp [records, List.filterMap_map]

theorem lines_mk :
    (mk code output (.logged opening :: between.map .logged ++ ending)).lines =
      (mk code output ending).lines := by
  simp [lines, List.filterMap_map]

end Notices

end Outcome

/-! ## Evaluating -/

section Evaluation

variable (filterName eventsName : String) (isLocal : Bool) (filter events : FileContent)

/-- The record at the start of an evaluation. -/
def evalOpening : Log.LogRecord :=
  evalOperation.start [("filter", .shown filterName), ("events", .shown eventsName)]

/-- What an evaluation logs tells of the events that it reads. -/
theorem log_evaluateFiles :
    match loadFilter filter with
    | .ok f =>
      f.TellsOf isLocal events.events (evaluateFiles filter events isLocal).progress.log.records
    | .error _ => (evaluateFiles filter events isLocal).progress.log.records = [] := by
  cases hload : loadFilter filter with
  | error failure =>
    rw [evaluateFiles_of_error hload]
  | ok f =>
    rw [evaluateFiles_log hload]
    exact f.tellsOf_reported isLocal events.events

theorem not_isBracket_of_mem_log :
    ∀ r ∈ (evaluateFiles filter events isLocal).progress.log.records, ¬ r.IsBracket := by
  intro r hr
  cases hload : loadFilter filter with
  | error failure =>
    rw [evaluateFiles_of_error hload] at hr
    cases hr
  | ok f =>
    rw [evaluateFiles_log hload, List.mem_flatMap] at hr
    obtain ⟨m, -, hr⟩ := hr
    exact Log.LogRecord.not_isBracket (.inl (MalformedPath.about_of_mem_records hr).2)

/-- A run logs what the evaluation logs, however it ends; the end depends on the failure only. -/
theorem runEval_eq :
    ∃ code output ending, runEval filterName eventsName isLocal filter events =
      ⟨code, output, .logged (evalOpening filterName eventsName) ::
        (evaluateFiles filter events isLocal).progress.log.records.map .logged ++ ending⟩ ∧
      (code, ending) = match (evaluateFiles filter events isLocal).failure with
        | none => (0, evalNotices (evaluateFiles filter events isLocal).progress)
        | some failure => (1, failureNotices evalOperation failure) :=
  ⟨_, _, _, rfl, rfl⟩

/-- An evaluation is bracketed, and counts what it has read when it ends well. -/
theorem runEval_bracketed :
    ∃ closing, (runEval filterName eventsName isLocal filter events).Brackets evalOperation
        (evaluateFiles filter events isLocal).failure (evalOpening filterName eventsName)
        (evaluateFiles filter events isLocal).progress.log.records closing ∧
      (runEval filterName eventsName isLocal filter events).Counts closing := by
  obtain ⟨code, output, ending, hrun, hend⟩ :=
    runEval_eq filterName eventsName isLocal filter events
  have hinner := not_isBracket_of_mem_log isLocal filter events
  rw [hrun]
  -- Nothing more is needed of the evaluation, only whether it has failed.
  generalize evaluateFiles filter events isLocal = evaluation at hinner hend ⊢
  cases hfailure : evaluation.failure with
  | none =>
    rw [hfailure] at hend
    obtain ⟨rfl, rfl⟩ := Prod.mk.inj hend
    refine ⟨_, Outcome.brackets_finish rfl (Outcome.records_mk ..) hinner, fun _ => ?_⟩
    exact ⟨_, _, rfl, rfl, Outcome.lines_mk ..⟩
  | some failure =>
    rw [hfailure] at hend
    obtain ⟨rfl, rfl⟩ := Prod.mk.inj hend
    refine ⟨_, Outcome.brackets_failure rfl (Outcome.records_mk ..) (Outcome.lines_mk ..) hinner,
      fun h => ?_⟩
    cases h

end Evaluation

/-! ## Checking -/

theorem happening_of_mem_checkWarnings {f : EventFilter} {r : Log.LogRecord}
    (hr : r ∈ checkWarnings f) : r.happening? = none := by
  unfold checkWarnings at hr
  rw [List.mem_append] at hr
  rcases hr with hr | hr
  · split at hr
    · rw [List.mem_singleton.1 hr]
      rfl
    · cases hr
  · split at hr
    · cases hr
    · rw [List.mem_singleton.1 hr]
      rfl

/-- A check is bracketed. -/
theorem runCheck_bracketed (filterName : String) (filter : FileContent) :
    ∃ opening between closing,
      (runCheck filterName filter).Brackets checkOperation (loadFailure? filter) opening between
        closing := by
  unfold runCheck loadFailure?
  cases loadFilter filter with
  | ok f =>
    exact ⟨_, _, _, Outcome.brackets_finish rfl (Outcome.records_mk ..)
      fun _ hr => Log.LogRecord.not_isBracket (.inr (happening_of_mem_checkWarnings hr))⟩
  | error failure =>
    exact ⟨_, [], _, Outcome.brackets_failure rfl (Outcome.records_mk _ _ _ [] _)
      (Outcome.lines_mk _ _ _ [] _) (List.forall_mem_nil _)⟩

/-! ## Any command -/

/-- Every run is bracketed by the records of its operation, whose end agrees with the exit code and
with what the user is told.  In between, an evaluation logs a warning and a detail for each report
about an event that it has read, in order. -/
theorem Command.run_bracketed (read : String → FileContent) (command : Command) :
    ∃ opening between closing,
      (command.run read).Brackets command.operation (command.failure? read) opening between
        closing ∧
      ∀ filter events isLocal, command = .eval filter events isLocal →
        (command.run read).Counts closing ∧
        match loadFilter (read filter) with
        | .ok f => f.TellsOf isLocal (read events).events between
        | .error _ => between = [] := by
  cases command with
  | eval filter events isLocal =>
    obtain ⟨closing, hbrackets, hcounts⟩ :=
      runEval_bracketed filter events isLocal (read filter) (read events)
    refine ⟨_, _, closing, hbrackets, ?_⟩
    rintro _ _ _ ⟨⟩
    exact ⟨hcounts, log_evaluateFiles isLocal (read filter) (read events)⟩
  | check filter =>
    obtain ⟨opening, between, closing, hbrackets⟩ := runCheck_bracketed filter (read filter)
    refine ⟨opening, between, closing, hbrackets, ?_⟩
    rintro _ _ _ ⟨⟩

end Observation

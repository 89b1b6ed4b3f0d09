import Observation.Proofs.Evaluation.Reference

/-!
# Reports in the log

An event whose path is malformed leaves two records in the log, a warning and a detail, and no other
event leaves any.  What an evaluation has logged when it ends, however it ends, is this of the
events that it has read.

* `MalformedPath.IsTold` - the warning and the detail about a report.
* `EventFilter.reported`, `EventFilter.TellsOf` - what is reported of an event, and records that
  tell of the events that are reported.
* `FileContent.events` - the events that are read from a file.
* `evaluateFiles_log` - the log of an evaluation.
-/

namespace Observation

/-! ## Two records for each report -/

namespace MalformedPath

/-- The records that a report leaves in the log. -/
def records (m : MalformedPath) : List Log.LogRecord :=
  malformedPathRecords m.filter m.event m.error

/-- A warning that names the path of the event, and a detail that names the path of the filter. -/
structure IsTold (m : MalformedPath) (warning detail : Log.LogRecord) : Prop where
  warning_level : warning.level = .warn
  warning_operation : warning.operation? = some "accept"
  warning_happening : warning.happening? = some "malformed_path"
  warning_path : warning.text? Log.Field.eventPath = some m.event.path.text
  detail_level : detail.level = .debug
  detail_operation : detail.operation? = some "accept"
  detail_happening : detail.happening? = some "malformed_path"
  detail_path : detail.text? Log.Field.filterPath = some m.filter.path.text

theorem exists_records_eq (m : MalformedPath) : ∃ warning detail, m.records = [warning, detail] :=
  ⟨_, _, rfl⟩

theorem isTold_of_records_eq {m : MalformedPath} {warning detail : Log.LogRecord}
    (h : m.records = [warning, detail]) : m.IsTold warning detail := by
  cases h
  exact ⟨rfl, rfl, rfl, rfl, rfl, rfl, rfl, rfl⟩

/-- The records of a report are all of one operation and about one happening. -/
theorem about_of_mem_records {m : MalformedPath} {r : Log.LogRecord} (h : r ∈ m.records) :
    r.operation? = some "accept" ∧ r.happening? = some "malformed_path" := by
  obtain ⟨warning, detail, hrecords⟩ := m.exists_records_eq
  have htold := isTold_of_records_eq hrecords
  rw [hrecords, List.mem_cons, List.mem_singleton] at h
  rcases h with rfl | rfl
  · exact ⟨htold.warning_operation, htold.warning_happening⟩
  · exact ⟨htold.detail_operation, htold.detail_happening⟩

end MalformedPath

/-! ## What is told of events -/

namespace EventFilter

variable (f : EventFilter) (isLocal : Bool)

/-- What a filter reports of an event. -/
def reported (e : Event) : List MalformedPath :=
  (f.acceptWith e isLocal recordingSink []).2

/-- Records that tell of events: a warning and a detail for each one that is reported, in order. -/
def TellsOf (events : List Event) (records : List Log.LogRecord) : Prop :=
  ∃ pairs : List (Log.LogRecord × Log.LogRecord),
    records = pairs.flatMap (fun pair => [pair.1, pair.2]) ∧
    List.Forall₂
      (fun e pair => ∃ error, f.reported isLocal e = [⟨f, e, error⟩] ∧
        MalformedPath.IsTold ⟨f, e, error⟩ pair.1 pair.2)
      (events.filter fun e => f.reported isLocal e ≠ []) pairs

theorem reported_eq (e : Event) :
    f.reported isLocal e = [] ∨ ∃ error, f.reported isLocal e = [⟨f, e, error⟩] := by
  unfold reported acceptWith
  cases f.verdict e isLocal with
  | accepted => exact .inl rfl
  | rejected => exact .inl rfl
  | malformed error => exact .inr ⟨error, rfl⟩

/-- The records of what is reported of events tell of them. -/
theorem tellsOf_reported (events : List Event) :
    f.TellsOf isLocal events
      ((events.flatMap (f.reported isLocal)).flatMap MalformedPath.records) := by
  induction events with
  | nil => exact ⟨[], rfl, .nil⟩
  | cons e events ih =>
    obtain ⟨pairs, hpairs, htold⟩ := ih
    rw [List.flatMap_cons, List.flatMap_append, hpairs]
    rcases f.reported_eq isLocal e with hnone | ⟨error, hone⟩
    · refine ⟨pairs, ?_, ?_⟩
      · rw [hnone]
        rfl
      · rwa [List.filter_cons_of_neg (by simp [hnone])]
    · obtain ⟨warning, detail, hrecords⟩ := (MalformedPath.mk f e error).exists_records_eq
      refine ⟨(warning, detail) :: pairs, ?_, ?_⟩
      · rw [hone, List.flatMap_singleton, hrecords]
        rfl
      · rw [List.filter_cons_of_pos (by simp [hone])]
        exact .cons ⟨error, hone, MalformedPath.isTold_of_records_eq hrecords⟩ htold

end EventFilter

/-! ## The log of an evaluation -/

section Run

variable (f : EventFilter) (isLocal : Bool)

/-- A decision logs what it reports. -/
theorem EventFilter.accept_log (e : Event) (log : Log.Buffer) :
    (f.accept e isLocal log).2.records =
      log.records ++ (f.reported isLocal e).flatMap MalformedPath.records := by
  unfold accept reported acceptWith
  cases f.verdict e isLocal with
  | accepted => exact (List.append_nil _).symm
  | rejected => exact (List.append_nil _).symm
  | malformed error => simp [loggingSink, recordingSink, Log.Buffer.append, MalformedPath.records]

theorem Progress.log_takeAll (p : Progress) (events : List Event) :
    (p.takeAll f isLocal events).log.records =
      p.log.records ++ (events.flatMap (f.reported isLocal)).flatMap MalformedPath.records := by
  induction events generalizing p with
  | nil => exact (List.append_nil _).symm
  | cons e events ih =>
    have htake : (p.take f isLocal e).log = (f.accept e isLocal p.log).2 := rfl
    rw [takeAll_cons, ih, htake, f.accept_log, List.flatMap_cons, List.flatMap_append,
      List.append_assoc]

end Run

/-- The events that are read from the lines of a file, up to the first line that holds none. -/
def FileContent.events : FileContent → List Event
  | .error _ => []
  | .ok bytes => leadingEvents (filledLines 1 (InputLines.ofBytes bytes).lines)

/-- A fault of the file changes nothing of what was read before it. -/
theorem EventFilter.progress_evaluate (f : EventFilter) (isLocal : Bool) (input : InputLines) :
    (f.evaluate isLocal input).progress = (evaluateLines f isLocal {} 1 input.lines).progress := by
  unfold evaluate
  dsimp only
  split <;> rfl

/-- An evaluation logs what its filter reports of the events that it reads. -/
theorem evaluateFiles_log {filter : FileContent} {f : EventFilter} (h : loadFilter filter = .ok f)
    (events : FileContent) (isLocal : Bool) :
    (evaluateFiles filter events isLocal).progress.log.records =
      (events.events.flatMap (f.reported isLocal)).flatMap MalformedPath.records := by
  unfold evaluateFiles
  rw [h]
  cases events with
  | error e => rfl
  | ok bytes =>
    show (f.evaluate isLocal (.ofBytes bytes)).progress.log.records = _
    rw [f.progress_evaluate, evaluateLines_eq, Progress.log_takeAll]
    rfl

end Observation

import Observation.Proofs.Log.Reports

/-!
# What is captured of calls

Records are captured in a buffer that is cleared now and then.  What it holds after any number of
calls and clears is what the calls after the last clear have reported: two records for each report,
and from these its parts can be read back.

* `Log.LogRecord.DistinctNames` - a record has no more than one text under a name.
* `MalformedPath.IsCaptured` - the warning and the detail about a report, with all that is known.
* `CaptureStep`, `capture`, `sinceClear` - calls and clears, the buffer after them, and the calls
  after the last clear.
* `Captured`, `capture_exactly` - what the buffer holds.
-/

namespace Observation

/-! ## One report -/

/-- No two texts of the record stand under one name, where its message counts as one of them. -/
def Log.LogRecord.DistinctNames (r : Log.LogRecord) : Prop :=
  ((r.texts "").map Prod.fst).Nodup

/-- Records that tell of a report, and of all that is known of it: each part stands under a name of
its own, and both paths can be read back. -/
structure MalformedPath.IsCaptured (m : MalformedPath) (warning detail : Log.LogRecord) : Prop
    extends IsTold m warning detail where
  warning_names : warning.DistinctNames
  warning_code : warning.text? Log.Field.errorCode = some "ERR_MALFORMED_PATH"
  warning_type : warning.text? Log.Field.eventType = some m.event.type.label
  warning_message : warning.message = some ("malformed path: " ++ m.error.message)
  warning_reads : ∃ text, warning.text? Log.Field.eventPath = some text ∧
    ItemPath.parse text = .ok m.event.path
  detail_names : detail.DistinctNames
  detail_deep : detail.text? "is_deep" = some (toString m.filter.isDeep)
  detail_error : detail.text? "detail" = some m.error.detail
  detail_reads : ∃ text, detail.text? Log.Field.filterPath = some text ∧
    ItemPath.parse text = .ok m.filter.path

theorem MalformedPath.isCaptured_of_records_eq {m : MalformedPath} {warning detail : Log.LogRecord}
    (h : m.records = [warning, detail]) : m.IsCaptured warning detail := by
  have htold := isTold_of_records_eq h
  cases h
  exact {
    toIsTold := htold
    warning_names := by
      show ["message", "component", "op", "event", "event_type", "event_path", "err.code"].Nodup
      decide
    warning_code := rfl
    warning_type := rfl
    warning_message := rfl
    warning_reads := ⟨_, htold.warning_path, m.event.path.parse_text⟩
    detail_names := by
      show ["component", "op", "event", "filter_path", "is_deep", "detail"].Nodup
      decide
    detail_deep := rfl
    detail_error := rfl
    detail_reads := ⟨_, htold.detail_path, m.filter.path.parse_text⟩ }

/-! ## Calls and clears -/

/-- A call that decides about an event. -/
structure AcceptCall where
  filter : EventFilter
  event : Event
  isLocal : Bool
  deriving DecidableEq, Repr

/-- What a sink that keeps the reports is told by the call. -/
def AcceptCall.reported (call : AcceptCall) : List MalformedPath :=
  call.filter.reported call.isLocal call.event

/-- What is done to a buffer: records are captured in a call, or all are forgotten. -/
inductive CaptureStep where
  | accept (call : AcceptCall)
  | clear
  deriving DecidableEq, Repr

/-- The buffer after a step. -/
def CaptureStep.apply (log : Log.Buffer) : CaptureStep → Log.Buffer
  | accept call => (call.filter.accept call.event call.isLocal log).2
  | clear => log.clear

/-- The buffer after some steps. -/
def capture (steps : List CaptureStep) : Log.Buffer :=
  steps.foldl CaptureStep.apply .empty

/-- The calls that no clear comes after. -/
def sinceClear : List CaptureStep → List AcceptCall
  | [] => []
  | .clear :: steps => sinceClear steps
  | .accept call :: steps =>
    if .clear ∈ steps then sinceClear steps else call :: sinceClear steps

/-- Records of calls, in order: none of a call that reports nothing, and a warning and a detail of
one that does. -/
inductive Captured : List AcceptCall → List Log.LogRecord → Prop
  | nil : Captured [] []
  | silent {call : AcceptCall} {calls : List AcceptCall} {records : List Log.LogRecord}
      (silent : call.reported = []) (tail : Captured calls records) :
      Captured (call :: calls) records
  | reported {call : AcceptCall} {calls : List AcceptCall} {records : List Log.LogRecord}
      {error : PathError} {warning detail : Log.LogRecord}
      (reported : call.reported = [⟨call.filter, call.event, error⟩])
      (told : MalformedPath.IsCaptured ⟨call.filter, call.event, error⟩ warning detail)
      (tail : Captured calls records) :
      Captured (call :: calls) (warning :: detail :: records)

section Capture

variable {log : Log.Buffer} {call : AcceptCall} {steps : List CaptureStep}

theorem records_accept : (CaptureStep.apply log (.accept call)).records =
    log.records ++ call.reported.flatMap MalformedPath.records :=
  call.filter.accept_log call.isLocal call.event log

/-- Steps add what the calls after the last clear report to what the buffer held, unless that was
cleared. -/
theorem records_foldl : (steps.foldl CaptureStep.apply log).records =
    (if .clear ∈ steps then [] else log.records) ++
      ((sinceClear steps).flatMap AcceptCall.reported).flatMap MalformedPath.records := by
  induction steps generalizing log with
  | nil => simp [sinceClear]
  | cons step steps ih =>
    rw [List.foldl_cons, ih]
    cases step with
    | clear => simp [sinceClear, CaptureStep.apply, Log.Buffer.clear, Log.Buffer.empty]
    | accept call =>
      by_cases hclear : .clear ∈ steps
      · simp [sinceClear, hclear]
      · simp [sinceClear, hclear, records_accept]

theorem records_capture : (capture steps).records =
    ((sinceClear steps).flatMap AcceptCall.reported).flatMap MalformedPath.records := by
  unfold capture
  rw [records_foldl]
  split <;> rfl

theorem captured_reported (calls : List AcceptCall) :
    Captured calls ((calls.flatMap AcceptCall.reported).flatMap MalformedPath.records) := by
  induction calls with
  | nil => exact .nil
  | cons call calls ih =>
    rw [List.flatMap_cons, List.flatMap_append]
    rcases call.filter.reported_eq call.isLocal call.event with hnone | ⟨error, hone⟩
    · have hreported : call.reported = [] := hnone
      rw [hreported]
      exact .silent hreported ih
    · have hreported : call.reported = [⟨call.filter, call.event, error⟩] := hone
      obtain ⟨warning, detail, hrecords⟩ :=
        (MalformedPath.mk call.filter call.event error).exists_records_eq
      rw [hreported, List.flatMap_singleton, hrecords]
      exact .reported hreported (MalformedPath.isCaptured_of_records_eq hrecords) ih

theorem recordsFor_capture :
    (capture steps).recordsFor "accept" "malformed_path" = (capture steps).records := by
  unfold Log.Buffer.recordsFor
  rw [List.filter_eq_self, records_capture]
  intro r hr
  obtain ⟨m, -, hm⟩ := List.mem_flatMap.1 hr
  obtain ⟨hoperation, hhappening⟩ := MalformedPath.about_of_mem_records hm
  rw [hoperation, hhappening]
  rfl

theorem expect_eq_ok_iff {operation happening : String} :
    log.expect operation happening = .ok () ↔ log.recordsFor operation happening ≠ [] := by
  unfold Log.Buffer.expect
  split
  · next h => simp [h]
  · next h => simp [h]

/-- Something is captured if one of the calls reports something. -/
theorem Captured.ne_nil_iff {calls : List AcceptCall} {records : List Log.LogRecord}
    (h : Captured calls records) : records ≠ [] ↔ ∃ call ∈ calls, call.reported ≠ [] := by
  induction h with
  | nil => simp
  | silent silent _ ih => simp [ih, silent]
  | reported reported _ _ => simp [reported]

/-- After any calls and clears the buffer holds, in order, a warning and a detail of each call since
the last clear that reports something, and nothing else.  Looking records up, counting them and
demanding one all go by that. -/
theorem capture_exactly (steps : List CaptureStep) :
    Captured (sinceClear steps) (capture steps).records ∧
    (capture steps).recordsFor "accept" "malformed_path" = (capture steps).records ∧
    (∀ condition, (capture steps).countWhere condition =
      ((capture steps).recordsFor "accept" "malformed_path").countP condition) ∧
    ((capture steps).expect "accept" "malformed_path" = .ok () ↔
      (capture steps).recordsFor "accept" "malformed_path" ≠ []) ∧
    ((capture steps).recordsFor "accept" "malformed_path" ≠ [] ↔
      ∃ call ∈ sinceClear steps, call.reported ≠ []) := by
  have hcaptured : Captured (sinceClear steps) (capture steps).records := by
    rw [records_capture]
    exact captured_reported _
  refine ⟨hcaptured, recordsFor_capture, fun condition => ?_, expect_eq_ok_iff, ?_⟩
  · rw [recordsFor_capture]
    rfl
  · rw [recordsFor_capture]
    exact hcaptured.ne_nil_iff

end Capture

end Observation

import Observation.Proofs.Evaluation.Reference
import Observation.Proofs.Filter.Containment
import Observation.Proofs.Filter.Relay

/-!
# Evaluating once more

What an evaluation writes is a text of events itself, and the filter has nothing left to reject
there.

* `eventText`, `result_eventText` - a text put together from events, and its evaluation.
* `HandsOn` - a line of the output stands for a line that was read.
* `evaluateFiles_own_output` - the evaluation of an output leaves that same output behind.
-/

namespace Observation

/-! ## Texts put together from events -/

/-- Events written one on a line. -/
def eventText (events : List Event) : String :=
  String.join (events.map fun e => e.toJson ++ "\n")

theorem linesOf_eventText (events : List Event) :
    linesOf (eventText events) = events.map Event.toJson := by
  have hlines : ∀ line ∈ events.map Event.toJson, '\n' ∉ line.toList ∧ '\r' ∉ line.toList := by
    intro line hline
    obtain ⟨e, -, rfl⟩ := List.mem_map.1 hline
    exact ⟨e.uncontrolled_toJson.notMem (by decide), e.uncontrolled_toJson.notMem (by decide)⟩
  have hjoin := linesOf_join hlines
  rw [List.map_map] at hjoin
  exact hjoin

/-- No line of such a text is blank, and each holds its event. -/
theorem written_lines (events : List Event) (number : Nat) :
    let lines := filledLines number (events.map Event.toJson)
    leadingEvents lines = events ∧ firstFault? lines = none := by
  induction events generalizing number with
  | nil => exact ⟨rfl, rfl⟩
  | cons e events ih =>
    obtain ⟨hevents, hfault⟩ := ih (number + 1)
    have hline := e.ofJson_toJson
    rw [List.map_cons, filledLines_cons e.isBlankText_toJson]
    exact ⟨(leadingEvents_cons_ok hline).trans (by rw [hevents]),
      (firstFault?_cons_ok hline).trans hfault⟩

/-! ## Runs that succeed -/

section Run

variable {filter : FileContent} {f : EventFilter} {events output : String}

/-- Without a fault the text of the wanted events is left behind. -/
theorem result_of_firstFault?_eq_none (hf : loadFilter filter = .ok f) (isLocal : Bool)
    (h : firstFault? (filledLines 1 (Text.lines events)) = none) :
    let read := leadingEvents (filledLines 1 (Text.lines events))
    let accepted := read.filter fun e => f.Wants e isLocal
    (evaluateFiles filter (.ok events.toUTF8) isLocal).result =
      ⟨eventText accepted, .ok (read.length, accepted.length)⟩ := by
  rw [evaluateFiles_toUTF8 hf, result_takeAll]
  simp only [h, length_leadingEvents h]
  rfl

/-- All of a text put together from events is read. -/
theorem result_eventText (hf : loadFilter filter = .ok f) (isLocal : Bool) (events : List Event) :
    let accepted := events.filter fun e => f.Wants e isLocal
    (evaluateFiles filter (.ok (eventText events).toUTF8) isLocal).result =
      ⟨eventText accepted, .ok (events.length, accepted.length)⟩ := by
  obtain ⟨hevents, hfault⟩ := written_lines events 1
  rw [← linesOf_eventText, filledLines_linesOf] at hevents hfault
  have hresult := result_of_firstFault?_eq_none hf isLocal hfault
  rw [hevents] at hresult
  exact hresult

theorem Evaluation.failure_eq_none {evaluation : Evaluation} {counts : Nat × Nat}
    (h : evaluation.result = ⟨output, .ok counts⟩) : evaluation.failure = none := by
  have hcounts := congrArg EvaluationResult.counts h
  unfold result at hcounts
  cases hfailure : evaluation.failure with
  | none => rfl
  | some failure =>
    simp only [hfailure] at hcounts
    cases hcounts

/-- A run that succeeds meets no fault, and leaves the text of some of the events behind: those that
its filter wants. -/
theorem exists_wanted {isLocal : Bool} {read accepted : Nat}
    (h : (evaluateFiles filter (.ok events.toUTF8) isLocal).result =
      ⟨output, .ok (read, accepted)⟩) :
    ∃ f, loadFilter filter = .ok f ∧ firstFault? (filledLines 1 (Text.lines events)) = none ∧
      ∃ wanted : List Event, wanted.Sublist (leadingEvents (filledLines 1 (Text.lines events))) ∧
        (∀ e ∈ wanted, f.Wants e isLocal) ∧ output = eventText wanted ∧
        accepted = wanted.length := by
  have hfailure := Evaluation.failure_eq_none h
  cases hload : loadFilter filter with
  | error failure =>
    rw [evaluateFiles_of_error hload] at hfailure
    cases hfailure
  | ok f =>
    rw [evaluateFiles_toUTF8 hload] at hfailure
    refine ⟨f, rfl, hfailure, ?_⟩
    rw [result_of_firstFault?_eq_none hload isLocal hfailure, EvaluationResult.mk.injEq,
      Except.ok.injEq, Prod.mk.injEq] at h
    obtain ⟨rfl, -, rfl⟩ := h
    refine ⟨_, List.filter_sublist, ?_, rfl, rfl⟩
    intro e he
    exact of_decide_eq_true (List.mem_filter.1 he).2

end Run

/-! ## Lines that are handed on -/

/-- A line of the output stands for a line that was read: it has no control character in it, so no
line break either, and the same event is read from both. -/
structure HandsOn (line out : String) : Prop where
  uncontrolled : Json.Uncontrolled out.toList
  same_event : ∃ e, Event.ofJson line = .ok e ∧ Event.ofJson out = .ok e

theorem handsOn_toJson {line : String} {e : Event} (h : Event.ofJson line = .ok e) :
    HandsOn line e.toJson where
  uncontrolled := e.uncontrolled_toJson
  same_event := ⟨e, h, e.ofJson_toJson⟩

/-- Some of the events on lines, in their order, come from some of the lines. -/
theorem exists_handsOn {lines : List (String × Nat)} (h : firstFault? lines = none)
    {events : List Event} (hevents : events.Sublist (leadingEvents lines)) :
    ∃ kept : List (String × Nat), kept.Sublist lines ∧
      List.Forall₂ (fun line out => HandsOn line.1 out) kept (events.map Event.toJson) := by
  have hread := hevents.map (Except.ok (ε := Json.ReadError))
  rw [← map_ofJson_eq h] at hread
  obtain ⟨kept, hkept, heq⟩ := List.sublist_map_iff.1 hread
  refine ⟨kept, hkept, ?_⟩
  have hpairs : List.Forall₂ (fun line e => Event.ofJson line.1 = .ok e) kept events := by
    rw [← List.forall₂_eq_eq_eq, List.forall₂_map_left_iff, List.forall₂_map_right_iff] at heq
    exact heq.flip.imp fun _ _ h => h.symm
  rw [List.forall₂_map_right_iff]
  exact hpairs.imp fun _ _ => handsOn_toJson

/-! ## The output as input -/

/-- A node that appears below the root. -/
def childEvent : Event :=
  .placedAt .nodeAdded (ItemPath.root.child plainName) (.identified "u1") plainName

/-- An evaluation that succeeds writes a text that it leaves unchanged: evaluated by the same
filter, all its events are read and accepted, and it is written once more. -/
theorem evaluateFiles_own_output {filter : FileContent} {events output : String} {isLocal : Bool}
    {read accepted : Nat}
    (h : (evaluateFiles filter (.ok events.toUTF8) isLocal).result =
      ⟨output, .ok (read, accepted)⟩) :
    (evaluateFiles filter (.ok output.toUTF8) isLocal).result =
        ⟨output, .ok (accepted, accepted)⟩ ∧
      ∃ (kept : List (String × Nat)) (written : List String),
        kept.Sublist (filledLines 1 (Text.lines events)) ∧
        output = String.join (written.map (· ++ "\n")) ∧
        List.Forall₂ (fun line out => HandsOn line.1 out) kept written := by
  obtain ⟨f, hload, hfault, wanted, hsub, hwants, rfl, rfl⟩ := exists_wanted h
  have hagain := result_eventText hload isLocal wanted
  -- The filter wants all that it wanted before.
  rw [List.filter_eq_self.2 fun e he => decide_eq_true (hwants e he)] at hagain
  refine ⟨hagain, ?_⟩
  obtain ⟨kept, hkept, hlines⟩ := exists_handsOn hfault hsub
  refine ⟨kept, wanted.map Event.toJson, hkept, ?_, hlines⟩
  unfold eventText
  rw [List.map_map]
  rfl

/-- A filter for all below the root writes the event that lies there, and keeps it. -/
theorem evaluateFiles_own_output_child :
    let filter := Except.ok (EventFilter.everythingAt .root true).toJson.toUTF8
    (evaluateFiles filter (.ok (eventText [strayEvent, childEvent]).toUTF8) false).result =
        ⟨eventText [childEvent], .ok (2, 1)⟩ ∧
      (evaluateFiles filter (.ok (eventText [childEvent]).toUTF8) false).result =
        ⟨eventText [childEvent], .ok (1, 1)⟩ := by
  intro filter
  have hload : loadFilter filter = .ok (EventFilter.everythingAt .root true) :=
    (loadFilter_toUTF8 _).trans (EventFilter.ofJson_toJson _)
  have hwanted : ([strayEvent, childEvent].filter fun e =>
      (EventFilter.everythingAt .root true).Wants e false) = [childEvent] := by
    decide
  have hfirst := result_eventText hload false [strayEvent, childEvent]
  rw [hwanted] at hfirst
  exact ⟨hfirst, (evaluateFiles_own_output hfirst).1⟩

end Observation

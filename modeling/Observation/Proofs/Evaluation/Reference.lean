import Observation.Proofs.Event.Relay
import Observation.Proofs.Filter.Decision
import Observation.Proofs.Text.Lines
import Observation.Run

/-!
# What an evaluation comes to

An evaluation goes through a text line by line and keeps count.  It comes to what the text says as a
whole: the events before the first line that holds none, those of them that the filter accepts, and
the number of that line.

* `filledLines`, `leadingEvents`, `firstFault?` - what a text says.
* `reference` - what an evaluation should leave behind.
* `Progress.takeAll`, `evaluateLines_eq` - going through lines, from any point on.
* `evaluateFiles_result_eq_reference` - the evaluation of a whole text.
-/

namespace Observation

/-! ## What a text says -/

/-- The lines that are not blank, each with its number; blank lines count, and the first line has
the given number. -/
def filledLines (number : Nat) (lines : List String) : List (String × Nat) :=
  (lines.zipIdx number).filter fun line => !Text.isBlankText line.1

/-- The events on lines, up to the first line that holds none. -/
def leadingEvents (lines : List (String × Nat)) : List Event :=
  ((lines.map fun line => (Event.ofJson line.1).toOption).takeWhile Option.isSome).reduceOption

/-- The failure at the first line that holds no event. -/
def firstFault? (lines : List (String × Nat)) : Option Failure :=
  lines.findSome? fun line =>
    match Event.ofJson line.1 with
    | .ok _ => none
    | .error e => some (.invalidEvent line.2 e.message)

/-- What an evaluation leaves behind: the text it writes, and how many events it has read and
accepted, or the failure that ended it. -/
structure EvaluationResult where
  output : String
  counts : Except Failure (Nat × Nat)
  deriving DecidableEq, Repr

/-- What an evaluation is seen to leave behind. -/
def Evaluation.result (evaluation : Evaluation) : EvaluationResult where
  output := evaluation.progress.output
  counts :=
    match evaluation.failure with
    | none => .ok (evaluation.progress.read, evaluation.progress.accepted.size)
    | some failure => .error failure

/-- What the evaluation of the filter in one text on the events in another one should leave
behind. -/
def reference (filter events : String) (isLocal : Bool) : EvaluationResult :=
  match EventFilter.ofJson filter with
  | .error failure => ⟨"", .error failure⟩
  | .ok f =>
    let lines := filledLines 1 (Text.lines events)
    let accepted := (leadingEvents lines).filter fun e => f.Wants e isLocal
    { output := String.join (accepted.map fun e => e.toJson ++ "\n")
      counts :=
        match firstFault? lines with
        | none => .ok (lines.length, accepted.length)
        | some failure => .error failure }

section FilledLines

variable {line : String} {number : Nat} {lines : List String}

theorem filledLines_cons_blank (h : Text.isBlankText line = true) :
    filledLines number (line :: lines) = filledLines (number + 1) lines := by
  unfold filledLines
  rw [List.zipIdx_cons, List.filter_cons_of_neg]
  simpa using h

theorem filledLines_cons (h : Text.isBlankText line = false) :
    filledLines number (line :: lines) = (line, number) :: filledLines (number + 1) lines := by
  unfold filledLines
  rw [List.zipIdx_cons, List.filter_cons_of_pos]
  simpa using h

/-- Blank lines at the end make no difference. -/
theorem filledLines_append_blank {rest : List String}
    (h : ∀ line ∈ rest, Text.isBlankText line = true) :
    filledLines number (lines ++ rest) = filledLines number lines := by
  have hrest : filledLines (number + lines.length) rest = [] := by
    unfold filledLines
    rw [List.filter_eq_nil_iff]
    intro line hline
    rw [h line.1 (List.fst_mem_of_mem_zipIdx hline)]
    exact Bool.false_ne_true
  unfold filledLines at hrest ⊢
  rw [List.zipIdx_append, List.filter_append, hrest, List.append_nil]

end FilledLines

section Lines

variable {line : String} {number : Nat} {lines : List (String × Nat)}

theorem leadingEvents_cons_ok {e : Event} (h : Event.ofJson line = .ok e) :
    leadingEvents ((line, number) :: lines) = e :: leadingEvents lines := by
  unfold leadingEvents
  rw [List.map_cons, h]
  rfl

theorem leadingEvents_cons_error {error : Json.ReadError} (h : Event.ofJson line = .error error) :
    leadingEvents ((line, number) :: lines) = [] := by
  unfold leadingEvents
  rw [List.map_cons, h]
  rfl

theorem firstFault?_cons_ok {e : Event} (h : Event.ofJson line = .ok e) :
    firstFault? ((line, number) :: lines) = firstFault? lines := by
  unfold firstFault?
  rw [List.findSome?_cons, h]

theorem firstFault?_cons_error {error : Json.ReadError} (h : Event.ofJson line = .error error) :
    firstFault? ((line, number) :: lines) = some (.invalidEvent number error.message) := by
  unfold firstFault?
  rw [List.findSome?_cons, h]

/-- Without a fault there is an event on each line. -/
theorem map_ofJson_eq (h : firstFault? lines = none) :
    lines.map (fun line => Event.ofJson line.1) = (leadingEvents lines).map Except.ok := by
  induction lines with
  | nil => rfl
  | cons line lines ih =>
    obtain ⟨line, number⟩ := line
    cases hline : Event.ofJson line with
    | error error =>
      rw [firstFault?_cons_error hline] at h
      cases h
    | ok e =>
      rw [firstFault?_cons_ok hline] at h
      rw [leadingEvents_cons_ok hline, List.map_cons, List.map_cons, hline, ih h]

theorem length_leadingEvents (h : firstFault? lines = none) :
    (leadingEvents lines).length = lines.length := by
  have hlength := congrArg List.length (map_ofJson_eq h)
  rw [List.length_map, List.length_map] at hlength
  exact hlength.symm

end Lines

/-! ## Keeping count -/

section Run

variable (f : EventFilter) (isLocal : Bool)

theorem Progress.accepted_take (p : Progress) (e : Event) :
    (p.take f isLocal e).accepted.toList =
      p.accepted.toList ++ [e].filter fun e => f.Wants e isLocal := by
  have htake : (p.take f isLocal e).accepted =
      if (f.accept e isLocal p.log).1 = true then p.accepted.push e else p.accepted := rfl
  rw [htake]
  by_cases h : f.Wants e isLocal
  · rw [if_pos (EventFilter.accept_iff_wants.2 h)]
    simp [h]
  · rw [if_neg fun haccept => h (EventFilter.accept_iff_wants.1 haccept)]
    simp [h]

/-- Takes events in, one by one. -/
def Progress.takeAll (p : Progress) (events : List Event) : Progress :=
  events.foldl (fun p e => p.take f isLocal e) p

theorem Progress.takeAll_cons (p : Progress) (e : Event) (events : List Event) :
    p.takeAll f isLocal (e :: events) = (p.take f isLocal e).takeAll f isLocal events := rfl

theorem Progress.read_takeAll (p : Progress) (events : List Event) :
    (p.takeAll f isLocal events).read = p.read + events.length := by
  induction events generalizing p with
  | nil => rfl
  | cons e events ih =>
    have htake : (p.take f isLocal e).read = p.read + 1 := rfl
    rw [takeAll_cons, ih, htake, List.length_cons]
    omega

theorem Progress.accepted_takeAll (p : Progress) (events : List Event) :
    (p.takeAll f isLocal events).accepted.toList =
      p.accepted.toList ++ events.filter fun e => f.Wants e isLocal := by
  induction events generalizing p with
  | nil => exact (List.append_nil _).symm
  | cons e events ih =>
    rw [takeAll_cons, ih, accepted_take, List.append_assoc, ← List.filter_append]
    rfl

/-- From any point on, the leading events of the lines that are not blank are taken in, and the
first fault is the failure. -/
theorem evaluateLines_eq (p : Progress) (number : Nat) (lines : List String) :
    evaluateLines f isLocal p number lines =
      ⟨p.takeAll f isLocal (leadingEvents (filledLines number lines)),
        firstFault? (filledLines number lines)⟩ := by
  induction lines generalizing p number with
  | nil => rfl
  | cons line lines ih =>
    rw [evaluateLines]
    cases hblank : Text.isBlankText line with
    | true =>
      rw [if_pos rfl, filledLines_cons_blank hblank]
      exact ih p (number + 1)
    | false =>
      rw [if_neg Bool.false_ne_true, filledLines_cons hblank]
      cases hline : Event.ofJson line with
      | error error =>
        rw [leadingEvents_cons_error hline, firstFault?_cons_error hline]
        rfl
      | ok e =>
        rw [leadingEvents_cons_ok hline, firstFault?_cons_ok hline, Progress.takeAll_cons]
        exact ih (p.take f isLocal e) (number + 1)

end Run

/-! ## Whole texts -/

theorem filledLines_linesOf (s : String) :
    filledLines 1 (linesOf s) = filledLines 1 (Text.lines s) := by
  obtain ⟨rest, hlines, hblank⟩ := linesOf_append_blank s
  rw [hlines, filledLines_append_blank hblank]

theorem evaluate_ofText (f : EventFilter) (isLocal : Bool) (s : String) :
    f.evaluate isLocal (.ofText s) = evaluateLines f isLocal {} 1 (linesOf s) := by
  unfold EventFilter.evaluate InputLines.ofText
  cases h : (evaluateLines f isLocal {} 1 (linesOf s)).failure with
  | none => simp only [h]
  | some failure => simp only [h]

theorem loadFilter_toUTF8 (s : String) : loadFilter (.ok s.toUTF8) = EventFilter.ofJson s := by
  unfold loadFilter
  rw [FileContent.text_toUTF8]
  rfl

/-- What is read and accepted of a text, and what goes wrong. -/
theorem evaluateFiles_toUTF8 {filter : FileContent} {f : EventFilter}
    (hf : loadFilter filter = .ok f) (events : String) (isLocal : Bool) :
    evaluateFiles filter (.ok events.toUTF8) isLocal =
      ⟨Progress.takeAll f isLocal {} (leadingEvents (filledLines 1 (Text.lines events))),
        firstFault? (filledLines 1 (Text.lines events))⟩ := by
  unfold evaluateFiles
  simp only [hf]
  rw [InputLines.ofBytes_toUTF8, evaluate_ofText, evaluateLines_eq, filledLines_linesOf]

theorem Progress.output_eq (p : Progress) :
    p.output = String.join ((p.accepted.toList.map Event.toJson).map (· ++ "\n")) := by
  unfold output
  rw [List.map_map]
  rfl

/-- There is a line for each accepted event. -/
theorem Progress.count_newline_output (p : Progress) :
    p.output.toList.count '\n' = p.accepted.size := by
  rw [output_eq, count_newline_join]
  · simp
  · intro line hline
    obtain ⟨e, -, rfl⟩ := List.mem_map.1 hline
    exact e.uncontrolled_toJson.notMem (by decide)

theorem evaluateFiles_of_error {filter : FileContent} {failure : Failure}
    (h : loadFilter filter = .error failure) (events : FileContent) (isLocal : Bool) :
    evaluateFiles filter events isLocal = ⟨{}, some failure⟩ := by
  unfold evaluateFiles
  rw [h]

/-- What taking in the leading events of a text leaves behind. -/
theorem result_takeAll (f : EventFilter) (isLocal : Bool) (lines : List (String × Nat)) :
    Evaluation.result
        ⟨Progress.takeAll f isLocal {} (leadingEvents lines), firstFault? lines⟩ =
      { output := String.join (((leadingEvents lines).filter fun e => f.Wants e isLocal).map
          fun e => e.toJson ++ "\n")
        counts :=
          match firstFault? lines with
          | none =>
            .ok (lines.length, ((leadingEvents lines).filter fun e => f.Wants e isLocal).length)
          | some failure => .error failure } := by
  have hread := Progress.read_takeAll f isLocal {} (leadingEvents lines)
  have haccepted := Progress.accepted_takeAll f isLocal {} (leadingEvents lines)
  generalize Progress.takeAll f isLocal {} (leadingEvents lines) = p at hread haccepted
  rw [List.nil_append] at haccepted
  unfold Evaluation.result Progress.output
  rw [← haccepted]
  cases hfault : firstFault? lines with
  | some failure => rfl
  | none =>
    rw [length_leadingEvents hfault, Nat.zero_add] at hread
    simp only [hread, Array.length_toList]

/-- The evaluation of a text is what the text says, and it writes one line for each event that it
accepts. -/
theorem evaluateFiles_result_eq_reference (filter events : String) (isLocal : Bool) :
    let run := evaluateFiles (.ok filter.toUTF8) (.ok events.toUTF8) isLocal
    run.result = reference filter events isLocal ∧
      run.progress.output.toList.count '\n' = run.progress.accepted.size := by
  intro run
  constructor
  · have hload := loadFilter_toUTF8 filter
    unfold reference
    cases hfilter : EventFilter.ofJson filter with
    | error failure =>
      rw [hfilter] at hload
      rw [show run = _ from evaluateFiles_of_error hload _ _]
      rfl
    | ok f =>
      rw [hfilter] at hload
      rw [show run = _ from evaluateFiles_toUTF8 hload events isLocal]
      exact result_takeAll f isLocal (filledLines 1 (Text.lines events))
  · exact run.progress.count_newline_output

end Observation

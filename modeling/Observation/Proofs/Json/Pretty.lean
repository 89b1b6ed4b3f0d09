import Observation.Proofs.Json.WellFormed

/-!
# JSON on several lines

The text of a value on several lines differs from the one on a single line in its blanks only: line
breaks and the blanks at the front of a line, and one blank after each colon.

* `Value.written_prettyChars` - the text on several lines is one of the texts of the value.
* `Value.holds_pretty` - so it is with a line break at its end.
-/

namespace Observation.Json

namespace Value

theorem blanks_newline (depth : Nat) : Blanks (newline depth) := by
  intro c hc
  unfold newline at hc
  rcases List.mem_cons.1 hc with rfl | hc
  · decide
  · rw [List.eq_of_mem_replicate hc]
    decide

theorem blanks_singleton : Blanks [' '] :=
  List.forall_mem_singleton.2 (by decide)

mutual

/-- The text of a value, its first line at any depth, is a text of it. -/
theorem written_prettyChars (depth : Nat) (v : Value) : Written v (prettyChars depth v) := by
  cases v with
  | number n =>
    rw [prettyChars]
    exact .number n
  | boolean b =>
    rw [prettyChars]
    exact .boolean b
  | text s =>
    rw [prettyChars, stringChars_eq]
    exact .text (stringSpelling_escape s.toList)
  | list items =>
    cases items with
    | nil =>
      rw [prettyChars]
      exact .list_nil blanks_nil
    | cons v vs =>
      have hitems := itemsWritten_pretty (depth + 1) vs (blanks_newline depth)
      have hlist := Written.list_cons (blanks_newline (depth + 1))
        (written_prettyChars (depth + 1) v) hitems
      rw [prettyChars]
      simpa using hlist
  | object members =>
    cases members with
    | nil =>
      rw [prettyChars]
      exact .object_nil blanks_nil
    | cons m ms =>
      obtain ⟨k, v⟩ := m
      have hvalue := written_prettyChars (depth + 1) v
      have hmember := memberWritten_stringChars k blanks_singleton hvalue
      have hmembers := membersWritten_pretty (depth + 1) ms (blanks_newline depth)
      have hobject := Written.object_cons (blanks_newline (depth + 1)) hmember hmembers
      rw [prettyChars]
      simpa using hobject

/-- Items after the first one, with blanks after the last. -/
theorem itemsWritten_pretty (depth : Nat) (vs : List Value) {bs : List Char} (hb : Blanks bs) :
    ItemsWritten vs (prettyItems depth vs ++ bs) := by
  cases vs with
  | nil =>
    rw [prettyItems]
    exact .nil hb
  | cons v vs =>
    have hitems := ItemsWritten.cons blanks_nil (blanks_newline depth)
      (written_prettyChars depth v) (itemsWritten_pretty depth vs hb)
    rw [prettyItems]
    simpa using hitems

/-- Members after the first one, with blanks after the last. -/
theorem membersWritten_pretty (depth : Nat) (ms : List (String × Value)) {bs : List Char}
    (hb : Blanks bs) : MembersWritten ms (prettyMembers depth ms ++ bs) := by
  cases ms with
  | nil =>
    rw [prettyMembers]
    exact .nil hb
  | cons m ms =>
    obtain ⟨k, v⟩ := m
    have hmember := memberWritten_stringChars k blanks_singleton (written_prettyChars depth v)
    have hmembers := MembersWritten.cons blanks_nil (blanks_newline depth) hmember
      (membersWritten_pretty depth ms hb)
    rw [prettyMembers]
    simpa using hmembers

end

theorem holds_pretty (v : Value) : Holds (Written v) (v.pretty ++ "\n") := by
  have hbreak : Blanks ['\n'] := blanks_newline 0
  refine ⟨[], v.prettyChars 0, ['\n'], blanks_nil, hbreak, written_prettyChars 0 v, ?_⟩
  unfold pretty
  rw [String.toList_append, String.toList_ofList]
  rfl

end Value

end Observation.Json

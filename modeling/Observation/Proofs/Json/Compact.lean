import Observation.Proofs.Json.Written

/-!
# JSON on one line

The text of a value without blanks holds no control characters: those in strings are escaped, and
there are no others.  So there is no line break in it.

* `Uncontrolled` - a text without control characters.
* `Value.uncontrolled_compact` - the text of a value without blanks is one.
-/

namespace Observation.Json

/-- A text without control characters, line breaks among them. -/
def Uncontrolled (cs : List Char) : Prop :=
  ∀ c ∈ cs, isControl c = false

instance (cs : List Char) : Decidable (Uncontrolled cs) :=
  List.decidableBAll _ cs

section Parts

variable {c : Char} {cs ds : List Char}

theorem Uncontrolled.cons (hc : isControl c = false) (h : Uncontrolled cs) :
    Uncontrolled (c :: cs) :=
  List.forall_mem_cons.2 ⟨hc, h⟩

theorem Uncontrolled.append (hc : Uncontrolled cs) (hd : Uncontrolled ds) :
    Uncontrolled (cs ++ ds) :=
  List.forall_mem_append.2 ⟨hc, hd⟩

theorem Uncontrolled.notMem (h : Uncontrolled cs) (hc : isControl c = true) : c ∉ cs := by
  intro hmem
  rw [h c hmem] at hc
  cases hc

theorem isControl_of_isDigit (h : Text.isDigit c = true) : isControl c = false := by
  unfold Text.isDigit at h
  rw [Bool.and_eq_true, decide_eq_true_eq] at h
  have hle : '0'.toNat ≤ c.toNat := h.1
  exact decide_eq_false (Nat.not_lt_of_le (Nat.le_trans (by decide) hle))

end Parts

/-! ## Strings and numbers -/

theorem uncontrolled_hex : ∀ n < 0x20,
    Uncontrolled ['\\', 'u', '0', '0', Nat.digitChar (n / 16), Nat.digitChar (n % 16)] := by
  decide

theorem uncontrolled_escapeChar (c : Char) : Uncontrolled (escapeChar c) := by
  unfold escapeChar
  split
  · decide
  split
  · decide
  split
  · decide
  split
  · decide
  split
  · decide
  split
  · decide
  split
  · decide
  split
  · next h => exact uncontrolled_hex c.toNat h
  · next h =>
    intro d hd
    rw [List.mem_singleton.1 hd]
    exact decide_eq_false h

theorem uncontrolled_stringChars (s : String) : Uncontrolled (stringChars s) := by
  have hbody : Uncontrolled (s.toList.flatMap escapeChar) := by
    intro c hc
    obtain ⟨d, -, hd⟩ := List.mem_flatMap.1 hc
    exact uncontrolled_escapeChar d c hd
  rw [Value.stringChars_eq]
  exact .cons (by decide) (hbody.append (by decide))

theorem uncontrolled_intChars (n : Int) : Uncontrolled (intChars n) := by
  have hdigits : Uncontrolled (Nat.toDigits 10 n.natAbs) := by
    intro c hc
    exact isControl_of_isDigit (Text.isDigit_of_mem_toDigits hc)
  unfold intChars
  split
  · exact hdigits.cons (by decide)
  · exact hdigits

/-- A key, and its value with what follows. -/
theorem uncontrolled_member (k : String) {cs : List Char} (h : Uncontrolled cs) :
    Uncontrolled (stringChars k ++ ':' :: cs) :=
  (uncontrolled_stringChars k).append (h.cons (by decide))

/-! ## Values -/

namespace Value

mutual

theorem uncontrolled_compactChars (v : Value) : Uncontrolled v.compactChars := by
  cases v with
  | number n =>
    rw [compactChars]
    exact uncontrolled_intChars n
  | boolean b =>
    rw [compactChars]
    cases b <;> decide
  | text s =>
    rw [compactChars]
    exact uncontrolled_stringChars s
  | list items =>
    cases items with
    | nil =>
      rw [compactChars]
      decide
    | cons v vs =>
      have hitems := (uncontrolled_compactChars v).append (uncontrolled_compactItems vs)
      rw [compactChars]
      exact (hitems.cons (by decide)).append (by decide)
  | object members =>
    cases members with
    | nil =>
      rw [compactChars]
      decide
    | cons m ms =>
      obtain ⟨k, v⟩ := m
      have hmembers := uncontrolled_member k
        ((uncontrolled_compactChars v).append (uncontrolled_compactMembers ms))
      have hclose : Uncontrolled ['}'] := by decide
      rw [compactChars]
      simpa using (hmembers.cons (c := '{') (by decide)).append hclose

theorem uncontrolled_compactItems (vs : List Value) : Uncontrolled (compactItems vs) := by
  cases vs with
  | nil =>
    rw [compactItems]
    decide
  | cons v vs =>
    have hitems := (uncontrolled_compactChars v).append (uncontrolled_compactItems vs)
    rw [compactItems]
    exact hitems.cons (by decide)

theorem uncontrolled_compactMembers (ms : List (String × Value)) :
    Uncontrolled (compactMembers ms) := by
  cases ms with
  | nil =>
    rw [compactMembers]
    decide
  | cons m ms =>
    obtain ⟨k, v⟩ := m
    have hmembers := uncontrolled_member k
      ((uncontrolled_compactChars v).append (uncontrolled_compactMembers ms))
    rw [compactMembers]
    simpa using hmembers.cons (c := ',') (by decide)

end

theorem uncontrolled_compact (v : Value) : Uncontrolled v.compact.toList := by
  unfold compact
  rw [String.toList_ofList]
  exact uncontrolled_compactChars v

end Value

end Observation.Json

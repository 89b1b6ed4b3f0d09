import Observation.Proofs.Json.Strings
import Observation.Proofs.Text.Digits

/-!
# Texts of JSON values

A value has many texts: blanks may stand before and after each of its parts, and strings may be
escaped in several ways.

* `Written` - whether a text is one of a value.
* `Written.skipBlanks_append` - where the text of a value starts.
* `Value.written_compact` - the text without blanks is one of them.
-/

namespace Observation.Json

/-! ## Blanks -/

/-- Nothing but blanks. -/
def Blanks (cs : List Char) : Prop :=
  ∀ c ∈ cs, isBlank c = true

theorem blanks_nil : Blanks [] :=
  List.forall_mem_nil _

theorem skipBlanks_append {bs : List Char} (h : Blanks bs) (cs : List Char) :
    skipBlanks (bs ++ cs) = skipBlanks cs := by
  unfold skipBlanks
  exact List.dropWhile_append_of_pos h

theorem skipBlanks_cons {c : Char} (h : isBlank c = false) (cs : List Char) :
    skipBlanks (c :: cs) = c :: cs := by
  unfold skipBlanks
  rw [List.dropWhile_cons_of_neg]
  rw [h]
  exact Bool.false_ne_true

theorem skipBlanks_append_cons {bs : List Char} (h : Blanks bs) {c : Char}
    (hc : isBlank c = false) (cs : List Char) : skipBlanks (bs ++ c :: cs) = c :: cs := by
  rw [skipBlanks_append h, skipBlanks_cons hc]

/-! ## Values -/

/-- The characters of a truth value. -/
def boolChars (b : Bool) : List Char :=
  if b then ['t', 'r', 'u', 'e'] else ['f', 'a', 'l', 's', 'e']

mutual

/-- The texts of a value. -/
inductive Written : Value → List Char → Prop
  | number (n : Int) : Written (.number n) (intChars n)
  | boolean (b : Bool) : Written (.boolean b) (boolChars b)
  | text {s : String} {cs : List Char} (spelling : StringSpelling s.toList cs) :
      Written (.text s) ('"' :: (cs ++ ['"']))
  | list_nil {bs : List Char} (blanks : Blanks bs) : Written (.list []) ('[' :: (bs ++ [']']))
  | list_cons {v : Value} {vs : List Value} {bs cs ds : List Char} (blanks : Blanks bs)
      (head : Written v cs) (tail : ItemsWritten vs ds) :
      Written (.list (v :: vs)) ('[' :: (bs ++ (cs ++ (ds ++ [']']))))
  | object_nil {bs : List Char} (blanks : Blanks bs) :
      Written (.object []) ('{' :: (bs ++ ['}']))
  | object_cons {k : String} {v : Value} {ms : List (String × Value)} {bs cs ds : List Char}
      (blanks : Blanks bs) (head : MemberWritten k v cs) (tail : MembersWritten ms ds) :
      Written (.object ((k, v) :: ms)) ('{' :: (bs ++ (cs ++ (ds ++ ['}']))))

/-- The texts of a member of an object. -/
inductive MemberWritten : String → Value → List Char → Prop
  | mk {k : String} {v : Value} {ks as bs cs : List Char} (key : StringSpelling k.toList ks)
      (blanks : Blanks as) (blanks' : Blanks bs) (value : Written v cs) :
      MemberWritten k v ('"' :: (ks ++ '"' :: (as ++ ':' :: (bs ++ cs))))

/-- The texts of the items of a list after the first one, up to its end. -/
inductive ItemsWritten : List Value → List Char → Prop
  | nil {bs : List Char} (blanks : Blanks bs) : ItemsWritten [] bs
  | cons {v : Value} {vs : List Value} {as bs cs ds : List Char} (blanks : Blanks as)
      (blanks' : Blanks bs) (head : Written v cs) (tail : ItemsWritten vs ds) :
      ItemsWritten (v :: vs) (as ++ ',' :: (bs ++ (cs ++ ds)))

/-- The texts of the members of an object after the first one, up to its end. -/
inductive MembersWritten : List (String × Value) → List Char → Prop
  | nil {bs : List Char} (blanks : Blanks bs) : MembersWritten [] bs
  | cons {k : String} {v : Value} {ms : List (String × Value)} {as bs cs ds : List Char}
      (blanks : Blanks as) (blanks' : Blanks bs) (head : MemberWritten k v cs)
      (tail : MembersWritten ms ds) :
      MembersWritten ((k, v) :: ms) (as ++ ',' :: (bs ++ (cs ++ ds)))

end

/-! ## Where a value starts and ends -/

/-- Whether a character can be the first one of a number, a truth value or a string, or opens a
list or an object. -/
def isOpening (c : Char) : Bool :=
  Text.isDigit c || ['-', 't', 'f', '"', '[', '{'].contains c

theorem ne_of_isOpening {c d : Char} (hc : isOpening c = true) (hd : isOpening d = false) :
    c ≠ d := by
  rintro rfl
  rw [hc] at hd
  cases hd

theorem isBlank_of_isOpening {c : Char} (hc : isOpening c = true) : isBlank c = false := by
  have hne {d : Char} (hd : isOpening d = false) : (c == d) = false :=
    beq_eq_false_iff_ne.2 (ne_of_isOpening hc hd)
  unfold isBlank
  rw [hne (by decide), hne (by decide), hne (by decide), hne (by decide)]
  rfl

/-- A text of a value starts with a character that opens one. -/
theorem Written.exists_opening {v : Value} {cs : List Char} (h : Written v cs) :
    ∃ c ds, cs = c :: ds ∧ isOpening c = true := by
  cases h with
  | number n =>
    unfold intChars
    split
    · exact ⟨_, _, rfl, rfl⟩
    · obtain ⟨d, ds, hd, hdigit⟩ := Text.exists_toDigits_cons n.natAbs
      exact ⟨d, ds, hd, by unfold isOpening; rw [hdigit, Bool.true_or]⟩
  | boolean b =>
    cases b with
    | true => exact ⟨_, _, rfl, rfl⟩
    | false => exact ⟨_, _, rfl, rfl⟩
  | text spelling => exact ⟨_, _, rfl, rfl⟩
  | list_nil blanks => exact ⟨_, _, rfl, rfl⟩
  | list_cons blanks head tail => exact ⟨_, _, rfl, rfl⟩
  | object_nil blanks => exact ⟨_, _, rfl, rfl⟩
  | object_cons blanks head tail => exact ⟨_, _, rfl, rfl⟩

theorem Written.skipBlanks_append {v : Value} {cs bs : List Char} (h : Written v cs)
    (hb : Blanks bs) (rest : List Char) : skipBlanks (bs ++ (cs ++ rest)) = cs ++ rest := by
  obtain ⟨c, ds, rfl, hc⟩ := h.exists_opening
  exact skipBlanks_append_cons hb (isBlank_of_isOpening hc) (ds ++ rest)

/-- Whether a character, after the digits of a number, would be taken as part of it. -/
def goesOn (c : Char) : Bool :=
  Text.isDigit c || ['.', 'e', 'E'].contains c

/-- No number goes on into the text. -/
def Delimited (cs : List Char) : Prop :=
  ∀ c ∈ cs.head?, goesOn c = false

theorem delimited_nil : Delimited [] :=
  fun _ h => absurd h (by simp)

theorem delimited_cons {c : Char} (h : goesOn c = false) (cs : List Char) :
    Delimited (c :: cs) := by
  intro d hd
  rw [List.head?_cons, Option.mem_some_iff] at hd
  rwa [← hd]

theorem goesOn_of_isBlank {c : Char} (h : isBlank c = true) : goesOn c = false := by
  simp only [isBlank, Bool.or_eq_true, beq_iff_eq] at h
  rcases h with ((rfl | rfl) | rfl) | rfl <;> decide

theorem delimited_append {bs cs : List Char} (hb : Blanks bs) (hc : Delimited cs) :
    Delimited (bs ++ cs) := by
  cases bs with
  | nil => exact hc
  | cons b bs => exact delimited_cons (goesOn_of_isBlank (hb b List.mem_cons_self)) _

/-! ## The text without blanks -/

namespace Value

theorem stringChars_eq (s : String) :
    stringChars s = '"' :: (s.toList.flatMap escapeChar ++ ['"']) := rfl

/-- A member with its name escaped as it is written, whatever blanks come after the colon. -/
theorem memberWritten_stringChars (k : String) {v : Value} {bs cs : List Char} (hb : Blanks bs)
    (h : Written v cs) : MemberWritten k v (stringChars k ++ ':' :: (bs ++ cs)) := by
  have hmember := MemberWritten.mk (stringSpelling_escape k.toList) blanks_nil hb h
  rw [stringChars_eq, List.cons_append, List.append_assoc]
  exact hmember

mutual

theorem written_compact (v : Value) : Written v v.compactChars := by
  cases v with
  | number n =>
    rw [compactChars]
    exact .number n
  | boolean b =>
    rw [compactChars]
    exact .boolean b
  | text s =>
    rw [compactChars, stringChars_eq]
    exact .text (stringSpelling_escape s.toList)
  | list items =>
    cases items with
    | nil =>
      rw [compactChars]
      exact .list_nil blanks_nil
    | cons v vs =>
      rw [compactChars, List.cons_append, List.cons_append, List.append_assoc]
      exact .list_cons blanks_nil (written_compact v) (itemsWritten_compact vs)
  | object members =>
    cases members with
    | nil =>
      rw [compactChars]
      exact .object_nil blanks_nil
    | cons m ms =>
      obtain ⟨k, v⟩ := m
      have hmember := memberWritten_stringChars k blanks_nil (written_compact v)
      have hobject := Written.object_cons blanks_nil hmember (membersWritten_compact ms)
      rw [compactChars]
      simpa using hobject

theorem itemsWritten_compact (vs : List Value) : ItemsWritten vs (compactItems vs) := by
  cases vs with
  | nil =>
    rw [compactItems]
    exact .nil blanks_nil
  | cons v vs =>
    rw [compactItems, List.cons_append]
    exact .cons blanks_nil blanks_nil (written_compact v) (itemsWritten_compact vs)

theorem membersWritten_compact (ms : List (String × Value)) :
    MembersWritten ms (compactMembers ms) := by
  cases ms with
  | nil =>
    rw [compactMembers]
    exact .nil blanks_nil
  | cons m ms =>
    obtain ⟨k, v⟩ := m
    have hmember := memberWritten_stringChars k blanks_nil (written_compact v)
    have hmembers := MembersWritten.cons blanks_nil blanks_nil hmember (membersWritten_compact ms)
    rw [compactMembers]
    simpa using hmembers

end

end Value

end Observation.Json

import Observation.Json.Lexical
import Observation.Json.Value

/-!
# Strings in JSON

A character in a string stands for itself or is escaped, and most can be escaped in several ways.

* `CharSpelling`, `StringSpelling` - the ways to write a character and a string.
* `stringBody_append` - whichever way a string is written, reading gives it back.
* `stringSpelling_escape` - the writer keeps to these ways.
-/

namespace Observation.Json

/-- How a character can be written between quotes. -/
inductive CharSpelling : Char → List Char → Prop
  | plain {c : Char} (not_quote : c ≠ '"') (not_backslash : c ≠ '\\')
      (not_control : isControl c = false) : CharSpelling c [c]
  | short {c e : Char} (escape : shortEscape? e = some c) : CharSpelling c ['\\', e]
  | unit {w x y z : Char} {n : Nat} (hex : hexUnit? w x y z = some n)
      (not_low : isLowSurrogate n = false) (not_high : isHighSurrogate n = false) :
      CharSpelling (Char.ofNat n) ['\\', 'u', w, x, y, z]
  | pair {w x y z w' x' y' z' : Char} {n m : Nat} (hex : hexUnit? w x y z = some n)
      (hex' : hexUnit? w' x' y' z' = some m) (high : isHighSurrogate n = true)
      (low : isLowSurrogate m = true) :
      CharSpelling (ofSurrogates n m) ['\\', 'u', w, x, y, z, '\\', 'u', w', x', y', z']

/-- How characters can be written one after another. -/
inductive StringSpelling : List Char → List Char → Prop
  | nil : StringSpelling [] []
  | cons {c : Char} {s cs ds : List Char} (head : CharSpelling c cs) (tail : StringSpelling s ds) :
      StringSpelling (c :: s) (cs ++ ds)

/-! ## Reading -/

theorem stringBody_plain {c : Char} (hquote : c ≠ '"') (hback : c ≠ '\\')
    (hctl : isControl c = false) (rest : List Char) :
    stringBody (c :: rest) = consRead c (stringBody rest) := by
  rw [stringBody, if_neg (by rw [hctl]; exact Bool.false_ne_true)]
  · exact hquote
  -- What is left are the cases of an escape.
  all_goals simp [hback]

theorem stringBody_short {c e : Char} (h : shortEscape? e = some c) (rest : List Char) :
    stringBody ('\\' :: e :: rest) = consRead c (stringBody rest) := by
  have hu : e ≠ 'u' := by
    rintro rfl
    cases h
  rw [stringBody]
  · rw [h]
  · intro _ _ _ _ _ he
    exact absurd he hu
  · exact hu

/-- The two halves of a surrogate pair do not overlap. -/
theorem isLowSurrogate_of_isHighSurrogate {n : Nat} (h : isHighSurrogate n = true) :
    isLowSurrogate n = false := by
  unfold isHighSurrogate at h
  unfold isLowSurrogate
  simp only [Bool.and_eq_true, decide_eq_true_eq] at h
  simp only [Bool.and_eq_false_iff, decide_eq_false_iff_not]
  omega

theorem stringBody_spelling {c : Char} {cs : List Char} (h : CharSpelling c cs)
    (rest : List Char) : stringBody (cs ++ rest) = consRead c (stringBody rest) := by
  cases h with
  | plain hquote hback hctl => exact stringBody_plain hquote hback hctl rest
  | short h => exact stringBody_short h rest
  | unit hex hlow hhigh =>
    simp only [List.cons_append, List.nil_append]
    rw [stringBody]
    simp only [hex, hlow, hhigh, Bool.false_eq_true, if_false]
  | pair hex hex' hhigh hlow =>
    have hnot := isLowSurrogate_of_isHighSurrogate hhigh
    simp only [List.cons_append, List.nil_append]
    rw [stringBody]
    simp only [hex, hex', hnot, hhigh, hlow, Bool.false_eq_true, if_false, if_true]

theorem stringBody_append {s cs : List Char} (h : StringSpelling s cs) (rest : List Char) :
    stringBody (cs ++ '"' :: rest) = .ok (s, rest) := by
  induction h with
  | nil => rw [List.nil_append, stringBody]
  | cons hhead _ ih =>
    rw [List.append_assoc, stringBody_spelling hhead, ih]
    rfl

/-! ## Writing -/

theorem hexUnit?_control : ∀ n < 0x20,
    hexUnit? '0' '0' (Nat.digitChar (n / 16)) (Nat.digitChar (n % 16)) = some n := by
  decide

theorem charSpelling_control {c : Char} (h : c.toNat < 0x20) :
    CharSpelling c
      ['\\', 'u', '0', '0', Nat.digitChar (c.toNat / 16), Nat.digitChar (c.toNat % 16)] := by
  have hlow : isLowSurrogate c.toNat = false := by
    unfold isLowSurrogate
    rw [Bool.and_eq_false_iff, decide_eq_false_iff_not]
    omega
  have hhigh : isHighSurrogate c.toNat = false := by
    unfold isHighSurrogate
    rw [Bool.and_eq_false_iff, decide_eq_false_iff_not]
    omega
  have hunit := CharSpelling.unit (hexUnit?_control c.toNat h) hlow hhigh
  rwa [Char.ofNat_toNat] at hunit

theorem charSpelling_escapeChar (c : Char) : CharSpelling c (escapeChar c) := by
  unfold escapeChar
  split
  · next h => exact .short (by rw [h]; rfl)
  split
  · next h => exact .short (by rw [h]; rfl)
  split
  · next h => exact .short (by rw [h]; rfl)
  split
  · next h => exact .short (by rw [h]; rfl)
  split
  · next h => exact .short (by rw [h]; rfl)
  split
  · next h => exact .short (by rw [h]; rfl)
  split
  · next h => exact .short (by rw [h]; rfl)
  split
  · next h => exact charSpelling_control h
  · next hquote hback _ _ _ _ _ hctl =>
    exact .plain hquote hback (decide_eq_false hctl)

/-- What is written between quotes is a way to write the string. -/
theorem stringSpelling_escape (s : List Char) : StringSpelling s (s.flatMap escapeChar) := by
  induction s with
  | nil => exact .nil
  | cons c s ih => exact .cons (charSpelling_escapeChar c) ih

end Observation.Json

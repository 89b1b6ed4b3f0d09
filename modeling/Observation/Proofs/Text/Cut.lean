import Mathlib.Data.List.TakeWhile

/-!
# Cutting a text at a character

* `Text.takeWhile_ne_append`, `Text.dropWhile_ne_append` - the text before the first of some
  character, and the text from there on.
* `Text.dropWhile_ne_eq_nil` - a text without the character.
-/

namespace Observation.Text

variable {c : Char} {cs front back : List Char}

theorem ne_of_notMem (h : c ∉ front) : ∀ x ∈ front, (x != c) = true := by
  intro x hx
  rw [bne_iff_ne]
  rintro rfl
  exact h hx

theorem takeWhile_ne_append (h : c ∉ front) :
    (front ++ c :: back).takeWhile (· != c) = front := by
  rw [List.takeWhile_append_of_pos (ne_of_notMem h), List.takeWhile_cons_of_neg (by simp),
    List.append_nil]

theorem dropWhile_ne_append (h : c ∉ front) :
    (front ++ c :: back).dropWhile (· != c) = c :: back := by
  rw [List.dropWhile_append_of_pos (ne_of_notMem h), List.dropWhile_cons_of_neg (by simp)]

theorem dropWhile_ne_eq_nil (h : c ∉ cs) : cs.dropWhile (· != c) = [] :=
  List.dropWhile_eq_nil_iff.2 (ne_of_notMem h)

end Observation.Text

import Observation.Text.Digits

/-!
# Numbers written in decimal digits

* `Text.digitsValue_toDigits` - the digits of a number stand for it.
* `Text.toDigits_ne_zero_cons` - only zero starts with a zero.
* `Text.toDigits_digitsValue` - all other digits are those of the number that they stand for.
-/

namespace Observation.Text

theorem isDigit_eq (c : Char) : isDigit c = c.isDigit := by
  unfold isDigit Char.isDigit
  rw [Bool.eq_iff_iff, Bool.and_eq_true, Bool.and_eq_true]
  exact Iff.rfl

theorem isDigit_of_mem_toDigits {n : Nat} {c : Char} (h : c ∈ Nat.toDigits 10 n) :
    isDigit c = true := by
  rw [isDigit_eq]
  exact Nat.isDigit_of_mem_toDigits (by decide) (by decide) h

theorem digitsValue_eq_ofDigitChars (digits : List Char) :
    digitsValue digits = Nat.ofDigitChars 10 digits 0 := by
  unfold digitsValue Nat.ofDigitChars digitValue
  congr 1
  funext n c
  rw [Nat.mul_comm]

@[simp] theorem digitsValue_toDigits (n : Nat) : digitsValue (Nat.toDigits 10 n) = n := by
  rw [digitsValue_eq_ofDigitChars, Nat.ofDigitChars_ten_toDigits]

theorem exists_toDigits_cons (n : Nat) :
    ∃ c cs, Nat.toDigits 10 n = c :: cs ∧ isDigit c = true := by
  obtain ⟨c, cs, hc⟩ := List.exists_cons_of_ne_nil (Nat.toDigits_ne_nil (n := n) (b := 10))
  exact ⟨c, cs, hc, isDigit_of_mem_toDigits (hc ▸ List.mem_cons_self)⟩

/-- A number other than zero does not start with a zero. -/
theorem toDigits_ne_zero_cons {n : Nat} (hn : 0 < n) (ds : List Char) :
    Nat.toDigits 10 n ≠ '0' :: ds := by
  induction n using Nat.base_induction 10 (by decide) generalizing ds with
  | single m hm =>
    intro h
    rw [Nat.toDigits_of_lt_base hm, List.cons.injEq, Nat.digitChar_eq_zero] at h
    omega
  | digit m k hk hm ih =>
    intro h
    rw [← Nat.toDigits_append_toDigits (by decide) hm hk] at h
    obtain ⟨d, es, hd, -⟩ := exists_toDigits_cons m
    rw [hd, List.cons_append, List.cons.injEq] at h
    exact ih hm es (by rw [hd, h.1])

theorem digitValue_lt {c : Char} (h : isDigit c = true) : digitValue c < 10 := by
  simp only [isDigit, Bool.and_eq_true, decide_eq_true_eq] at h
  have hc : c.toNat ≤ '9'.toNat := h.2
  have hnine : '9'.toNat = '0'.toNat + 9 := rfl
  unfold digitValue
  omega

theorem digitChar_eq_ofNat : ∀ n < 10, Nat.digitChar n = Char.ofNat ('0'.toNat + n) := by
  decide

theorem toDigits_digitValue {c : Char} (h : isDigit c = true) :
    Nat.toDigits 10 (digitValue c) = [c] := by
  have hlt := digitValue_lt h
  simp only [isDigit, Bool.and_eq_true, decide_eq_true_eq] at h
  have hsum : '0'.toNat + digitValue c = c.toNat := Nat.add_sub_cancel' h.1
  rw [Nat.toDigits_of_lt_base hlt, digitChar_eq_ofNat _ hlt, hsum, Char.ofNat_toNat]

/-- More digits go on from those of a number. -/
theorem toDigits_foldl {n : Nat} {ds : List Char} (hn : 0 < n)
    (hds : ∀ d ∈ ds, isDigit d = true) :
    Nat.toDigits 10 (ds.foldl (fun n c => n * 10 + digitValue c) n) = Nat.toDigits 10 n ++ ds := by
  induction ds generalizing n with
  | nil => rw [List.foldl_nil, List.append_nil]
  | cons d ds ih =>
    obtain ⟨hd, hds⟩ := List.forall_mem_cons.1 hds
    have hstep : Nat.toDigits 10 (n * 10 + digitValue d) = Nat.toDigits 10 n ++ [d] := by
      rw [← toDigits_digitValue hd, Nat.mul_comm]
      exact (Nat.toDigits_append_toDigits (by decide) hn (digitValue_lt hd)).symm
    rw [List.foldl_cons, ih (by omega) hds, hstep, List.append_assoc, List.singleton_append]

/-- Digits of which the first is no zero are those of the number that they stand for. -/
theorem toDigits_digitsValue {c : Char} {ds : List Char} (hc : c ≠ '0')
    (hds : ∀ d ∈ c :: ds, isDigit d = true) :
    Nat.toDigits 10 (digitsValue (c :: ds)) = c :: ds := by
  obtain ⟨hdigit, hds⟩ := List.forall_mem_cons.1 hds
  -- Only from a number other than zero do more digits go on.
  have hpos : 0 < digitValue c := by
    rw [Nat.pos_iff_ne_zero]
    intro hzero
    have hdigits := toDigits_digitValue hdigit
    rw [hzero, Nat.toDigits_zero, List.cons.injEq] at hdigits
    exact hc hdigits.1.symm
  rw [digitsValue, List.foldl_cons, Nat.zero_mul, Nat.zero_add, toDigits_foldl hpos hds,
    toDigits_digitValue hdigit, List.singleton_append]

end Observation.Text

import Observation.Json.Reader
import Observation.Proofs.Except
import Observation.Proofs.Json.Written

/-!
# Numbers in JSON

A number has digits, and perhaps a fraction and an exponent.  Any such text is passed over, and a
natural number of one machine word is read from its digits.

* `WholeText`, `FractionText`, `ExponentText`, `NumberText` - the texts of numbers without a sign.
* `skipNumber_append` - a number is passed over to its end.
* `number_toDigits` - a natural number is read from its digits.
-/

namespace Observation.Json

/-! ## Texts of numbers -/

/-- Digits, at least one of them. -/
structure DigitsText (ds : List Char) : Prop where
  ne_nil : ds ≠ []
  digits : ∀ c ∈ ds, Text.isDigit c = true

/-- What stands before the point: digits, of which the first is zero only if it is the only one. -/
inductive WholeText : List Char → Prop
  | zero : WholeText ['0']
  | digits {c : Char} {ds : List Char} (ne_zero : c ≠ '0') (digits : DigitsText (c :: ds)) :
      WholeText (c :: ds)

/-- A point with digits after it, or nothing. -/
inductive FractionText : List Char → Prop
  | absent : FractionText []
  | present {ds : List Char} (digits : DigitsText ds) : FractionText ('.' :: ds)

/-- A mark with digits after it, which may have a sign, or nothing. -/
inductive ExponentText : List Char → Prop
  | absent : ExponentText []
  | present {mark : Char} {sign ds : List Char} (marked : mark = 'e' ∨ mark = 'E')
      (signed : sign = [] ∨ sign = ['+'] ∨ sign = ['-']) (digits : DigitsText ds) :
      ExponentText (mark :: (sign ++ ds))

/-- A number without a sign. -/
inductive NumberText : List Char → Prop
  | mk {ds fs es : List Char} (whole : WholeText ds) (fraction : FractionText fs)
      (exponent : ExponentText es) : NumberText (ds ++ (fs ++ es))

theorem WholeText.digitsText {ds : List Char} (h : WholeText ds) : DigitsText ds := by
  cases h with
  | zero => exact ⟨by simp, List.forall_mem_singleton.2 (by decide)⟩
  | digits ne_zero digits => exact digits

theorem wholeText_toDigits (n : Nat) : WholeText (Nat.toDigits 10 n) := by
  rcases Nat.eq_zero_or_pos n with rfl | hn
  · exact .zero
  · obtain ⟨c, ds, hds, -⟩ := Text.exists_toDigits_cons n
    have hall : ∀ d ∈ c :: ds, Text.isDigit d = true := by
      intro d hd
      rw [← hds] at hd
      exact Text.isDigit_of_mem_toDigits hd
    have hzero : c ≠ '0' := by
      rintro rfl
      exact Text.toDigits_ne_zero_cons hn ds hds
    rw [hds]
    exact .digits hzero ⟨by simp, hall⟩

/-! ## Reading the parts -/

section Parts

variable {p : Char → Bool} {ds cs rest : List Char}

/-- A text whose first character, if it has any, is none of some. -/
def NotFirst (p : Char → Bool) (cs : List Char) : Prop :=
  ∀ c ∈ cs.head?, p c = false

theorem NotFirst.append (hc : NotFirst p cs) (hrest : NotFirst p rest) :
    NotFirst p (cs ++ rest) := by
  cases cs with
  | nil => exact hrest
  | cons c cs => exact hc

theorem digits_append (hds : ∀ c ∈ ds, Text.isDigit c = true)
    (hrest : NotFirst Text.isDigit rest) : digits (ds ++ rest) = (ds, rest) := by
  have htake : rest.takeWhile Text.isDigit = [] ∧ rest.dropWhile Text.isDigit = rest := by
    cases rest with
    | nil => exact ⟨rfl, rfl⟩
    | cons c rest =>
      have hc := hrest c rfl
      simp [hc]
  unfold digits
  rw [List.takeWhile_append_of_pos hds, List.dropWhile_append_of_pos hds, htake.1, htake.2,
    List.append_nil]

theorem wholePart_append (h : WholeText ds) (hrest : NotFirst Text.isDigit rest) :
    wholePart (ds ++ rest) = .ok (ds, rest) := by
  have hds := h.digitsText
  unfold wholePart
  rw [digits_append hds.digits hrest]
  split
  · next heq =>
    rw [Prod.mk.injEq] at heq
    exact absurd heq.1 hds.ne_nil
  · next heq =>
    -- Only zero itself starts with a zero, and it has no second digit.
    rw [Prod.mk.injEq] at heq
    cases h with
    | zero => cases heq.1
    | digits ne_zero digits =>
      rw [List.cons.injEq] at heq
      exact absurd heq.1.1 ne_zero
  · next heq =>
    cases heq
    rfl

/-- Whether a character, after the digits before the point, would be taken as part of a number. -/
def isPointOrDigit (c : Char) : Bool :=
  Text.isDigit c || c == '.'

theorem NotFirst.notDigit (h : NotFirst isPointOrDigit rest) : NotFirst Text.isDigit rest := by
  intro c hc
  have hboth := h c hc
  unfold isPointOrDigit at hboth
  exact (Bool.or_eq_false_iff.1 hboth).1

theorem fractionPart_absent (hrest : NotFirst isPointOrDigit rest) :
    fractionPart rest = .ok (none, rest) := by
  unfold fractionPart
  split
  · exact absurd (hrest '.' rfl) (by decide)
  · rfl

theorem exists_fractionPart (h : FractionText cs) (hrest : NotFirst isPointOrDigit rest) :
    ∃ fraction, fractionPart (cs ++ rest) = .ok (fraction, rest) := by
  cases h with
  | absent => exact ⟨none, fractionPart_absent hrest⟩
  | @present ds hds =>
    refine ⟨some ds, ?_⟩
    rw [List.cons_append, fractionPart, digits_append hds.digits hrest.notDigit]
    split
    · next heq =>
      rw [Prod.mk.injEq] at heq
      exact absurd heq.1 hds.ne_nil
    · next heq =>
      cases heq
      rfl

theorem exponentPart_absent (hrest : Delimited rest) : exponentPart rest = .ok (none, rest) := by
  cases rest with
  | nil => rfl
  | cons c rest =>
    have hc : ¬(c = 'e' ∨ c = 'E') := by
      rintro (rfl | rfl)
      · exact absurd (hrest 'e' rfl) (by decide)
      · exact absurd (hrest 'E' rfl) (by decide)
    rw [exponentPart, if_neg hc]

theorem exponentSign_append {sign : List Char} (hsign : sign = [] ∨ sign = ['+'] ∨ sign = ['-'])
    (hds : DigitsText ds) (rest : List Char) :
    ∃ isNegative, exponentSign (sign ++ (ds ++ rest)) = (isNegative, ds ++ rest) := by
  rcases hsign with rfl | rfl | rfl
  · refine ⟨false, ?_⟩
    obtain ⟨hne, hall⟩ := hds
    cases ds with
    | nil => exact absurd rfl hne
    | cons c ds =>
      have hc := hall c List.mem_cons_self
      simp only [List.nil_append, List.cons_append]
      unfold exponentSign
      split
      · next heq =>
        cases heq
        exact absurd hc (by decide)
      · next heq =>
        cases heq
        exact absurd hc (by decide)
      · rfl
  · exact ⟨false, rfl⟩
  · exact ⟨true, rfl⟩

theorem Delimited.notFirst (h : Delimited rest) : NotFirst isPointOrDigit rest := by
  intro c hc
  have hgoes := h c hc
  unfold goesOn at hgoes
  unfold isPointOrDigit
  simp only [Bool.or_eq_false_iff] at hgoes ⊢
  refine ⟨hgoes.1, ?_⟩
  rw [beq_eq_false_iff_ne]
  rintro rfl
  exact absurd hgoes.2 (by decide)

theorem exists_exponentPart (h : ExponentText cs) (hrest : Delimited rest) :
    ∃ exponent, exponentPart (cs ++ rest) = .ok (exponent, rest) := by
  cases h with
  | absent => exact ⟨none, exponentPart_absent hrest⟩
  | @present mark sign ds marked signed hds =>
    have hdigits := digits_append hds.digits hrest.notFirst.notDigit
    obtain ⟨isNegative, hsign⟩ := exponentSign_append signed hds rest
    refine ⟨some (isNegative, ds), ?_⟩
    rw [List.cons_append, List.append_assoc, exponentPart, if_pos marked]
    simp only [hsign, hdigits]
    split
    · next heq =>
      rw [Prod.mk.injEq] at heq
      exact absurd heq.1 hds.ne_nil
    · next heq =>
      cases heq
      rfl

end Parts

/-! ## Passing over a number -/

section Skip

variable {cs rest : List Char}

theorem ExponentText.notFirst (h : ExponentText cs) : NotFirst isPointOrDigit cs := by
  cases h with
  | absent => simp [NotFirst]
  | present marked signed hds =>
    intro c hc
    rw [List.head?_cons, Option.mem_some_iff] at hc
    subst hc
    rcases marked with rfl | rfl <;> decide

theorem FractionText.notFirst (h : FractionText cs) : NotFirst Text.isDigit cs := by
  cases h with
  | absent => simp [NotFirst]
  | present hds =>
    intro c hc
    rw [List.head?_cons, Option.mem_some_iff] at hc
    subst hc
    decide

/-- A number is passed over to its end. -/
theorem skipNumber_append (h : NumberText cs) (hrest : Delimited rest) :
    skipNumber (cs ++ rest) = .ok rest := by
  cases h with
  | @mk ds fs es whole fraction exponent =>
    have hexponent : NotFirst isPointOrDigit (es ++ rest) :=
      exponent.notFirst.append hrest.notFirst
    have hfraction : NotFirst Text.isDigit (fs ++ (es ++ rest)) :=
      fraction.notFirst.append hexponent.notDigit
    obtain ⟨f, hf⟩ := exists_fractionPart fraction hexponent
    obtain ⟨e, he⟩ := exists_exponentPart exponent hrest
    have hwhole := wholePart_append whole hfraction
    simp only [List.append_assoc]
    unfold skipNumber
    simp only [hwhole, bind, Except.bind, hf, he]
    rfl

end Skip

/-! ## Natural numbers -/

section Natural

variable {n : Nat} {rest : List Char}

theorem unsignedNumber_toDigits (hn : n ≤ maxWord) (hrest : Delimited rest) :
    unsignedNumber false (Nat.toDigits 10 n ++ rest) = .ok (.natural n, rest) := by
  have hnumber : numberOf false (Nat.toDigits 10 n) none none = .ok (.natural n) := by
    simp [numberOf, hn]
  have hwhole := wholePart_append (wholeText_toDigits n) hrest.notFirst.notDigit
  have hfraction := fractionPart_absent hrest.notFirst
  have hexponent := exponentPart_absent hrest
  unfold unsignedNumber
  simp only [hwhole, Except.bind_eq_ok_iff]
  exact ⟨_, rfl, _, hfraction, _, hexponent, _, hnumber, rfl⟩

theorem number_toDigits (hn : n ≤ maxWord) (hrest : Delimited rest) :
    number (Nat.toDigits 10 n ++ rest) = .ok (.natural n, rest) := by
  have hdigits := unsignedNumber_toDigits hn hrest
  unfold number
  split
  · next s h =>
    obtain ⟨c, cs, hc, hdigit⟩ := Text.exists_toDigits_cons n
    rw [hc, List.cons_append, List.cons.injEq] at h
    rw [h.1] at hdigit
    exact absurd hdigit (by decide)
  · exact hdigits

end Natural

end Observation.Json

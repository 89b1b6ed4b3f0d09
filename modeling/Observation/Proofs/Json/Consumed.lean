import Mathlib.Data.List.TakeWhile
import Observation.Proofs.Except
import Observation.Proofs.Json.WellFormed

/-!
# What is read off a text

Whatever is read or passed over at the front of a text is spelled as it should be, and the text goes
on with what is left.

* `Leads`, `Continues` - what stands at the front of a text, and what goes on in it.
* `exists_blanks`, `eq_of_literal` - blanks and literals.
* `exists_of_stringBody`, `exists_of_skipString` - strings.
* `exists_of_skipNumber`, `eq_of_number` - numbers passed over, and natural numbers read.
-/

namespace Observation.Json

variable {s t rest : List Char}

/-- After blanks, `cs` stands at the front of `s`, and `rest` comes after it. -/
def Leads (cs s rest : List Char) : Prop :=
  ∃ bs, Blanks bs ∧ s = bs ++ (cs ++ rest)

/-- The parts go on in `s` after one of them, up to what closes their row, and `rest` comes after
that. -/
def Continues (parts : List (List Char)) (closing : Char) (s rest : List Char) : Prop :=
  ∃ ds, Separated parts ds ∧ s = ds ++ closing :: rest

section Rows

variable {cs part : List Char} {parts : List (List Char)} {closing : Char}

theorem exists_blanks (h : skipBlanks s = t) : ∃ bs, Blanks bs ∧ s = bs ++ t := by
  subst h
  refine ⟨s.takeWhile isBlank, ?_, List.takeWhile_append_dropWhile.symm⟩
  exact fun c hc => List.mem_takeWhile_imp hc

theorem leads_of_skipBlanks (h : skipBlanks s = cs ++ rest) : Leads cs s rest :=
  exists_blanks h

theorem Leads.of_skipBlanks (h : Leads cs (skipBlanks s) rest) : Leads cs s rest := by
  obtain ⟨bs, hbs, hs⟩ := h
  obtain ⟨as, has, heq⟩ := exists_blanks (s := s) rfl
  refine ⟨as ++ bs, fun c hc => (List.mem_append.1 hc).elim (has c) (hbs c), ?_⟩
  rw [heq, hs, List.append_assoc]

theorem Continues.nil (h : skipBlanks s = closing :: rest) : Continues [] closing s rest := by
  obtain ⟨bs, hbs, rfl⟩ := exists_blanks h
  exact ⟨bs, .nil hbs, rfl⟩

theorem Continues.cons {u : List Char} (h : skipBlanks s = ',' :: t) (hpart : Leads part t u)
    (hrest : Continues parts closing u rest) : Continues (part :: parts) closing s rest := by
  obtain ⟨as, has, rfl⟩ := exists_blanks h
  obtain ⟨bs, hbs, rfl⟩ := hpart
  obtain ⟨ds, hds, rfl⟩ := hrest
  exact ⟨_, .cons has hbs hds, by simp⟩

theorem exists_enclosed_nil (opening : Char) (h : skipBlanks s = closing :: rest) :
    ∃ cs, Enclosed opening closing [] cs ∧ opening :: s = cs ++ rest := by
  obtain ⟨bs, hbs, rfl⟩ := exists_blanks h
  exact ⟨_, .nil hbs, by simp⟩

theorem Continues.exists_enclosed {opening : Char} (h : Continues parts closing t rest)
    (hpart : Leads part s t) :
    ∃ cs, Enclosed opening closing (part :: parts) cs ∧ opening :: s = cs ++ rest := by
  obtain ⟨bs, hbs, rfl⟩ := hpart
  obtain ⟨ds, hds, rfl⟩ := h
  exact ⟨_, .cons hbs hds, by simp⟩

end Rows

theorem eq_of_literal {word : List Char} (h : literal word s = .ok rest) : s = word ++ rest := by
  induction word generalizing s with
  | nil =>
    rw [literal, Except.ok.injEq] at h
    exact h
  | cons w word ih =>
    cases s with
    | nil => cases h
    | cons c s =>
      rw [literal] at h
      split at h
      · next hc => rw [hc, ih h, List.cons_append]
      · cases h

/-! ## Strings -/

section Strings

variable {c : Char} {r : Except ReadError (List Char × List Char)}

theorem consRead_eq_ok_iff :
    consRead c r = .ok (t, rest) ↔ ∃ u, r = .ok (u, rest) ∧ t = c :: u := by
  cases r with
  | error e => simp [consRead, Except.map]
  | ok p =>
    obtain ⟨u, rest'⟩ := p
    simp only [consRead, Except.map, Except.ok.injEq, Prod.mk.injEq]
    constructor
    · rintro ⟨rfl, rfl⟩
      exact ⟨u, ⟨rfl, rfl⟩, rfl⟩
    · rintro ⟨_, ⟨rfl, rfl⟩, rfl⟩
      exact ⟨rfl, rfl⟩

/-- A character before a string is read as the first one of it, however it is spelled. -/
theorem exists_spelling_cons {cs : List Char} (hc : CharSpelling c cs)
    (ih : ∀ {u}, stringBody s = .ok (u, rest) → ∃ ds, StringSpelling u ds ∧ s = ds ++ '"' :: rest)
    (h : consRead c (stringBody s) = .ok (t, rest)) :
    ∃ ds, StringSpelling t ds ∧ cs ++ s = ds ++ '"' :: rest := by
  obtain ⟨u, hu, rfl⟩ := consRead_eq_ok_iff.1 h
  obtain ⟨ds, hds, hs⟩ := ih hu
  exact ⟨cs ++ ds, .cons hc hds, by rw [hs, List.append_assoc]⟩

theorem ne_backslash (hend : c = '\\' → s = [] → False)
    (hmore : ∀ d u, c = '\\' → s = d :: u → False) : c ≠ '\\' := by
  intro hc
  cases s with
  | nil => exact hend hc rfl
  | cons d u => exact hmore d u hc rfl

/-- A string that is read is spelled up to its closing quote. -/
theorem exists_of_stringBody (h : stringBody s = .ok (t, rest)) :
    ∃ cs, StringSpelling t cs ∧ s = cs ++ '"' :: rest := by
  -- The closing quote, a surrogate pair, any other escape with digits, an escape of one character,
  -- and a character that stands for itself; in all other cases the text is refused.
  fun_induction stringBody s generalizing t with
  | case2 s =>
    cases h
    exact ⟨[], .nil, rfl⟩
  | case7 a b c d n hex hlow hhigh e f g i u m hex' hlow' ih =>
    exact exists_spelling_cons (.pair hex hex' hhigh hlow') ih h
  | case10 a b c d s n hex hlow hhigh ih =>
    exact exists_spelling_cons
      (.unit hex (Bool.eq_false_iff.2 hlow) (Bool.eq_false_iff.2 hhigh)) ih h
  | case12 c s _ _ e hescape ih => exact exists_spelling_cons (.short hescape) ih h
  | case15 c s hquote hend _ _ hmore hcontrol ih =>
    exact exists_spelling_cons
      (.plain hquote (ne_backslash hend hmore) (Bool.eq_false_iff.2 hcontrol)) ih h
  | _ => cases h

/-- A string that is passed over is well formed up to its closing quote. -/
theorem exists_of_skipString (h : skipString s = .ok rest) :
    ∃ cs, StringText cs ∧ s = cs ++ '"' :: rest := by
  -- The closing quote, an escape with digits, one of one character, and a plain character.
  fun_induction skipString s with
  | case2 s =>
    cases h
    exact ⟨[], .nil, rfl⟩
  | case5 a b c d s n hex ih =>
    obtain ⟨cs, hcs, rfl⟩ := ih h
    exact ⟨_, .cons (.unit (by rw [hex]; rfl)) hcs, rfl⟩
  | case7 c s _ _ e hescape ih =>
    obtain ⟨cs, hcs, rfl⟩ := ih h
    exact ⟨_, .cons (.short (by rw [hescape]; rfl)) hcs, rfl⟩
  | case10 c s hquote hend _ _ hmore hcontrol ih =>
    obtain ⟨cs, hcs, rfl⟩ := ih h
    exact ⟨_, .cons (.plain hquote (ne_backslash hend hmore) (Bool.eq_false_iff.2 hcontrol)) hcs,
      rfl⟩
  | _ => cases h

end Strings

/-! ## Numbers -/

section Numbers

variable {ds : List Char}

theorem eq_of_digits (h : digits s = (ds, t)) :
    s = ds ++ t ∧ ∀ c ∈ ds, Text.isDigit c = true := by
  cases h
  exact ⟨List.takeWhile_append_dropWhile.symm, fun c hc => List.mem_takeWhile_imp hc⟩

theorem eq_of_wholePart (h : wholePart s = .ok (ds, rest)) : WholeText ds ∧ s = ds ++ rest := by
  unfold wholePart at h
  split at h
  · cases h
  · cases h
  · next ds' t' hempty hzero hdigits =>
    cases h
    obtain ⟨hs, hall⟩ := eq_of_digits hdigits
    refine ⟨?_, hs⟩
    cases ds with
    | nil => exact (hempty rfl).elim
    | cons c ds =>
      by_cases hc : c = '0'
      · subst hc
        cases ds with
        | nil => exact .zero
        | cons d ds => exact (hzero d ds rfl).elim
      · exact .digits hc ⟨List.cons_ne_nil _ _, hall⟩

theorem exists_of_fractionPart {fraction : Option (List Char)}
    (h : fractionPart s = .ok (fraction, rest)) : ∃ fs, FractionText fs ∧ s = fs ++ rest ∧
      (fraction = none → fs = []) := by
  unfold fractionPart at h
  split at h
  · split at h
    · cases h
    · next ds' t' hempty hdigits =>
      cases h
      obtain ⟨rfl, hall⟩ := eq_of_digits hdigits
      exact ⟨_, .present ⟨hempty, hall⟩, rfl, nofun⟩
  · cases h
    exact ⟨[], .absent, rfl, fun _ => rfl⟩

theorem exists_of_exponentSign {isNegative : Bool} (h : exponentSign s = (isNegative, t)) :
    ∃ sign, (sign = [] ∨ sign = ['+'] ∨ sign = ['-']) ∧ s = sign ++ t := by
  unfold exponentSign at h
  split at h
  · cases h
    exact ⟨['+'], .inr (.inl rfl), rfl⟩
  · cases h
    exact ⟨['-'], .inr (.inr rfl), rfl⟩
  · cases h
    exact ⟨[], .inl rfl, rfl⟩

theorem exists_of_exponentPart {exponent : Option (Bool × List Char)}
    (h : exponentPart s = .ok (exponent, rest)) : ∃ es, ExponentText es ∧ s = es ++ rest ∧
      (exponent = none → es = []) := by
  unfold exponentPart at h
  split at h
  · next c s =>
    split at h
    · next hmark =>
      rcases hsign : exponentSign s with ⟨isNegative, t⟩
      simp only [hsign] at h
      split at h
      · cases h
      · next ds' t' hempty hdigits =>
        cases h
        obtain ⟨sign, hsigned, rfl⟩ := exists_of_exponentSign hsign
        obtain ⟨rfl, hall⟩ := eq_of_digits hdigits
        exact ⟨_, .present hmark hsigned ⟨hempty, hall⟩, by simp, nofun⟩
    · cases h
      exact ⟨[], .absent, rfl, fun _ => rfl⟩
  · cases h
    exact ⟨[], .absent, rfl, fun _ => rfl⟩

/-- A number that is passed over is well formed. -/
theorem exists_of_skipNumber (h : skipNumber s = .ok rest) :
    ∃ cs, NumberText cs ∧ s = cs ++ rest := by
  unfold skipNumber at h
  dsimp only at h
  split at h
  · next rest' hparts =>
    cases h
    simp only [Except.bind_eq_ok_iff, Except.pure_eq_ok_iff] at hparts
    obtain ⟨⟨ds, t⟩, hwhole, ⟨fraction, u⟩, hfraction, ⟨exponent, v⟩, hexponent, rfl⟩ := hparts
    obtain ⟨hds, rfl⟩ := eq_of_wholePart hwhole
    obtain ⟨fs, hfs, rfl, -⟩ := exists_of_fractionPart hfraction
    obtain ⟨es, hes, rfl, -⟩ := exists_of_exponentPart hexponent
    exact ⟨_, .mk hds hfs hes, by simp⟩
  · cases h

theorem WholeText.toDigits (h : WholeText ds) :
    Nat.toDigits 10 (Text.digitsValue ds) = ds := by
  cases h with
  | zero => rfl
  | digits ne_zero digits => exact Text.toDigits_digitsValue ne_zero digits.digits

/-- Only digits without a sign, a fraction or an exponent are a natural number. -/
theorem eq_of_numberOf {isNegative : Bool} {fraction : Option (List Char)}
    {exponent : Option (Bool × List Char)} {n : Nat}
    (h : numberOf isNegative ds fraction exponent = .ok (.natural n)) :
    isNegative = false ∧ fraction = none ∧ exponent = none ∧ Text.digitsValue ds = n := by
  unfold numberOf at h
  dsimp only at h
  split at h
  · next hinteger =>
    obtain ⟨hparts, hnegative, -⟩ := hinteger
    rw [Bool.and_eq_true, Option.isNone_iff_eq_none, Option.isNone_iff_eq_none] at hparts
    cases h
    exact ⟨hnegative, hparts.1, hparts.2, rfl⟩
  · split at h
    · cases h
    · obtain ⟨value, -, hvalue⟩ := Except.map_eq_ok_iff.1 h
      cases hvalue

theorem eq_of_unsignedNumber {isNegative : Bool} {n : Nat}
    (h : unsignedNumber isNegative s = .ok (.natural n, rest)) :
    isNegative = false ∧ s = Nat.toDigits 10 n ++ rest := by
  simp only [unsignedNumber, Except.bind_eq_ok_iff, Except.pure_eq_ok_iff] at h
  obtain ⟨⟨ds, t⟩, hwhole, ⟨fraction, u⟩, hfraction, ⟨exponent, v⟩, hexponent, number, hnumber,
    heq⟩ := h
  cases heq
  obtain ⟨hnegative, rfl, rfl, rfl⟩ := eq_of_numberOf hnumber
  obtain ⟨hds, rfl⟩ := eq_of_wholePart hwhole
  obtain ⟨fs, -, rfl, hfs⟩ := exists_of_fractionPart hfraction
  obtain ⟨es, -, rfl, hes⟩ := exists_of_exponentPart hexponent
  rw [hfs rfl, hes rfl, hds.toDigits]
  exact ⟨hnegative, rfl⟩

/-- A natural number stands in a text as its digits and nothing else. -/
theorem eq_of_number {n : Nat} (h : number s = .ok (.natural n, rest)) :
    s = Nat.toDigits 10 n ++ rest := by
  unfold number at h
  split at h
  · exact absurd (eq_of_unsignedNumber h).1 (by decide)
  · exact (eq_of_unsignedNumber h).2

end Numbers

end Observation.Json

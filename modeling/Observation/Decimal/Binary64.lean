/-!
# Binary floating point of 64 bits

The non-negative finite values `mantissa · 2 ^ exponent` of the format, handled exactly: a
fraction is rounded to the nearest value, and of two equally near ones to the one with the even
mantissa.

* `roundHalfEven` - the integer nearest to a quotient.
* `Binary64.ofRatio?` - the value nearest to a fraction, unless it is too large.
* `Binary64.ofScientific?` - the value of a number written with a power of ten.
-/

namespace Observation.Decimal

/-- A power of two. -/
def twoTo (k : Nat) : Nat :=
  Nat.pow 2 k

/-- A power of ten. -/
def tenTo (k : Nat) : Nat :=
  Nat.pow 10 k

/-- The integer nearest to `n / d`; a half goes to the even neighbour. -/
def roundHalfEven (n d : Nat) : Nat :=
  let q := n / d
  let r := n % d
  if 2 * r < d then q
  else if 2 * r = d ∧ q % 2 = 0 then q
  else q + 1

/-- The value `mantissa · 2 ^ exponent`. -/
structure Binary64 where
  mantissa : Nat
  exponent : Int
  deriving DecidableEq, Repr

namespace Binary64

/-- The smallest exponent. -/
def minExponent : Int := -1074

/-- The largest exponent. -/
def maxExponent : Int := 971

/-- Zero. -/
def zero : Binary64 := ⟨0, minExponent⟩

/-- The value as a numerator over a denominator. -/
def ratio (x : Binary64) : Nat × Nat :=
  (x.mantissa * twoTo x.exponent.toNat, twoTo (-x.exponent).toNat)

/-- The exponent at which `n / d` has a mantissa of 53 bits, or the smallest exponent. -/
def exponentOf (n d : Nat) : Int :=
  let e : Int := (Nat.log2 n : Int) - Nat.log2 d - 52
  let e := if n * twoTo (-e).toNat < twoTo 52 * (d * twoTo e.toNat) then e - 1 else e
  max e minExponent

/-- The value nearest to `n / d`; none if it would lie beyond the largest one. -/
def ofRatio? (n d : Nat) : Option Binary64 :=
  if n = 0 then some zero
  else
    let e := exponentOf n d
    let m := roundHalfEven (n * twoTo (-e).toNat) (d * twoTo e.toNat)
    let x : Binary64 := if m = twoTo 53 then ⟨twoTo 52, e + 1⟩ else ⟨m, e⟩
    if x.exponent ≤ maxExponent then some x else none

/-- The value nearest to the product of two values. -/
def mul? (x y : Binary64) : Option Binary64 :=
  ofRatio? (x.ratio.1 * y.ratio.1) (x.ratio.2 * y.ratio.2)

/-- The value nearest to the quotient of two values. -/
def div? (x y : Binary64) : Option Binary64 :=
  ofRatio? (x.ratio.1 * y.ratio.2) (x.ratio.2 * y.ratio.1)

/-- The value nearest to a power of ten. -/
def powerOfTen? (k : Nat) : Option Binary64 :=
  ofRatio? (tenTo k) 1

/-- Divides `rounds` times by `10 ^ 308`, unless the value is zero before, and then by
`10 ^ k`. -/
def scaleDown? (x : Binary64) (k : Nat) : Nat → Option Binary64
  | 0 => do x.div? (← powerOfTen? k)
  | rounds + 1 =>
    if x.mantissa = 0 then some x
    else do (← x.div? (← powerOfTen? 308)).scaleDown? k rounds

/-- How often `10 ^ 308` is divided out of `10 ^ k` before a power of at most 308 is left. -/
def rounds (k : Nat) : Nat :=
  (k - 1) / 308

/-- The power of ten that is left then. -/
def lastPower (k : Nat) : Nat :=
  k - 308 * rounds k

/-- The value of `n · 10 ^ k`, rounded once for `n` and once for every scaling by a power of
ten; none if it is too large. -/
def ofScientific? (n : Nat) (k : Int) : Option Binary64 := do
  let x ← ofRatio? n 1
  if k < 0 then x.scaleDown? (lastPower k.natAbs) (rounds k.natAbs)
  else if x.mantissa = 0 then return x
  else if k ≤ 308 then x.mul? (← powerOfTen? k.toNat)
  else none

end Binary64

end Observation.Decimal

import Observation.Decimal.Binary64

/-!
# The fewest digits that read back

A value of the binary format is written with the fewest decimal digits that lie nearer to it than
to any other value.

* `Binary64.interval` - the numbers that round to a value.
* `Binary64.shortest` - the fewest digits, and the power of ten they are to be multiplied by.
* `Binary64.text` - positional between `0.00001` and `10 ^ 16`, with an exponent elsewhere.
-/

namespace Observation.Decimal

namespace Binary64

/-- The value and the ends of the interval that rounds to it, in units of a quarter of its last
place: below, itself, above. -/
def interval (x : Binary64) : Nat × Nat × Nat :=
  let m := 4 * x.mantissa
  let below := if x.mantissa = twoTo 52 ∧ minExponent < x.exponent then 1 else 2
  (m - below, m, m + 2)

/-- Whether `d · 10 ^ k` rounds to the value; the ends count if the mantissa is even. -/
def roundsTo (x : Binary64) (d : Nat) (k : Int) : Bool :=
  let e := x.exponent - 2
  let scale (n : Nat) : Nat := n * twoTo e.toNat * tenTo (-k).toNat
  let n := d * tenTo k.toNat * twoTo (-e).toNat
  let (low, _, high) := x.interval
  if x.mantissa % 2 = 0 then scale low ≤ n && n ≤ scale high
  else scale low < n && n < scale high

/-- The power of ten of the first digit of `n / d`, for `n / d` between `10 ^ -400` and
`10 ^ 400`. -/
def leadingPower (n d : Nat) : Int :=
  if d ≤ n then ((Nat.toDigits 10 (n / d)).length : Int) - 1
  else
    match (List.range 400).find? fun j => d ≤ n * tenTo j with
    | some j => -(j : Int)
    | none => 0

/-- The nearer of the two neighbours of the value that have `count` digits, among those that
round to it; of two equally near ones the one with the even last digit. -/
def withDigits? (x : Binary64) (count : Nat) : Option (Nat × Int) :=
  let (n, d) := x.ratio
  let k := leadingPower n d - (count : Int) + 1
  let num := n * tenTo (-k).toNat
  let den := d * tenTo k.toNat
  let low := num / den
  let first := roundHalfEven num den
  let second := if first = low then low + 1 else low
  if x.roundsTo first k then some (first, k)
  else if x.roundsTo second k then some (second, k)
  else none

/-- Drops the zeros at the end of a number, and counts them. -/
def dropZeros (fuel n : Nat) (k : Int) : Nat × Int :=
  match fuel with
  | 0 => (n, k)
  | fuel + 1 => if n ≠ 0 ∧ n % 10 = 0 then dropZeros fuel (n / 10) (k + 1) else (n, k)

/-- The fewest digits that round to the value, and their power of ten; 17 are always enough. -/
def shortest (x : Binary64) : Nat × Int :=
  if x.mantissa = 0 then (0, 0)
  else
    match (List.range 17).findSome? fun i => x.withDigits? (i + 1) with
    | some (n, k) => dropZeros 18 n k
    | none => (0, 0)

/-- The digits with a point in them or zeros around them, or with an exponent. -/
def text (x : Binary64) : String :=
  let (n, k) := x.shortest
  let digits := Nat.toDigits 10 n
  let point : Int := digits.length + k
  String.ofList <|
    if n = 0 then ['0', '.', '0']
    else if 0 ≤ k ∧ point ≤ 16 then digits ++ List.replicate k.toNat '0' ++ ['.', '0']
    else if 0 < point ∧ point ≤ 16 then
      digits.take point.toNat ++ '.' :: digits.drop point.toNat
    else if -5 < point ∧ point ≤ 0 then
      ['0', '.'] ++ List.replicate (-point).toNat '0' ++ digits
    else
      let fraction := if digits.length = 1 then [] else '.' :: digits.drop 1
      let sign := if point - 1 < 0 then '-' else '+'
      digits.take 1 ++ fraction ++ 'e' :: sign :: Nat.toDigits 10 (point - 1).natAbs

end Binary64

end Observation.Decimal

/-!
# Digits

* `isDigit` - the ASCII digits.
* `digitsValue` - the number that a row of digits stands for.
* `readUnsigned` - a number with an optional plus sign.
* `isNumber` - the written forms of decimal fractions.
* `hexValue?` - what a hexadecimal digit stands for.
-/

namespace Observation.Text

/-- Whether a character is one of `0` to `9`. -/
def isDigit (c : Char) : Bool :=
  '0' ≤ c && c ≤ '9'

/-- What a digit stands for. -/
def digitValue (c : Char) : Nat :=
  c.toNat - '0'.toNat

/-- The number that a row of digits stands for, its most significant digit first. -/
def digitsValue (digits : List Char) : Nat :=
  digits.foldl (fun n c => n * 10 + digitValue c) 0

/-- Reads digits, at least one of them and nothing else. -/
def readDigits (cs : List Char) : Option Nat :=
  if cs ≠ [] ∧ cs.all isDigit then some (digitsValue cs) else none

/-- Reads digits, after a plus sign or without one. -/
def readUnsigned : List Char → Option Nat
  | '+' :: cs => readDigits cs
  | cs => readDigits cs

/-- What follows a sign, or all if there is none. -/
def unsigned : List Char → List Char
  | '+' :: cs => cs
  | '-' :: cs => cs
  | cs => cs

/-- Whether a text is an exponent of ten with its mark, or empty. -/
def isExponent : List Char → Bool
  | [] => true
  | c :: cs => (c == 'e' || c == 'E') && (readDigits (unsigned cs)).isSome

/-- The words that count as numbers, in any case. -/
def numberWords : List String :=
  ["inf", "infinity", "nan"]

/-- Whether a text is a decimal fraction: digits, of which a point may separate some, and perhaps
an exponent, all after a sign or without one. -/
def isNumber (cs : List Char) : Bool :=
  let body := unsigned cs
  let whole := body.takeWhile isDigit
  let (fraction, rest) :=
    match body.dropWhile isDigit with
    | '.' :: rest => (rest.takeWhile isDigit, rest.dropWhile isDigit)
    | rest => ([], rest)
  numberWords.contains (String.ofList body).toLower
    || (whole ++ fraction != [] && isExponent rest)

/-- What a hexadecimal digit stands for, in either case. -/
def hexValue? (c : Char) : Option Nat :=
  if '0' ≤ c ∧ c ≤ '9' then some (c.toNat - '0'.toNat)
  else if 'a' ≤ c ∧ c ≤ 'f' then some (c.toNat - 'a'.toNat + 10)
  else if 'A' ≤ c ∧ c ≤ 'F' then some (c.toNat - 'A'.toNat + 10)
  else none

end Observation.Text

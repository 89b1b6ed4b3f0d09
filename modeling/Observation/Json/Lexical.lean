import Observation.Json.Error
import Observation.Text.Digits

/-!
# Blanks, literals, strings and numbers of JSON

Each function takes the characters that are left, and gives what it read together with the
characters after it.

* `Reader` - a function of that kind.
* `skipBlanks` - drops the four blanks of JSON.
* `literal` - the rest of `null`, `true` and `false`.
* `stringBody` - a string after its opening quote, escapes decoded.
* `number` - a number.
-/

namespace Observation.Json

/-- Reads a value off the front of a text, or refuses the text. -/
abbrev Reader (α : Type) : Type := StateT (List Char) (Except ReadError) α

/-- Whether a character is a blank between the parts of a document. -/
def isBlank (c : Char) : Bool :=
  c == ' ' || c == '\n' || c == '\t' || c == '\r'

/-- The text from its first character that is no blank. -/
def skipBlanks (s : List Char) : List Char :=
  s.dropWhile isBlank

/-- Reads the rest of a literal whose first character has been seen. -/
def literal : List Char → List Char → Except ReadError (List Char)
  | [], s => .ok s
  | _ :: _, [] => .error .eofInValue
  | w :: word, c :: s => if c = w then literal word s else .error .expectedLiteral

/-! ## Strings -/

/-- The number of four hexadecimal digits. -/
def hexUnit? (a b c d : Char) : Option Nat := do
  return (((← Text.hexValue? a) * 16 + (← Text.hexValue? b)) * 16 + (← Text.hexValue? c)) * 16
    + (← Text.hexValue? d)

/-- Why the text after `\u` holds no four hexadecimal digits: it ends within the next four bytes
or it holds something else. -/
def hexFault (s : List Char) : ReadError :=
  if (String.ofList s).utf8ByteSize < 4 then .eofInString else .invalidEscape

/-- What an escape of one character stands for. -/
def shortEscape? : Char → Option Char
  | '"' => some '"'
  | '\\' => some '\\'
  | '/' => some '/'
  | 'b' => some '\x08'
  | 'f' => some '\x0c'
  | 'n' => some '\n'
  | 'r' => some '\r'
  | 't' => some '\t'
  | _ => none

/-- The first half of a surrogate pair. -/
def isHighSurrogate (n : Nat) : Bool :=
  0xd800 ≤ n && n ≤ 0xdbff

/-- The second half of a surrogate pair. -/
def isLowSurrogate (n : Nat) : Bool :=
  0xdc00 ≤ n && n ≤ 0xdfff

/-- The character of a surrogate pair. -/
def ofSurrogates (high low : Nat) : Char :=
  Char.ofNat (0x10000 + (high - 0xd800) * 0x400 + (low - 0xdc00))

/-- Whether a character must be escaped in a string. -/
def isControl (c : Char) : Bool :=
  c.toNat < 0x20

/-- Why no second half of a surrogate pair follows. -/
def pairFault : List Char → ReadError
  | [] => .eofInString
  | '\\' :: [] => .eofInString
  | '\\' :: 'u' :: s => hexFault s
  | _ => .brokenSurrogatePair

/-- Adds a character to the front of what was read. -/
def consRead (c : Char) (r : Except ReadError (List Char × List Char)) :
    Except ReadError (List Char × List Char) :=
  r.map fun p => (c :: p.1, p.2)

/-- Reads a string after its opening quote: its characters, and the text after its closing
quote. -/
def stringBody : List Char → Except ReadError (List Char × List Char)
  | [] => .error .eofInString
  | '"' :: s => .ok ([], s)
  | '\\' :: [] => .error .eofInString
  | '\\' :: 'u' :: a :: b :: c :: d :: s =>
    match hexUnit? a b c d with
    | none => .error (hexFault (a :: b :: c :: d :: s))
    | some n =>
      if isLowSurrogate n then .error .loneSurrogate
      else if isHighSurrogate n then
        match s with
        | '\\' :: 'u' :: e :: f :: g :: h :: t =>
          match hexUnit? e f g h with
          | none => .error (hexFault (e :: f :: g :: h :: t))
          | some m =>
            if isLowSurrogate m then consRead (ofSurrogates n m) (stringBody t)
            else .error .loneSurrogate
        | t => .error (pairFault t)
      else consRead (Char.ofNat n) (stringBody s)
  | '\\' :: 'u' :: s => .error (hexFault s)
  | '\\' :: c :: s =>
    match shortEscape? c with
    | some e => consRead e (stringBody s)
    | none => .error .invalidEscape
  | c :: s =>
    if isControl c then .error .controlCharacter else consRead c (stringBody s)

/-- Passes over a string after its opening quote.  Escapes need only be well formed: surrogates
may stand alone. -/
def skipString : List Char → Except ReadError (List Char)
  | [] => .error .eofInString
  | '"' :: s => .ok s
  | '\\' :: [] => .error .eofInString
  | '\\' :: 'u' :: a :: b :: c :: d :: s =>
    match hexUnit? a b c d with
    | none => .error (hexFault (a :: b :: c :: d :: s))
    | some _ => skipString s
  | '\\' :: 'u' :: s => .error (hexFault s)
  | '\\' :: c :: s =>
    match shortEscape? c with
    | some _ => skipString s
    | none => .error .invalidEscape
  | c :: s => if isControl c then .error .controlCharacter else skipString s

/-! ## Numbers -/

/-- The largest number of 64 bits. -/
def maxWord : Nat := UInt64.size - 1

/-- The largest magnitude of a negative number of 64 bits. -/
def maxNegative : Nat := 0x8000000000000000

/-- A significand of at most 64 bits and a power of ten. -/
structure Scientific where
  significand : Nat
  power : Int
  deriving DecidableEq, Repr

/-- Takes the digits before the point: the first one that no longer fits into 64 bits, and all
after it, only raise the power of ten. -/
def Scientific.takeWhole (x : Scientific) : List Char → Scientific
  | [] => x
  | c :: cs =>
    let n := x.significand * 10 + Text.digitValue c
    if x.power = 0 ∧ n ≤ maxWord then takeWhole ⟨n, 0⟩ cs
    else takeWhole ⟨x.significand, x.power + 1⟩ cs

/-- Takes the digits after the point: the first one that no longer fits into 64 bits, and all
after it, are dropped. -/
def Scientific.takeFraction (x : Scientific) : List Char → Scientific
  | [] => x
  | c :: cs =>
    let n := x.significand * 10 + Text.digitValue c
    if n ≤ maxWord then takeFraction ⟨n, x.power - 1⟩ cs else x

/-- The digits at the front of a text, and the text after them. -/
def digits (s : List Char) : List Char × List Char :=
  (s.takeWhile Text.isDigit, s.dropWhile Text.isDigit)

/-- The error for a missing digit: the end of the text, or something that is no digit. -/
def digitFault : List Char → ReadError
  | [] => .eofInValue
  | _ => .invalidNumber

/-- The digits before the point: a single zero, or digits of which the first is none. -/
def wholePart (s : List Char) : Except ReadError (List Char × List Char) :=
  match digits s with
  | ([], t) => .error (digitFault t)
  | ('0' :: _ :: _, _) => .error .invalidNumber
  | (ds, t) => .ok (ds, t)

/-- The digits after a point, if one comes next; at least one has to follow it. -/
def fractionPart : List Char → Except ReadError (Option (List Char) × List Char)
  | '.' :: s =>
    match digits s with
    | ([], t) => .error (digitFault t)
    | (ds, t) => .ok (some ds, t)
  | s => .ok (none, s)

/-- The sign of an exponent (whether it is negative), and the text after it. -/
def exponentSign : List Char → Bool × List Char
  | '+' :: s => (false, s)
  | '-' :: s => (true, s)
  | s => (false, s)

/-- The exponent, if one comes next: its sign and its digits. -/
def exponentPart : List Char → Except ReadError (Option (Bool × List Char) × List Char)
  | c :: s =>
    if c = 'e' ∨ c = 'E' then
      let (isNegative, s) := exponentSign s
      match digits s with
      | ([], t) => .error (digitFault t)
      | (ds, t) => .ok (some (isNegative, ds), t)
    else .ok (none, c :: s)
  | [] => .ok (none, [])

/-- The largest exponent that is taken at its value. -/
def maxExponent : Nat := 0x7fffffff

/-- The floating value of a number.  An exponent beyond `maxExponent` stands for zero if it is
negative or the significand is zero. -/
def floatingValue (x : Scientific) (exponent : Option (Bool × List Char)) :
    Except ReadError Decimal.Binary64 :=
  let scaled (k : Int) : Except ReadError Decimal.Binary64 :=
    match Decimal.Binary64.ofScientific? x.significand k with
    | some value => .ok value
    | none => .error .numberOutOfRange
  match exponent with
  | none => scaled x.power
  | some (isNegative, ds) =>
    let n := Text.digitsValue ds
    if maxExponent < n then
      if isNegative ∨ x.significand = 0 then .ok .zero else .error .numberOutOfRange
    else scaled (if isNegative then x.power - n else x.power + n)

/-- The number with these parts. -/
def numberOf (isNegative : Bool) (whole : List Char) (fraction : Option (List Char))
    (exponent : Option (Bool × List Char)) : Except ReadError Number :=
  let n := Text.digitsValue whole
  let isInteger := fraction.isNone && exponent.isNone
  if isInteger ∧ isNegative = false ∧ n ≤ maxWord then .ok (.natural n)
  else if isInteger ∧ isNegative = true ∧ 0 < n ∧ n ≤ maxNegative then .ok (.negative n)
  else
    let x := (Scientific.takeWhole ⟨0, 0⟩ whole).takeFraction (fraction.getD [])
    (floatingValue x exponent).map (.floating isNegative)

/-- Reads a number after its minus sign, or without one. -/
def unsignedNumber (isNegative : Bool) (s : List Char) :
    Except ReadError (Number × List Char) := do
  let (whole, s) ← wholePart s
  let (fraction, s) ← fractionPart s
  let (exponent, s) ← exponentPart s
  let n ← numberOf isNegative whole fraction exponent
  return (n, s)

/-- Passes over a number after its minus sign, or without one.  The end of the text counts as
something that is no digit. -/
def skipNumber (s : List Char) : Except ReadError (List Char) :=
  let parts : Except ReadError (List Char) := do
    let (_, s) ← wholePart s
    let (_, s) ← fractionPart s
    let (_, s) ← exponentPart s
    return s
  match parts with
  | .ok rest => .ok rest
  | .error _ => .error .invalidNumber

end Observation.Json

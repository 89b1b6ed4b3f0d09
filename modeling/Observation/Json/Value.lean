/-!
# Writing JSON

* `Value` - what is written: numbers, truth values, texts, lists and objects with ordered members.
* `Value.compact` - without any blank.
* `Value.pretty` - each item and member on a line of its own, two spaces deeper than its list or
  object.
-/

namespace Observation.Json

/-- A value to be written. -/
inductive Value where
  | number (n : Int)
  | boolean (b : Bool)
  | text (s : String)
  | list (items : List Value)
  | object (members : List (String × Value))
  deriving Repr

/-- One character of a string: quotes, backslashes and control characters are escaped, and all
others stand for themselves. -/
def escapeChar (c : Char) : List Char :=
  if c = '"' then ['\\', '"']
  else if c = '\\' then ['\\', '\\']
  else if c = '\x08' then ['\\', 'b']
  else if c = '\x0c' then ['\\', 'f']
  else if c = '\n' then ['\\', 'n']
  else if c = '\r' then ['\\', 'r']
  else if c = '\t' then ['\\', 't']
  else if c.toNat < 0x20 then
    ['\\', 'u', '0', '0', Nat.digitChar (c.toNat / 16), Nat.digitChar (c.toNat % 16)]
  else [c]

/-- A string in quotes. -/
def stringChars (s : String) : List Char :=
  '"' :: s.toList.flatMap escapeChar ++ ['"']

/-- A whole number in decimal digits. -/
def intChars (n : Int) : List Char :=
  if n < 0 then '-' :: Nat.toDigits 10 n.natAbs else Nat.toDigits 10 n.natAbs

namespace Value

mutual

/-- The characters of a value written without blanks. -/
def compactChars : Value → List Char
  | number n => intChars n
  | boolean b => if b then ['t', 'r', 'u', 'e'] else ['f', 'a', 'l', 's', 'e']
  | text s => stringChars s
  | list [] => ['[', ']']
  | list (v :: vs) => '[' :: compactChars v ++ compactItems vs ++ [']']
  | object [] => ['{', '}']
  | object ((k, v) :: ms) =>
    '{' :: stringChars k ++ ':' :: compactChars v ++ compactMembers ms ++ ['}']

/-- The characters of the items after the first one. -/
def compactItems : List Value → List Char
  | [] => []
  | v :: vs => ',' :: compactChars v ++ compactItems vs

/-- The characters of the members after the first one. -/
def compactMembers : List (String × Value) → List Char
  | [] => []
  | (k, v) :: ms => ',' :: stringChars k ++ ':' :: compactChars v ++ compactMembers ms

end

/-- A line break, and the blanks before a line at some depth. -/
def newline (depth : Nat) : List Char :=
  '\n' :: List.replicate (2 * depth) ' '

mutual

/-- The characters of a value written over several lines, its own first line at `depth`. -/
def prettyChars (depth : Nat) : Value → List Char
  | list (v :: vs) =>
    '[' :: newline (depth + 1) ++ prettyChars (depth + 1) v ++ prettyItems (depth + 1) vs
      ++ newline depth ++ [']']
  | object ((k, v) :: ms) =>
    '{' :: newline (depth + 1) ++ stringChars k ++ ':' :: ' ' :: prettyChars (depth + 1) v
      ++ prettyMembers (depth + 1) ms ++ newline depth ++ ['}']
  | list [] => ['[', ']']
  | object [] => ['{', '}']
  | number n => intChars n
  | boolean b => if b then ['t', 'r', 'u', 'e'] else ['f', 'a', 'l', 's', 'e']
  | text s => stringChars s

/-- The characters of the items after the first one, each on a line at `depth`. -/
def prettyItems (depth : Nat) : List Value → List Char
  | [] => []
  | v :: vs => ',' :: newline depth ++ prettyChars depth v ++ prettyItems depth vs

/-- The characters of the members after the first one, each on a line at `depth`. -/
def prettyMembers (depth : Nat) : List (String × Value) → List Char
  | [] => []
  | (k, v) :: ms =>
    ',' :: newline depth ++ stringChars k ++ ':' :: ' ' :: prettyChars depth v
      ++ prettyMembers depth ms

end

/-- The value written without blanks. -/
def compact (v : Value) : String :=
  String.ofList v.compactChars

/-- The value written over several lines. -/
def pretty (v : Value) : String :=
  String.ofList (v.prettyChars 0)

/-- A list of texts. -/
def texts (ts : List String) : Value :=
  list (ts.map text)

end Value

end Observation.Json

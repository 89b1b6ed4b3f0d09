import Observation.Text.Unprintable

/-!
# Quoted text

The spelling of values in diagnostic details: text stands between double quotes, a character
between single quotes, and whatever would not show on the page is spelled out.

* `Text.quote`, `Text.quoteChar` - a text or a character in quotes.
* `Text.record` - a tag with named parts between braces.
* `Text.lowerHex` - lower-case hexadecimal digits.
* `Text.disarm` - a text without the control characters that steer a terminal.
-/

namespace Observation.Text

/-- A number in lower-case hexadecimal digits. -/
def lowerHex (n : Nat) : String :=
  String.ofList (Nat.toDigits 16 n)

/-- One character as it stands between the quotes `delimiter`. -/
def spellQuoted (delimiter c : Char) : List Char :=
  if c = '\x00' then ['\\', '0']
  else if c = '\t' then ['\\', 't']
  else if c = '\r' then ['\\', 'r']
  else if c = '\n' then ['\\', 'n']
  else if c = '\\' || c = delimiter then ['\\', c]
  else if isUnprintable c then
    ['\\', 'u', '{'] ++ Nat.toDigits 16 c.toNat ++ ['}']
  else [c]

/-- A text between double quotes. -/
def quote (s : String) : String :=
  String.ofList ('"' :: s.toList.flatMap (spellQuoted '"') ++ ['"'])

/-- A character between single quotes. -/
def quoteChar (c : Char) : String :=
  String.ofList ('\'' :: spellQuoted '\'' c ++ ['\''])

/-- A tag, then its named parts between braces. -/
def record (tag : String) (parts : List (String × String)) : String :=
  tag ++ " \x7b " ++ String.intercalate ", " (parts.map fun p => p.1 ++ ": " ++ p.2) ++ " \x7d"

/-- A tag, then its single part between parentheses. -/
def wrapped (tag part : String) : String :=
  tag ++ "(" ++ part ++ ")"

/-- One character; if it can begin a command to a terminal, its number. -/
def disarmChar (c : Char) : List Char :=
  if c = '\x07' ∨ c = '\x08' ∨ c = '\x0c' then ['\\', 'x', '0'] ++ Nat.toDigits 16 c.toNat
  else if c = '\x1b' ∨ c = '\x7f' then ['\\', 'x'] ++ Nat.toDigits 16 c.toNat
  else if 0x80 ≤ c.toNat ∧ c.toNat ≤ 0x9f then
    ['\\', 'u', '{'] ++ Nat.toDigits 16 c.toNat ++ ['}']
  else [c]

/-- A text in which the bell, the backspace, the form feed, the escape, the delete character and
the second row of control characters are spelled by their numbers. -/
def disarm (s : String) : String :=
  String.ofList (s.toList.flatMap disarmChar)

end Observation.Text

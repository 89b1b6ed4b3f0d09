/-!
# Blank text

* `isBlank` - the characters of the Unicode property White_Space.
* `isBlankText` - a text of blank characters only; such a line holds no event.
* `trim` - a text without blanks at its ends.
-/

namespace Observation.Text

/-- First and last code point of each range of the property White_Space. -/
def blankRanges : List (Nat × Nat) := [
  (0x9, 0xd), (0x20, 0x20), (0x85, 0x85), (0xa0, 0xa0), (0x1680, 0x1680), (0x2000, 0x200a),
  (0x2028, 0x2029), (0x202f, 0x202f), (0x205f, 0x205f), (0x3000, 0x3000)]

/-- Whether a character is white space. -/
def isBlank (c : Char) : Bool :=
  blankRanges.any fun r => r.1 ≤ c.toNat && c.toNat ≤ r.2

/-- Whether a text holds nothing but white space; the empty text does. -/
def isBlankText (s : String) : Bool :=
  s.toList.all isBlank

/-- A text without white space at its ends. -/
def trim (cs : List Char) : List Char :=
  ((cs.dropWhile isBlank).reverse.dropWhile isBlank).reverse

end Observation.Text

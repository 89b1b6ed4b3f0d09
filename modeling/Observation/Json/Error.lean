import Observation.Decimal.Shortest
import Observation.Text.Quoted

/-!
# What a JSON reader refuses

* `Number` - a number as it is written: a natural number or a negative integer of one machine
  word, and everything else in binary floating point.
* `Found` - the kind of value that stood where another was wanted.
* `ReadError` - why a text was refused; `ReadError.message` says it in words, but not where.
-/

namespace Observation.Json

/-- A number in a text. -/
inductive Number where
  | natural (n : Nat)
  | negative (n : Nat)
  | floating (isNegative : Bool) (value : Decimal.Binary64)
  deriving DecidableEq, Repr

/-- The number in words. -/
def Number.describe : Number → String
  | natural n => "integer `" ++ toString n ++ "`"
  | negative n => "integer `-" ++ toString n ++ "`"
  | floating isNegative value =>
    "floating point `" ++ (if isNegative then "-" else "") ++ value.text ++ "`"

/-- What stood where another value was wanted. -/
inductive Found where
  | null
  | boolean (b : Bool)
  | number (n : Number)
  | text (s : String)
  | list
  | object
  | bareVariant
  deriving DecidableEq, Repr

/-- The value in words. -/
def Found.describe : Found → String
  | null => "null"
  | boolean b => "boolean `" ++ toString b ++ "`"
  | number n => n.describe
  | text s => "string " ++ Observation.Text.quote s
  | list => "sequence"
  | object => "map"
  | bareVariant => "unit variant"

/-- Why a text was refused, at the first place that decides it. -/
inductive ReadError where
  | eofInValue
  | eofInObject
  | eofInList
  | eofInString
  | expectedValue
  | expectedLiteral
  | expectedColon
  | expectedCommaOrBrace
  | expectedCommaOrBracket
  | keyMustBeString
  | trailingComma
  | trailingCharacters
  | invalidNumber
  | numberOutOfRange
  | invalidEscape
  | controlCharacter
  | loneSurrogate
  | brokenSurrogatePair
  | missingField (name : String)
  | duplicateField (name : String)
  | unknownVariant (name : String) (known : List String)
  | unwantedType (found : Found) (wanted : String)
  | unwantedValue (found : Found) (wanted : String)
  | unwantedLength (length : Nat) (wanted : String)
  | content (reason : String)
  deriving DecidableEq, Repr

/-- Known names in words: two are joined by "or", more are listed. -/
def knownNames : List String → String
  | [a, b] => "`" ++ a ++ "` or `" ++ b ++ "`"
  | names => "one of " ++ String.intercalate ", " (names.map fun n => "`" ++ n ++ "`")

/-- The refusal in words.  The line and the column of the place that decides it, which may follow
the reason where a refusal is shown, are no part of it. -/
def ReadError.message : ReadError → String
  | eofInValue => "EOF while parsing a value"
  | eofInObject => "EOF while parsing an object"
  | eofInList => "EOF while parsing a list"
  | eofInString => "EOF while parsing a string"
  | expectedValue => "expected value"
  | expectedLiteral => "expected ident"
  | expectedColon => "expected `:`"
  | expectedCommaOrBrace => "expected `,` or `\x7d`"
  | expectedCommaOrBracket => "expected `,` or `]`"
  | keyMustBeString => "key must be a string"
  | trailingComma => "trailing comma"
  | trailingCharacters => "trailing characters"
  | invalidNumber => "invalid number"
  | numberOutOfRange => "number out of range"
  | invalidEscape => "invalid escape"
  | controlCharacter => "control character (\\u0000-\\u001F) found while parsing a string"
  | loneSurrogate => "lone leading surrogate in hex escape"
  | brokenSurrogatePair => "unexpected end of hex escape"
  | missingField name => "missing field `" ++ name ++ "`"
  | duplicateField name => "duplicate field `" ++ name ++ "`"
  | unknownVariant name known =>
    "unknown variant `" ++ name ++ "`, expected " ++ knownNames known
  | unwantedType found wanted => "invalid type: " ++ found.describe ++ ", expected " ++ wanted
  | unwantedValue found wanted => "invalid value: " ++ found.describe ++ ", expected " ++ wanted
  | unwantedLength length wanted =>
    "invalid length " ++ toString length ++ ", expected " ++ wanted
  | content reason => reason

end Observation.Json

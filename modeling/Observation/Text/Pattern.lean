import Observation.Text.Digits

/-!
# Well-formed patterns

Regular expressions by their grammar only: which texts are patterns, and not what a pattern
matches.  The scan goes from left to right and counts the groups that are open.

* `isPattern` - whether a text is a pattern.
* `escaped?` - what follows a backslash.
* `groupHead?` - what follows the start of a group with a question mark.
* `classItems?` - a bracketed class of characters.

Shorthands for classes (a backslash and one of `d`, `s`, `w`, `p`), word boundaries,
back-references, look-around and counted repetition are no patterns here.  Flags are checked by
their names and not for their effect, and two groups of one name are let pass.
-/

namespace Observation.Text

/-- What an escape stands for: one character, or a place in the text. -/
inductive Escape where
  | character (c : Char)
  | place
  deriving DecidableEq, Repr

/-- The character whose number is spelled by `count` hexadecimal digits. -/
def hexCharacter? (count : Nat) (cs : List Char) : Option (Escape × List Char) := do
  let digits := cs.take count
  if digits.length < count then none
  let n ← digits.foldlM (fun n c => (hexValue? c).map (n * 16 + ·)) 0
  if n.isValidChar then some (.character (Char.ofNat n), cs.drop count) else none

/-- Reads what follows a backslash.  A sign of ASCII stands for itself, and a few letters have a
meaning of their own. -/
def escaped? : List Char → Option (Escape × List Char)
  | [] => none
  | 'x' :: cs => hexCharacter? 2 cs
  | 'u' :: cs => hexCharacter? 4 cs
  | 'U' :: cs => hexCharacter? 8 cs
  | 'a' :: cs => some (.character '\x07', cs)
  | 'f' :: cs => some (.character '\x0c', cs)
  | 't' :: cs => some (.character '\t', cs)
  | 'n' :: cs => some (.character '\n', cs)
  | 'r' :: cs => some (.character '\r', cs)
  | 'v' :: cs => some (.character '\x0b', cs)
  | 'A' :: cs => some (.place, cs)
  | 'z' :: cs => some (.place, cs)
  | c :: cs =>
    if c.isAlphanum || c == '<' || c == '>' || 0x80 ≤ c.toNat then none
    else some (.character c, cs)

/-! ## Classes -/

/-- The names of the classes of ASCII characters. -/
def classNames : List String :=
  ["alnum", "alpha", "ascii", "blank", "cntrl", "digit", "graph", "lower", "print", "punct",
    "space", "upper", "word", "xdigit"]

/-- Reads a class of ASCII characters after its opening bracket: its name between colons, perhaps
negated, and the closing bracket. -/
def namedClass? : List Char → Option (List Char)
  | ':' :: cs =>
    let cs := if cs.head? = some '^' then cs.tail else cs
    let name := cs.takeWhile (· != ':')
    match cs.dropWhile (· != ':') with
    | ':' :: ']' :: rest => if classNames.contains (String.ofList name) then some rest else none
    | _ => none
  | _ => none

/-- Passes over the signs at the start of a class that have no other meaning there. -/
def classHead (cs : List Char) : List Char :=
  let cs := if cs.head? = some '^' then cs.tail else cs
  match cs with
  | ']' :: rest => rest
  | _ => cs.dropWhile (· == '-')

/-- One character of a class, which may be escaped. -/
def classCharacter? : List Char → Option (Char × List Char)
  | [] => none
  | '\\' :: cs =>
    match escaped? cs with
    | some (.character c, rest) => some (c, rest)
    | _ => none
  | c :: cs => some (c, cs)

/-- One character of a class, or a range of characters in increasing order. -/
def classRange? (cs : List Char) : Option (List Char) := do
  let (low, rest) ← classCharacter? cs
  match rest with
  | '-' :: ']' :: _ => some rest
  | '-' :: '-' :: _ => some rest
  | '-' :: cs =>
    let (high, rest) ← classCharacter? cs
    if low ≤ high then some rest else none
  | _ => some rest

/-- Passes over the rest of a class, in which `nested` more classes are open, in at most `fuel`
steps. -/
def classItems? : (fuel nested : Nat) → List Char → Option (List Char)
  | 0, _, _ => none
  | _ + 1, _, [] => none
  | _ + 1, 0, ']' :: cs => some cs
  | fuel + 1, nested + 1, ']' :: cs => classItems? fuel nested cs
  | fuel + 1, nested, '[' :: cs =>
    match namedClass? cs with
    | some rest => classItems? fuel nested rest
    | none => classItems? fuel (nested + 1) (classHead cs)
  | fuel + 1, nested, '&' :: '&' :: cs => classItems? fuel nested cs
  | fuel + 1, nested, '-' :: '-' :: cs => classItems? fuel nested cs
  | fuel + 1, nested, '~' :: '~' :: cs => classItems? fuel nested cs
  | fuel + 1, nested, cs => do classItems? fuel nested (← classRange? cs)

/-! ## Groups -/

/-- Reads the name of a group up to its closing sign. -/
def groupName? (cs : List Char) : Option (List Char) :=
  let name := cs.takeWhile (· != '>')
  let starts (c : Char) : Bool := c.isAlpha || c == '_'
  let continues (c : Char) : Bool := c.isAlphanum || ['_', '.', '[', ']'].contains c
  match cs.dropWhile (· != '>') with
  | _ :: rest => if (name.head?.any starts) && name.all continues then some rest else none
  | [] => none

/-- Whether flags are given once each, and something follows the minus sign if there is one. -/
def areFlags (flags : List Char) : Bool :=
  flags.all (['i', 'm', 's', 'U', 'u', 'R', 'x', '-'].contains ·)
    && flags.eraseDups.length == flags.length && flags.getLast? != some '-'

/-- Reads what follows a bracket and a question mark: whether it opens a group, and the text after
it.  Flags alone open none. -/
def groupHead? : List Char → Option (Bool × List Char)
  | 'P' :: '<' :: cs => (groupName? cs).map (true, ·)
  | '<' :: cs => (groupName? cs).map (true, ·)
  | cs =>
    let ends (c : Char) : Bool := c == ':' || c == ')'
    let flags := cs.takeWhile (! ends ·)
    match cs.dropWhile (! ends ·) with
    | ':' :: rest => if areFlags flags then some (true, rest) else none
    | ')' :: rest => if flags ≠ [] ∧ areFlags flags then some (false, rest) else none
    | _ => none

/-! ## Patterns -/

/-- Whether the rest of a text completes a pattern in which `groups` groups are open, in at most
`fuel` steps; `repeatable` says whether something stands before it that can be repeated. -/
def isPatternFrom : (fuel groups : Nat) → (repeatable : Bool) → List Char → Bool
  | 0, _, _, _ => false
  | _ + 1, groups, _, [] => groups == 0
  | fuel + 1, groups, repeatable, c :: cs =>
    if c = '(' then
      match cs with
      | '?' :: rest =>
        match groupHead? rest with
        | some (true, rest) => isPatternFrom fuel (groups + 1) false rest
        | some (false, rest) => isPatternFrom fuel groups false rest
        | none => false
      | _ => isPatternFrom fuel (groups + 1) false cs
    else if c = ')' then 0 < groups && isPatternFrom fuel (groups - 1) true cs
    else if c = '|' then isPatternFrom fuel groups false cs
    else if c = '*' ∨ c = '+' ∨ c = '?' then repeatable && isPatternFrom fuel groups true cs
    else if c = '{' then false
    else if c = '[' then
      match classItems? (cs.length + 1) 0 (classHead cs) with
      | some rest => isPatternFrom fuel groups true rest
      | none => false
    else if c = '\\' then
      match escaped? cs with
      | some (_, rest) => isPatternFrom fuel groups true rest
      | none => false
    else isPatternFrom fuel groups true cs

/-- Whether a text is a pattern. -/
def isPattern (cs : List Char) : Bool :=
  isPatternFrom (cs.length + 1) 0 false cs

end Observation.Text

import Observation.Json.Lexical

/-!
# Passing over a value

Members under unknown names are passed over.  Their text is checked, but numbers may have any
size, surrogates may stand alone, and lists and objects may nest to any depth.

* `skipValue` - passes over one value; `skipValueFrom` counts down the steps that are left, and the
  length of the text is always enough of them.
-/

namespace Observation.Json

/-- Passes over the name of a member, its quotes and the colon after it. -/
def skipKey (s : List Char) : Except ReadError (List Char) :=
  match skipBlanks s with
  | [] => .error .eofInObject
  | '"' :: t => do
    match skipBlanks (← skipString t) with
    | [] => .error .eofInObject
    | ':' :: u => .ok u
    | _ => .error .expectedColon
  | _ => .error .keyMustBeString

mutual

/-- Passes over a value, in at most so many steps. -/
def skipValueFrom : Nat → List Char → Except ReadError (List Char)
  | 0, _ => .error .eofInValue
  | n + 1, s =>
    match skipBlanks s with
    | [] => .error .eofInValue
    | 'n' :: t => literal ['u', 'l', 'l'] t
    | 't' :: t => literal ['r', 'u', 'e'] t
    | 'f' :: t => literal ['a', 'l', 's', 'e'] t
    | '-' :: t => skipNumber t
    | '"' :: t => skipString t
    | '[' :: t =>
      match skipBlanks t with
      | [] => .error .eofInList
      | ']' :: u => .ok u
      | u => do skipItemsFrom n (← skipValueFrom n u)
    | '{' :: t =>
      match skipBlanks t with
      | [] => .error .eofInObject
      | '}' :: u => .ok u
      | u => do skipMembersFrom n (← skipValueFrom n (← skipKey u))
    | c :: t => if Text.isDigit c then skipNumber (c :: t) else .error .expectedValue

/-- Passes over the rest of a list after one of its items. -/
def skipItemsFrom : Nat → List Char → Except ReadError (List Char)
  | 0, _ => .error .eofInList
  | n + 1, s =>
    match skipBlanks s with
    | [] => .error .eofInList
    | ',' :: t => do skipItemsFrom n (← skipValueFrom n t)
    | ']' :: t => .ok t
    | _ => .error .expectedCommaOrBracket

/-- Passes over the rest of an object after one of its members. -/
def skipMembersFrom : Nat → List Char → Except ReadError (List Char)
  | 0, _ => .error .eofInObject
  | n + 1, s =>
    match skipBlanks s with
    | [] => .error .eofInObject
    | ',' :: t => do skipMembersFrom n (← skipValueFrom n (← skipKey t))
    | '}' :: t => .ok t
    | _ => .error .expectedCommaOrBrace

end

/-- Passes over a value. -/
def skipValue : Reader Unit := fun s => do
  return ((), ← skipValueFrom (s.length + 1) s)

end Observation.Json

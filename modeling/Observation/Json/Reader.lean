import Observation.Json.Skip

/-!
# Reading values of a wanted type

* `text`, `flag`, `word`, `optional`, `listOf` - values of simple types.
* `mapped` - a value that has to pass a check of its own.
* `tagged` - one of several named variants.
* `Field`, `record` - a record with named fields, as an object with the fields in any order or as
  a list with the fields in theirs.
* `document` - a whole text that holds one value.

Errors are those of the text read from left to right: a value is checked when it is reached, and
what follows the first fault is never looked at.
-/

namespace Observation.Json

/-- Refuses the text. -/
def refuse {α : Type} (e : ReadError) : Reader α :=
  fun _ => .error e

/-- A number that starts with a minus sign or a digit. -/
def number : List Char → Except ReadError (Number × List Char)
  | '-' :: s => unsignedNumber true s
  | s => unsignedNumber false s

/-- The error for the value at the front of a text, where another one was wanted: what that value
is, or the fault in it. -/
def unwanted (wanted : String) (s : List Char) : ReadError :=
  let found {α : Type} (read : Except ReadError α) (what : α → Found) : ReadError :=
    match read with
    | .ok a => .unwantedType (what a) wanted
    | .error e => e
  match s with
  | 'n' :: t => found (literal ['u', 'l', 'l'] t) fun _ => .null
  | 't' :: t => found (literal ['r', 'u', 'e'] t) fun _ => .boolean true
  | 'f' :: t => found (literal ['a', 'l', 's', 'e'] t) fun _ => .boolean false
  | '"' :: t => found (stringBody t) fun p => .text (String.ofList p.1)
  | '[' :: _ => .unwantedType .list wanted
  | '{' :: _ => .unwantedType .object wanted
  | c :: _ =>
    if c = '-' ∨ Text.isDigit c then found (number s) fun p => .number p.1
    else .expectedValue
  | [] => .eofInValue

/-! ## Simple values -/

/-- Reads a string. -/
def text : Reader String := fun s =>
  match skipBlanks s with
  | '"' :: t => (stringBody t).map fun p => (String.ofList p.1, p.2)
  | t => .error (unwanted "a string" t)

/-- Reads a truth value. -/
def flag : Reader Bool := fun s =>
  match skipBlanks s with
  | 't' :: t => (literal ['r', 'u', 'e'] t).map (true, ·)
  | 'f' :: t => (literal ['a', 'l', 's', 'e'] t).map (false, ·)
  | t => .error (unwanted "a boolean" t)

/-- Reads `null`, where nothing else is wanted. -/
def unit : Reader Unit := fun s =>
  match skipBlanks s with
  | 'n' :: t => (literal ['u', 'l', 'l'] t).map ((), ·)
  | t => .error (unwanted "unit" t)

/-- The word of 32 bits that a number is. -/
def wordOf : Number → Except ReadError UInt32
  | .natural n =>
    if n < UInt32.size then .ok (UInt32.ofNat n)
    else .error (.unwantedValue (.number (.natural n)) "u32")
  | .negative n => .error (.unwantedValue (.number (.negative n)) "u32")
  | .floating isNegative value =>
    .error (.unwantedType (.number (.floating isNegative value)) "u32")

/-- Reads a number of 32 bits. -/
def word : Reader UInt32 := fun s =>
  match skipBlanks s with
  | [] => .error .eofInValue
  | c :: t =>
    if c = '-' ∨ Text.isDigit c then do
      let (n, rest) ← number (c :: t)
      return (← wordOf n, rest)
    else .error (unwanted "u32" (c :: t))

/-- Reads `null`, or else what `item` reads. -/
def optional {α : Type} (item : Reader α) : Reader (Option α) := fun s =>
  match skipBlanks s with
  | 'n' :: t => (literal ['u', 'l', 'l'] t).map (none, ·)
  | t => (item t).map fun p => (some p.1, p.2)

/-- Reads a value and checks it. -/
def mapped {α β : Type} (item : Reader α) (check : α → Except String β) : Reader β := do
  match check (← item) with
  | .ok b => return b
  | .error reason => refuse (.content reason)

/-! ## Lists -/

/-- What comes next in a list or an object: one more item, or the end and the text after it. -/
inductive Next where
  | item (s : List Char)
  | close (s : List Char)
  deriving DecidableEq, Repr

/-- Goes to the next item of a list. -/
def nextItem (isFirst : Bool) (s : List Char) : Except ReadError Next :=
  match skipBlanks s with
  | [] => .error .eofInList
  | ']' :: t => .ok (.close t)
  | c :: t =>
    if isFirst then .ok (.item (c :: t))
    else if c = ',' then
      match skipBlanks t with
      | [] => .error .eofInValue
      | ']' :: _ => .error .trailingComma
      | u => .ok (.item u)
    else .error .expectedCommaOrBracket

/-- Reads items up to the end of their list, at most so many. -/
def itemsFrom {α : Type} (item : Reader α) : Nat → Bool → Reader (List α)
  | 0, _ => refuse .eofInList
  | n + 1, isFirst => fun s => do
    match ← nextItem isFirst s with
    | .close t => return ([], t)
    | .item t => do
      let (a, t) ← item t
      let (as, t) ← itemsFrom item n false t
      return (a :: as, t)

/-- Reads a list. -/
def listOf {α : Type} (item : Reader α) : Reader (List α) := fun s =>
  match skipBlanks s with
  | '[' :: t => itemsFrom item (t.length + 1) true t
  | t => .error (unwanted "a sequence" t)

/-! ## Objects -/

/-- Reads the colon after the name of a member. -/
def colon : Reader Unit := fun s =>
  match skipBlanks s with
  | [] => .error .eofInObject
  | ':' :: t => .ok ((), t)
  | _ => .error .expectedColon

/-- Goes to the name of the next member of an object, past its opening quote. -/
def nextKey (isFirst : Bool) (s : List Char) : Except ReadError Next :=
  match skipBlanks s with
  | [] => .error .eofInObject
  | '}' :: t => .ok (.close t)
  | c :: t =>
    if isFirst then
      if c = '"' then .ok (.item t) else .error .keyMustBeString
    else if c = ',' then
      match skipBlanks t with
      | [] => .error .eofInValue
      | '"' :: u => .ok (.item u)
      | '}' :: _ => .error .trailingComma
      | _ => .error .keyMustBeString
    else .error .expectedCommaOrBrace

/-- Reads members up to the end of their object, at most so many; `member` reads what follows the
name of one. -/
def membersFrom {σ : Type} (member : σ → String → Reader σ) : Nat → Bool → σ → Reader σ
  | 0, _, _ => refuse .eofInObject
  | n + 1, isFirst, acc => fun s => do
    match ← nextKey isFirst s with
    | .close t => return (acc, t)
    | .item t => do
      let (name, t) ← stringBody t
      let (acc, t) ← member acc (String.ofList name) t
      membersFrom member n false acc t

/-- Reads one of several named variants: a bare name, or an object with the name as its only
member. -/
def tagged {α : Type} (bare : String → Except ReadError α)
    (payload : String → Except ReadError (Reader α)) : Reader α := fun s =>
  match skipBlanks s with
  | [] => .error .eofInValue
  | '"' :: t => do
    let (name, t) ← stringBody t
    return (← bare (String.ofList name), t)
  | '{' :: t => do
    match skipBlanks t with
    | [] => .error .eofInObject
    | '}' :: _ => .error .expectedValue
    | '"' :: u => do
      let (name, u) ← stringBody u
      let read ← payload (String.ofList name)
      let ((), u) ← colon u
      let (a, u) ← read u
      match skipBlanks u with
      | [] => .error .eofInObject
      | '}' :: v => return (a, v)
      | _ => .error .expectedValue
    | _ => .error .keyMustBeString
  | _ => .error .expectedValue

/-! ## Records -/

/-- A field of a record that is collected in a draft of type `σ`. -/
structure Field (σ : Type) where
  name : String
  /-- Whether the field has to be there. -/
  isRequired : Bool
  /-- Whether the draft holds the field already. -/
  isFilled : σ → Bool
  /-- Reads the value of the field into the draft. -/
  fill : σ → Reader σ

/-- A required field with its place in the draft. -/
def Field.required {σ α : Type} (name : String) (get : σ → Option α) (set : σ → α → σ)
    (value : Reader α) : Field σ :=
  ⟨name, true, fun d => (get d).isSome, fun d => return set d (← value)⟩

/-- A field that may be left out, with its place in the draft. -/
def Field.defaulted {σ α : Type} (name : String) (get : σ → Option α) (set : σ → α → σ)
    (value : Reader α) : Field σ :=
  ⟨name, false, fun d => (get d).isSome, fun d => return set d (← value)⟩

/-- Reads what follows the name of a member: the value of the field of that name, which may come
only once, or any value if there is no such field. -/
def fieldMember {σ : Type} (fields : List (Field σ)) (draft : σ) (name : String) : Reader σ :=
  match fields.find? fun f => f.name == name with
  | some f => do
    if f.isFilled draft then refuse (.duplicateField name)
    colon
    f.fill draft
  | none => do
    colon
    skipValue
    return draft

/-- Reads the values of fields in their order, the first of them at `position`; from the end of
the list on, fields may only be missing that can be left out. -/
def fieldItems {σ : Type} (wanted : String) : Nat → List (Field σ) → σ → Reader σ
  | _, [], draft => fun s =>
    match skipBlanks s with
    | [] => .error .eofInList
    | ']' :: t => .ok (draft, t)
    | ',' :: t =>
      match skipBlanks t with
      | ']' :: _ => .error .trailingComma
      | _ => .error .trailingCharacters
    | _ => .error .trailingCharacters
  | position, f :: fields, draft => fun s => do
    match ← nextItem (position == 0) s with
    | .item t => do
      let (draft, t) ← f.fill draft t
      fieldItems wanted (position + 1) fields draft t
    | .close t =>
      if f.isRequired then .error (.unwantedLength position wanted)
      else
        match (fields.zipIdx (position + 1)).find? fun g => g.1.isRequired with
        | some g => .error (.unwantedLength g.2 wanted)
        | none => return (draft, t)

/-- Reads a record: `wanted` names it in errors, and `build` makes it from the draft. -/
def record {σ α : Type} (wanted : String) (fields : List (Field σ)) (blank : σ)
    (build : σ → Except ReadError α) : Reader α := fun s =>
  match skipBlanks s with
  | '[' :: t => do
    let size := wanted ++ " with " ++ toString fields.length ++ " elements"
    let (draft, t) ← fieldItems size 0 fields blank t
    return (← build draft, t)
  | '{' :: t => do
    let (draft, t) ← membersFrom (fieldMember fields) (t.length + 1) true blank t
    return (← build draft, t)
  | t => .error (unwanted wanted t)

/-- The value of a required field. -/
def filled {α : Type} (name : String) : Option α → Except ReadError α
  | some a => .ok a
  | none => .error (.missingField name)

/-! ## Documents -/

/-- Reads a text that holds one value and nothing else. -/
def document {α : Type} (value : Reader α) (s : String) : Except ReadError α := do
  let (a, rest) ← value s.toList
  if skipBlanks rest = [] then return a else .error .trailingCharacters

end Observation.Json

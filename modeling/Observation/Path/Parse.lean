import Observation.Path.Basic
import Observation.Text.Digits

/-!
# Reading paths

A text is cut at the slashes outside braces, and each segment is read on its own, from left to
right; the first segment at fault decides the error.

* `Span` - a part of a text, by bytes.
* `Scan`, `segmentSpans` - the cut, one character at a time, and its result.
* `splitIndex`, `readIndex` - the index in brackets at the end of a segment.
* `PathElement.parse` - reads one segment.
* `ItemPath.parse` - reads a path.
-/

namespace Observation

/-- How many braces are open after a character; a closing brace without an opening one counts for
nothing. -/
def braceDepth (depth : Nat) (c : Char) : Nat :=
  if c = '{' then depth + 1 else if c = '}' then depth - 1 else depth

/-- A part of a text, by the bytes at which it starts and stops. -/
structure Span where
  start : String.Pos.Raw
  stop : String.Pos.Raw
  deriving DecidableEq, Repr

/-- The characters of a part of `s`. -/
def Span.chars (span : Span) (s : String) : List Char :=
  (String.Pos.Raw.extract s span.start span.stop).toList

/-- What is known of a text after some of its characters: how many braces are open, at which byte
the current segment starts, and which segments are cut off before it. -/
structure Scan where
  depth : Nat
  start : String.Pos.Raw
  cuts : List Span
  deriving DecidableEq, Repr

namespace Scan

/-- What is known before the first character. -/
def initial : Scan :=
  ⟨0, 0, []⟩

/-- Reads the character at byte `i`.  A slash outside braces ends a segment, and the next one starts
at the byte after it. -/
def step (scan : Scan) (i : String.Pos.Raw) (c : Char) : Scan :=
  if c = '/' ∧ scan.depth = 0 then
    { scan with start := i.inc, cuts := scan.cuts ++ [⟨scan.start, i⟩] }
  else
    { scan with depth := braceDepth scan.depth c }

/-- Reads characters, of which the first one is at byte `i`. -/
def run (scan : Scan) (i : String.Pos.Raw) : List Char → Scan
  | [] => scan
  | c :: cs => (scan.step i c).run (i + c) cs

/-- What is known at the end of a text. -/
def ofText (s : String) : Scan :=
  initial.run 0 s.toList

end Scan

/-- The segments of a text, of which there is at least one; braces must not stay open. -/
def segmentSpans (s : String) : Except PathError (Span × List Span) :=
  let scan := Scan.ofText s
  let last : Span := ⟨scan.start, s.rawEndPos⟩
  if scan.depth ≠ 0 then .error (.ofSyntax s .unterminatedUri)
  else
    match scan.cuts with
    | [] => .ok (last, [])
    | first :: rest => .ok (first, rest ++ [last])

/-- What stands in brackets at the end of a segment. -/
inductive IndexSuffix where
  | absent
  | unbalanced
  | present (name index : List Char)
  deriving DecidableEq, Repr

/-- Splits a segment that ends in `]` at its last `[`. -/
def splitIndex (segment : List Char) : IndexSuffix :=
  match segment.reverse with
  | ']' :: inner =>
    match inner.dropWhile (· != '[') with
    | [] => .unbalanced
    | _ :: name => .present name.reverse (inner.takeWhile (· != '[')).reverse
  | _ => .absent

/-- Reads an index: a number from 1 to the largest of 32 bits. -/
def readIndex (cs : List Char) : Option UInt32 :=
  match Text.readUnsigned cs with
  | some n => if 0 < n ∧ n < UInt32.size then some (UInt32.ofNat n) else none
  | none => none

theorem readIndex_ne_zero {cs : List Char} {i : UInt32} (h : readIndex cs = some i) : i ≠ 0 := by
  unfold readIndex at h
  split at h
  · next n _ =>
    split at h
    · next hn =>
      cases h
      intro h0
      have hz := congrArg UInt32.toNat h0
      rw [UInt32.toNat_ofNat', Nat.mod_eq_of_lt hn.2] at hz
      exact absurd hz (Nat.pos_iff_ne_zero.1 hn.1)
    · cases h
  · cases h

/-- An element that may stand after another one. -/
abbrev Step : Type := { e : PathElement // IsStep e }

/-- Reads one segment of the text `input`. -/
def PathElement.parse (input : String) (segment : List Char) : Except PathError Step :=
  if segment = [] then .error (.ofSyntax input .emptySegment)
  else if segment = ['.'] then .ok ⟨.here, by simp [IsStep, Indexed]⟩
  else if segment = ['.', '.'] then .ok ⟨.up, by simp [IsStep, Indexed]⟩
  else
    match splitIndex segment with
    | .unbalanced => .error (.ofSyntax input (.unbalancedIndex (String.ofList segment)))
    | .absent =>
      match QualifiedName.parse (String.ofList segment) with
      | .error e => .error (.name e)
      | .ok name => .ok ⟨.named name 1, by simp [IsStep, Indexed]⟩
    | .present name index =>
      match h : readIndex index with
      | none => .error (.ofSyntax input (.invalidIndex (String.ofList segment)))
      | some i =>
        match QualifiedName.parse (String.ofList name) with
        | .error e => .error (.name e)
        | .ok name =>
          .ok ⟨.named name i, by simpa [IsStep, Indexed] using readIndex_ne_zero h⟩

namespace ItemPath

/-- Reads the segments of `input` between slashes, and puts a path together from the steps. -/
def parseBody (input : String) (body : List Char)
    (assemble : Step → List Step → ItemPath) : Except PathError ItemPath := do
  let text := String.ofList body
  let (first, rest) ← segmentSpans text
  let first ← PathElement.parse input (first.chars text)
  let rest ← rest.mapM fun span => PathElement.parse input (span.chars text)
  return assemble first rest

/-- The absolute path of some steps. -/
def ofRoot (first : Step) (rest : List Step) : ItemPath :=
  absolute ((first :: rest).map Subtype.val) fun e he => by
    obtain ⟨s, _, rfl⟩ := List.mem_map.1 he
    exact s.2

/-- The relative path of some steps. -/
def ofStep (first : Step) (rest : List Step) : ItemPath :=
  relative first.1 (rest.map Subtype.val) first.2.2 fun e he => by
    obtain ⟨s, _, rfl⟩ := List.mem_map.1 he
    exact s.2

/-- Reads a path: the root alone, or steps between slashes, after a slash if the path is
absolute. -/
def parse (s : String) : Except PathError ItemPath :=
  match s.toList with
  | [] => .error (.ofSyntax s .emptyPath)
  | ['/'] => .ok root
  | '/' :: body => parseBody s body ofRoot
  | body => parseBody s body ofStep

end ItemPath

end Observation

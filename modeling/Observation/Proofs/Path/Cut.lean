import Mathlib.Data.List.Basic
import Observation.Path.Parse

/-!
# Where a text is cut

A text is cut at the slashes at which no brace is open.  It is cut in one way only, unless braces
stay open at its end, and then not at all.  Here a segment is its characters, wherever it stands.

* `segments` - the cut; nothing if braces stay open at the end.
* `slashed` - texts with slashes between them.
* `openBraces` - how many braces are open after a text.
* `IsSegment` - the texts between two cuts: no brace is open at their end, and all slashes in them
  stand within braces.
* `segments_eq_none_iff`, `segments_eq_some_iff` - when a text is cut, and into what.
-/

namespace Observation

/-- The first segment of a text and the ones after it, cut at the slashes outside braces, where
`depth` braces are open at the start; nothing if braces are open at the end. -/
def segmentsFrom (depth : Nat) : List Char → Option (List Char × List (List Char))
  | [] => if depth = 0 then some ([], []) else none
  | c :: cs =>
    if c = '/' ∧ depth = 0 then
      (segmentsFrom 0 cs).map fun s => ([], s.1 :: s.2)
    else
      (segmentsFrom (braceDepth depth c) cs).map fun s => (c :: s.1, s.2)

/-- The segments of a text, of which there is at least one. -/
def segments (cs : List Char) : Option (List Char × List (List Char)) :=
  segmentsFrom 0 cs

/-- A first text, then others with a slash before each. -/
def slashed (first : List Char) (rest : List (List Char)) : List Char :=
  first ++ rest.flatMap fun cs => '/' :: cs

theorem intercalate_eq_slashed (first : List Char) (rest : List (List Char)) :
    ['/'].intercalate (first :: rest) = slashed first rest := by
  induction rest generalizing first with
  | nil => simp [slashed]
  | cons cs rest ih =>
    rw [List.intercalate_cons_cons, ih cs, slashed, slashed, List.flatMap_cons]
    simp

/-- How many braces are open after a text, if `depth` are open before it. -/
def openBracesFrom (depth : Nat) (cs : List Char) : Nat :=
  cs.foldl braceDepth depth

/-- How many braces are open after a text; a closing brace without an opening one counts for
nothing. -/
def openBraces (cs : List Char) : Nat :=
  openBracesFrom 0 cs

/-- What is left of a segment where `depth` braces are open: all are closed at its end, and no
slash in it stands outside braces. -/
structure IsSegmentFrom (depth : Nat) (cs : List Char) : Prop where
  closed : openBracesFrom depth cs = 0
  slash_inside : ∀ front back, cs = front ++ '/' :: back → openBracesFrom depth front ≠ 0

/-- A text between two cuts. -/
def IsSegment (cs : List Char) : Prop :=
  IsSegmentFrom 0 cs

section Segments

variable {depth : Nat} {c : Char} {cs first : List Char} {rest : List (List Char)}

theorem openBracesFrom_cons :
    openBracesFrom depth (c :: cs) = openBracesFrom (braceDepth depth c) cs := rfl

theorem openBraces_append (front cs : List Char) :
    openBraces (front ++ cs) = openBracesFrom (openBraces front) cs :=
  List.foldl_append

theorem isSegmentFrom_nil : IsSegmentFrom depth [] ↔ depth = 0 := by
  constructor
  · intro h
    exact h.closed
  · intro h
    exact ⟨h, fun front back heq => by simp at heq⟩

theorem isSegmentFrom_cons : IsSegmentFrom depth (c :: cs) ↔
    ¬(c = '/' ∧ depth = 0) ∧ IsSegmentFrom (braceDepth depth c) cs := by
  constructor
  · rintro ⟨hclosed, hslash⟩
    refine ⟨?_, hclosed, ?_⟩
    · rintro ⟨rfl, hdepth⟩
      exact hslash [] cs rfl hdepth
    · rintro front back rfl
      exact hslash (c :: front) back rfl
  · rintro ⟨hcut, hclosed, hslash⟩
    refine ⟨hclosed, fun front back heq => ?_⟩
    cases front with
    | nil =>
      cases heq
      exact fun hdepth => hcut ⟨rfl, hdepth⟩
    | cons d front =>
      cases heq
      exact hslash front back rfl

/-- A text is not cut if braces are open at its end. -/
theorem segmentsFrom_eq_none_iff :
    segmentsFrom depth cs = none ↔ openBracesFrom depth cs ≠ 0 := by
  induction cs generalizing depth with
  | nil =>
    rw [segmentsFrom]
    split
    · next hdepth => simp [openBracesFrom, hdepth]
    · next hdepth => simp [openBracesFrom, hdepth]
  | cons c cs ih =>
    rw [segmentsFrom, openBracesFrom_cons]
    split
    · next hc =>
      rw [Option.map_eq_none_iff, ih, hc.1, hc.2]
      rfl
    · rw [Option.map_eq_none_iff, ih]

theorem slashed_cons (first : List Char) (rest : List (List Char)) :
    slashed (c :: first) rest = c :: slashed first rest := rfl

theorem slashed_nil_cons (cs : List Char) (rest : List (List Char)) :
    slashed [] (cs :: rest) = '/' :: slashed cs rest := rfl

/-- What is cut off a text first is what is left of its segment, and the others are whole. -/
theorem segmentsFrom_eq_some_iff : segmentsFrom depth cs = some (first, rest) ↔
    cs = slashed first rest ∧ IsSegmentFrom depth first ∧ ∀ s ∈ rest, IsSegment s := by
  induction cs generalizing depth first rest with
  | nil =>
    rw [segmentsFrom]
    constructor
    · intro h
      split at h
      · next hdepth =>
        cases h
        exact ⟨rfl, isSegmentFrom_nil.2 hdepth, List.forall_mem_nil _⟩
      · cases h
    · rintro ⟨hcs, hfirst, -⟩
      cases first with
      | nil =>
        cases rest with
        | nil => rw [if_pos (isSegmentFrom_nil.1 hfirst)]
        | cons f r => cases hcs
      | cons d first => cases hcs
  | cons c cs ih =>
    rw [segmentsFrom]
    split
    · next hc =>
      obtain ⟨rfl, rfl⟩ := hc
      rw [Option.map_eq_some_iff]
      constructor
      · rintro ⟨⟨f, r⟩, hs, he⟩
        obtain ⟨hcs, hf, hr⟩ := ih.1 hs
        cases he
        exact ⟨congrArg _ hcs, isSegmentFrom_nil.2 rfl, List.forall_mem_cons.2 ⟨hf, hr⟩⟩
      · rintro ⟨hcs, hfirst, hrest⟩
        cases first with
        | nil =>
          cases rest with
          | nil => cases hcs
          | cons f r =>
            rw [slashed_nil_cons, List.cons.injEq] at hcs
            obtain ⟨hf, hr⟩ := List.forall_mem_cons.1 hrest
            exact ⟨(f, r), ih.2 ⟨hcs.2, hf, hr⟩, rfl⟩
        | cons d first =>
          -- A segment does not start with a slash where no brace is open.
          rw [slashed_cons, List.cons.injEq] at hcs
          exact absurd ⟨hcs.1.symm, rfl⟩ (isSegmentFrom_cons.1 hfirst).1
    · next hc =>
      rw [Option.map_eq_some_iff]
      constructor
      · rintro ⟨⟨f, r⟩, hs, he⟩
        obtain ⟨hcs, hf, hr⟩ := ih.1 hs
        cases he
        exact ⟨congrArg _ hcs, isSegmentFrom_cons.2 ⟨hc, hf⟩, hr⟩
      · rintro ⟨hcs, hfirst, hrest⟩
        cases first with
        | nil =>
          cases rest with
          | nil => cases hcs
          | cons f r =>
            rw [slashed_nil_cons, List.cons.injEq] at hcs
            exact absurd ⟨hcs.1, isSegmentFrom_nil.1 hfirst⟩ hc
        | cons d first =>
          rw [slashed_cons, List.cons.injEq] at hcs
          obtain ⟨rfl, hcs⟩ := hcs
          exact ⟨(first, rest), ih.2 ⟨hcs, (isSegmentFrom_cons.1 hfirst).2, hrest⟩, rfl⟩

theorem segments_eq_none_iff : segments cs = none ↔ openBraces cs ≠ 0 :=
  segmentsFrom_eq_none_iff

/-- The segments of a text are the only texts between two cuts that it is put together from. -/
theorem segments_eq_some_iff : segments cs = some (first, rest) ↔
    cs = ['/'].intercalate (first :: rest) ∧ ∀ s ∈ first :: rest, IsSegment s := by
  rw [List.forall_mem_cons, intercalate_eq_slashed]
  exact segmentsFrom_eq_some_iff

/-- No brace is open after the last of a text's segments. -/
theorem openBraces_eq_zero_of_isSegment (hcut : cs = ['/'].intercalate (first :: rest))
    (hsegments : ∀ s ∈ first :: rest, IsSegment s) : openBraces cs = 0 := by
  by_contra hopen
  have hnone := segments_eq_none_iff.2 hopen
  rw [segments_eq_some_iff.2 ⟨hcut, hsegments⟩] at hnone
  cases hnone

end Segments

end Observation

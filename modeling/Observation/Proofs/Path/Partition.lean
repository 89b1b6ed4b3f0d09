import Observation.Proofs.Path.Scan

/-!
# The segments of a text as a partition

Unless braces stay open in it, a text is a row of parts with slashes between them that no slash
outside braces breaks further.  There is one such row.

* `openAt` - how many braces are open at a byte of a text.
* `IsCut`, `InPlace` - what makes parts of a text its segments, and parts that follow each other.
* `segmentSpans_partition` - cutting a text gives the one row, or says that braces stay open.
-/

namespace Observation

open String (utf8Len)

/-- How many braces are open at a byte of `s`. -/
def openAt (s : String) (i : String.Pos.Raw) : Nat :=
  openBraces ((⟨0, i⟩ : Span).chars s)

/-- Parts into which `s` is cut: they are `s` with slashes between them, no brace is open where one
starts or stops, and a slash in one of them stands within braces that are opened in it. -/
structure IsCut (s : String) (spans : List Span) : Prop where
  ne_nil : spans ≠ []
  joined : s.toList = ['/'].intercalate (spans.map (·.chars s))
  are_parts : ∀ span ∈ spans, span.IsPartOf s
  closed : ∀ span ∈ spans, openAt s span.start = 0 ∧ openAt s span.stop = 0
  slash_inside : ∀ span ∈ spans, ∀ front back,
    span.chars s = front ++ '/' :: back → 0 < openBraces front

/-- Parts that follow each other from the first byte of `s`, with a slash between them. -/
def InPlace (s : String) (spans : List Span) : Prop :=
  spans = placed [] (spans.map (·.chars s))

variable {s : String} {span : Span} {spans : List Span} {front back : List Char}
  {texts : List (List Char)}

theorem openAt_eq (h : s.toList = front ++ back) :
    openAt s ⟨utf8Len front⟩ = openBraces front := by
  have hspan : (⟨0, ⟨utf8Len front⟩⟩ : Span) = .after [] front := by
    rw [Span.after, String.utf8Len_nil, Nat.zero_add]
    rfl
  have hfront : s.toList = [] ++ front ++ back := h
  rw [openAt, hspan, Span.chars_after hfront]

theorem openAt_start_after {cs : List Char} (h : s.toList = front ++ cs ++ back) :
    openAt s (Span.after front cs).start = openBraces front :=
  openAt_eq (h.trans (List.append_assoc ..))

theorem openAt_stop_after {cs : List Char} (h : s.toList = front ++ cs ++ back) :
    openAt s (Span.after front cs).stop = openBraces (front ++ cs) := by
  rw [Span.after, ← String.utf8Len_append]
  exact openAt_eq h

/-- Braces count anew where a part starts, since none is open there. -/
theorem IsCut.isSegment (h : IsCut s spans) (hspan : span ∈ spans) :
    IsSegment (span.chars s) := by
  obtain ⟨hstart, hstop⟩ := h.closed span hspan
  have hslash := h.slash_inside span hspan
  obtain ⟨front, cs, back, hs, rfl⟩ := (h.are_parts span hspan).exists_after
  rw [openAt_start_after hs] at hstart
  rw [openAt_stop_after hs, openBraces_append, hstart] at hstop
  rw [Span.chars_after hs] at hslash ⊢
  exact ⟨hstop, fun front back hcs => (hslash front back hcs).ne'⟩

/-- A segment stands after others that have closed their braces. -/
theorem exists_front_of_mem_placed (hjoined : s.toList = ['/'].intercalate texts)
    (htexts : ∀ cs ∈ texts, IsSegment cs) (hspan : span ∈ placed [] texts) :
    ∃ front cs back, s.toList = front ++ cs ++ back ∧ span = .after front cs ∧
      openBraces front = 0 ∧ IsSegment cs := by
  obtain ⟨before, cs, after, rfl, rfl⟩ := mem_placed hspan
  obtain ⟨hbefore, hrest⟩ := List.forall_mem_append.1 htexts
  obtain ⟨hcs, -⟩ := List.forall_mem_cons.1 hrest
  refine ⟨slashEnded before, cs, after.flatMap ('/' :: ·), ?_, rfl, ?_, hcs⟩
  · rw [hjoined, intercalate_append_cons, slashed, List.append_assoc]
  · exact openBraces_slashEnded hbefore

/-- The segments of a text cut it where they stand. -/
theorem isCut_placed (hne : texts ≠ []) (hjoined : s.toList = ['/'].intercalate texts)
    (htexts : ∀ cs ∈ texts, IsSegment cs) : IsCut s (placed [] texts) := by
  have hchars : (placed [] texts).map (·.chars s) = texts := map_chars_placed hjoined
  constructor
  case ne_nil =>
    intro hnil
    rw [hnil] at hchars
    exact hne hchars.symm
  case joined => rw [hchars, hjoined]
  case are_parts =>
    intro span hspan
    obtain ⟨front, cs, back, hs, rfl, -⟩ := exists_front_of_mem_placed hjoined htexts hspan
    exact Span.isPartOf_after hs
  case closed =>
    intro span hspan
    obtain ⟨front, cs, back, hs, rfl, hfront, hcs⟩ :=
      exists_front_of_mem_placed hjoined htexts hspan
    rw [openAt_start_after hs, openAt_stop_after hs, openBraces_append, hfront]
    exact ⟨rfl, hcs.closed⟩
  case slash_inside =>
    intro span hspan
    obtain ⟨front, cs, back, hs, rfl, -, hcs⟩ := exists_front_of_mem_placed hjoined htexts hspan
    rw [Span.chars_after hs]
    exact fun front back heq => Nat.pos_of_ne_zero (hcs.slash_inside front back heq)

/-- Whatever parts a text is cut into, they hold its segments. -/
theorem IsCut.segments_eq (h : IsCut s spans) {f : List Char} {r : List (List Char)}
    (hchars : spans.map (·.chars s) = f :: r) : segments s.toList = some (f, r) := by
  rw [segments_eq_some_iff, ← hchars, List.forall_mem_map]
  exact ⟨h.joined, fun span hspan => h.isSegment hspan⟩

theorem IsCut.map_chars_eq (h : IsCut s spans) {f : List Char} {r : List (List Char)}
    (hsegments : segments s.toList = some (f, r)) : spans.map (·.chars s) = f :: r := by
  obtain ⟨f', r', hchars⟩ := List.exists_cons_of_ne_nil (mt List.map_eq_nil_iff.1 h.ne_nil)
  rw [h.segments_eq hchars] at hsegments
  cases hsegments
  exact hchars

/-- Nothing but a part of the text is ever cut off it.  Either braces stay open and the text is
refused, or it is cut into segments that follow each other, and any other parts that cut it hold the
same texts, in the same places if they follow each other as well. -/
theorem segmentSpans_partition (s : String) :
    (∀ span ∈ (Scan.ofText s).cuts, span.IsPartOf s) ∧
    ((0 < openBraces s.toList ∧
        segmentSpans s = .error (.unreadable s "unterminated namespace URI")) ∨
      (openBraces s.toList = 0 ∧ ∃ first rest, segmentSpans s = .ok (first, rest) ∧
        IsCut s (first :: rest) ∧ InPlace s (first :: rest) ∧
        ∀ spans, IsCut s spans →
          spans.map (·.chars s) = (first :: rest).map (·.chars s) ∧
          (InPlace s spans → spans = first :: rest))) := by
  refine ⟨fun span hspan => Scan.isPartOf_of_mem_cuts hspan, ?_⟩
  rcases Nat.eq_zero_or_pos (openBraces s.toList) with hclosed | hopen
  · right
    refine ⟨hclosed, ?_⟩
    obtain ⟨⟨f, r⟩, hsegments⟩ : ∃ cut, segments s.toList = some cut :=
      Option.ne_none_iff_exists'.1 fun hnone => segments_eq_none_iff.1 hnone hclosed
    obtain ⟨hjoined, htexts⟩ := segments_eq_some_iff.1 hsegments
    obtain ⟨first, rest, hspans, hplaced⟩ := segmentSpans_of_segments hsegments
    have hchars : (first :: rest).map (·.chars s) = f :: r := by
      rw [hplaced, map_chars_placed hjoined]
    have hcut : IsCut s (first :: rest) :=
      hplaced ▸ isCut_placed (List.cons_ne_nil f r) hjoined htexts
    have hplace : InPlace s (first :: rest) := by rw [InPlace, hchars, hplaced]
    refine ⟨first, rest, hspans, hcut, hplace, fun spans hspans => ?_⟩
    have hsame : spans.map (·.chars s) = (first :: rest).map (·.chars s) := by
      rw [hspans.map_chars_eq hsegments, hchars]
    refine ⟨hsame, fun hspansPlace => ?_⟩
    rw [hspansPlace, hsame, ← hplace]
  · left
    exact ⟨hopen, segmentSpans_of_open hopen.ne'⟩

example : segmentSpans "é\x7b/\x7d/b" = .ok (⟨⟨0⟩, ⟨5⟩⟩, [⟨⟨6⟩, ⟨7⟩⟩]) := rfl

end Observation

import Mathlib.Data.String.Basic
import Observation.Proofs.Path.Cut

/-!
# Where the segments of a text stand

A scan takes note of bytes: a segment starts at the first byte of the text or after a slash outside
braces, and stops at the next such slash or at the end.  None of these bytes is inside a character,
because a scan knows at any time the characters before it.

* `Span.IsPartOf` - the parts of a text.
* `placed` - where texts stand that follow each other with slashes between them.
* `Scan.Tracks` - what a scan knows after some of a text, whatever comes next.
* `segmentSpans_of_open`, `segmentSpans_of_segments` - the result of the cut.
* `ItemPath.parseBody_eq` - a path is read from the segments of its characters.
-/

namespace Observation

open String (utf8Len)

/-! ## Parts of a text -/

/-- A part of `s`: its bounds are bytes of the text at which a character starts, or its end. -/
structure Span.IsPartOf (span : Span) (s : String) : Prop where
  start_valid : span.start.IsValid s
  stop_valid : span.stop.IsValid s
  start_le_stop : span.start ≤ span.stop

/-- Where a text stands after another one. -/
def Span.after (front cs : List Char) : Span :=
  ⟨⟨utf8Len front⟩, ⟨utf8Len front + utf8Len cs⟩⟩

section Parts

variable {s : String} {i : String.Pos.Raw} {span : Span} {front cs back : List Char}

theorem isValid_iff_exists_front :
    i.IsValid s ↔ ∃ front back, s.toList = front ++ back ∧ i = ⟨utf8Len front⟩ := by
  rw [String.Pos.Raw.isValid_iff_exists_append]
  constructor
  · rintro ⟨t, u, rfl, rfl⟩
    refine ⟨t.toList, u.toList, String.toList_append, ?_⟩
    rw [String.utf8Len_toList]
    rfl
  · rintro ⟨front, back, hs, rfl⟩
    refine ⟨.ofList front, .ofList back, ?_, (String.rawEndPos_ofList front).symm⟩
    rw [← String.ofList_append, ← hs, String.ofList_toList]

/-- The byte after one more character. -/
theorem utf8Len_concat (front : List Char) (c : Char) :
    (⟨utf8Len (front ++ [c])⟩ : String.Pos.Raw) = String.Pos.Raw.mk (utf8Len front) + c := by
  rw [String.utf8Len_append, String.utf8Len_cons, String.utf8Len_nil, Nat.zero_add]
  rfl

/-- Of two texts that the same text starts with, the one with fewer bytes comes first. -/
theorem prefix_of_utf8Len_le {front' : List Char} (h : front <+: cs) (h' : front' <+: cs)
    (hle : utf8Len front ≤ utf8Len front') : front <+: front' := by
  rcases List.prefix_or_prefix_of_prefix h h' with hprefix | ⟨more, rfl⟩
  · exact hprefix
  · have hmore : utf8Len more = 0 := by
      rw [String.utf8Len_append] at hle
      omega
    refine ⟨[], ?_⟩
    rw [String.utf8Len_eq_zero.1 hmore, List.append_nil, List.append_nil]

namespace Span

theorem chars_after (h : s.toList = front ++ cs ++ back) : (after front cs).chars s = cs := by
  have hs : s = String.ofList (front ++ cs ++ back) := by rw [← h, String.ofList_toList]
  rw [chars, after, hs, String.extract_of_valid, String.toList_ofList]

theorem isPartOf_after (h : s.toList = front ++ cs ++ back) : (after front cs).IsPartOf s := by
  constructor
  case start_valid =>
    exact isValid_iff_exists_front.2 ⟨front, cs ++ back, h.trans (List.append_assoc ..), rfl⟩
  case stop_valid =>
    refine isValid_iff_exists_front.2 ⟨front ++ cs, back, h, ?_⟩
    rw [String.utf8Len_append]
    rfl
  case start_le_stop => exact Nat.le_add_right _ _

/-- A part of a text is a text between what comes before it and after it. -/
theorem IsPartOf.exists_after (h : span.IsPartOf s) :
    ∃ front cs back, s.toList = front ++ cs ++ back ∧ span = after front cs := by
  obtain ⟨start, stop⟩ := span
  obtain ⟨front, back, hfront, rfl⟩ := isValid_iff_exists_front.1 h.start_valid
  obtain ⟨front', back', hfront', rfl⟩ := isValid_iff_exists_front.1 h.stop_valid
  obtain ⟨cs, rfl⟩ : front <+: front' :=
    prefix_of_utf8Len_le ⟨back, hfront.symm⟩ ⟨back', hfront'.symm⟩ h.start_le_stop
  refine ⟨front, cs, back', hfront', ?_⟩
  rw [after, String.utf8Len_append]

end Span

end Parts

/-! ## Texts that follow each other -/

/-- Texts with a slash after each. -/
def slashEnded (texts : List (List Char)) : List Char :=
  texts.flatMap fun cs => cs ++ ['/']

/-- Where texts stand that follow `front` with slashes between them. -/
def placed (front : List Char) : List (List Char) → List Span
  | [] => []
  | cs :: rest => .after front cs :: placed (front ++ cs ++ ['/']) rest

section Placed

variable {s : String} {span : Span} {front cs : List Char} {texts before after : List (List Char)}

theorem slashEnded_concat : slashEnded (before ++ [cs]) = slashEnded before ++ cs ++ ['/'] := by
  simp [slashEnded]

theorem intercalate_append_cons :
    ['/'].intercalate (before ++ cs :: after) = slashEnded before ++ slashed cs after := by
  induction before with
  | nil => exact intercalate_eq_slashed cs after
  | cons d before ih =>
    obtain ⟨e, rest, hrest⟩ := List.exists_cons_of_ne_nil
      (List.append_ne_nil_of_right_ne_nil before (List.cons_ne_nil cs after))
    rw [List.cons_append, hrest, List.intercalate_cons_cons, ← hrest, ih]
    simp [slashEnded]

theorem placed_append : placed front (before ++ after) =
    placed front before ++ placed (front ++ slashEnded before) after := by
  induction before generalizing front with
  | nil => simp [placed, slashEnded]
  | cons cs before ih =>
    rw [List.cons_append, placed, ih, placed, List.cons_append]
    simp [slashEnded]

theorem placed_concat : placed front (before ++ [cs]) =
    placed front before ++ [.after (front ++ slashEnded before) cs] :=
  placed_append

theorem mem_placed (h : span ∈ placed front texts) :
    ∃ before cs after, texts = before ++ cs :: after ∧
      span = .after (front ++ slashEnded before) cs := by
  induction texts generalizing front with
  | nil => cases h
  | cons cs rest ih =>
    rcases List.mem_cons.1 h with rfl | h
    · exact ⟨[], cs, rest, rfl, by simp [slashEnded]⟩
    · obtain ⟨before, ds, after, rfl, rfl⟩ := ih h
      exact ⟨cs :: before, ds, after, rfl, by simp [slashEnded]⟩

/-- What stands where a text is cut. -/
theorem map_chars_placed (h : s.toList = front ++ ['/'].intercalate texts) :
    (placed front texts).map (·.chars s) = texts := by
  induction texts generalizing front with
  | nil => rfl
  | cons cs rest ih =>
    rw [placed, List.map_cons]
    cases rest with
    | nil =>
      have hlast : s.toList = front ++ cs ++ [] := by simpa using h
      rw [Span.chars_after hlast]
      rfl
    | cons ds rest =>
      rw [List.intercalate_cons_cons] at h
      have hfirst : s.toList = front ++ cs ++ '/' :: ['/'].intercalate (ds :: rest) := by
        simpa using h
      have hrest : s.toList = front ++ cs ++ ['/'] ++ ['/'].intercalate (ds :: rest) := by
        simpa using h
      rw [Span.chars_after hfirst, ih hrest]

/-- No brace is open between two segments. -/
theorem openBraces_slashEnded (h : ∀ cs ∈ before, IsSegment cs) :
    openBraces (slashEnded before) = 0 := by
  induction before with
  | nil => rfl
  | cons cs before ih =>
    obtain ⟨hcs, hbefore⟩ := List.forall_mem_cons.1 h
    have hfirst : openBraces (cs ++ ['/']) = 0 := by
      rw [openBraces_append, show openBraces cs = 0 from hcs.closed]
      rfl
    rw [slashEnded, List.flatMap_cons, openBraces_append, hfirst]
    exact ih hbefore

theorem openBraces_slashEnded_append (h : ∀ cs ∈ before, IsSegment cs) (cs : List Char) :
    openBraces (slashEnded before ++ cs) = openBraces cs := by
  rw [openBraces_append, openBraces_slashEnded h]
  rfl

end Placed

/-! ## Reading a text -/

namespace Scan

/-- What a scan knows after the segments `before`, with a slash after each, and `current`: where the
segments stand, where the next one starts, and how many braces are open in it.  It is not complete,
since no slash in it stands outside braces. -/
structure Tracks (scan : Scan) (before : List (List Char)) (current : List Char) : Prop where
  cuts_eq : scan.cuts = placed [] before
  start_eq : scan.start = ⟨utf8Len (slashEnded before)⟩
  depth_eq : scan.depth = openBraces current
  are_segments : ∀ cs ∈ before, IsSegment cs
  slash_inside : ∀ front back, current = front ++ '/' :: back → openBraces front ≠ 0

section Tracks

variable {scan : Scan} {before : List (List Char)} {current : List Char}

theorem tracks_initial : initial.Tracks [] [] where
  cuts_eq := rfl
  start_eq := rfl
  depth_eq := rfl
  are_segments := List.forall_mem_nil _
  slash_inside := fun front back h => by simp at h

/-- What is read of a segment is one if it stops there. -/
theorem Tracks.isSegment (h : scan.Tracks before current) (hdepth : scan.depth = 0) :
    IsSegment current :=
  ⟨h.depth_eq.symm.trans hdepth, h.slash_inside⟩

/-- A slash outside braces stops a segment. -/
theorem Tracks.step_cut (h : scan.Tracks before current) (hdepth : scan.depth = 0) :
    (scan.step ⟨utf8Len (slashEnded before ++ current)⟩ '/').Tracks (before ++ [current]) [] := by
  rw [step, if_pos ⟨rfl, hdepth⟩]
  constructor
  case cuts_eq =>
    rw [placed_concat, h.cuts_eq, h.start_eq, List.nil_append, String.utf8Len_append]
    rfl
  case start_eq =>
    rw [slashEnded_concat, utf8Len_concat]
    rfl
  case depth_eq => exact hdepth
  case are_segments =>
    rw [List.forall_mem_append, List.forall_mem_singleton]
    exact ⟨h.are_segments, h.isSegment hdepth⟩
  case slash_inside =>
    intro front back hnil
    simp at hnil

/-- Any other character belongs to the segment. -/
theorem Tracks.step_other (h : scan.Tracks before current) {c : Char}
    (hc : ¬(c = '/' ∧ scan.depth = 0)) (i : String.Pos.Raw) :
    (scan.step i c).Tracks before (current ++ [c]) := by
  rw [step, if_neg hc]
  refine ⟨h.cuts_eq, h.start_eq, ?_, h.are_segments, ?_⟩
  · rw [openBraces_append, ← h.depth_eq]
    rfl
  · intro front back hcurrent
    rcases List.eq_nil_or_concat back with rfl | ⟨back, d, rfl⟩
    · obtain ⟨rfl, hslash⟩ := List.append_inj' hcurrent rfl
      rw [← h.depth_eq]
      exact fun hdepth => hc ⟨List.singleton_inj.1 hslash, hdepth⟩
    · rw [List.concat_eq_append, ← List.cons_append, ← List.append_assoc] at hcurrent
      exact h.slash_inside front back (List.append_inj' hcurrent rfl).1

/-- A scan keeps track of one more character. -/
theorem Tracks.step (h : scan.Tracks before current) (c : Char) : ∃ before' current',
    (scan.step ⟨utf8Len (slashEnded before ++ current)⟩ c).Tracks before' current' ∧
      slashEnded before' ++ current' = slashEnded before ++ current ++ [c] := by
  by_cases hc : c = '/' ∧ scan.depth = 0
  · obtain ⟨rfl, hdepth⟩ := hc
    exact ⟨_, _, h.step_cut hdepth, by rw [List.append_nil, slashEnded_concat]⟩
  · exact ⟨_, _, h.step_other hc _, (List.append_assoc ..).symm⟩

/-- A scan keeps track of whatever is read. -/
theorem Tracks.run (h : scan.Tracks before current) (cs : List Char) : ∃ before' current',
    (scan.run ⟨utf8Len (slashEnded before ++ current)⟩ cs).Tracks before' current' ∧
      slashEnded before' ++ current' = slashEnded before ++ current ++ cs := by
  induction cs generalizing scan before current with
  | nil => exact ⟨before, current, h, (List.append_nil _).symm⟩
  | cons c cs ih =>
    obtain ⟨before', current', hstep, htext⟩ := h.step c
    obtain ⟨before'', current'', hrun, htext'⟩ := ih hstep
    refine ⟨before'', current'', ?_, ?_⟩
    · rw [htext, utf8Len_concat] at hrun
      exact hrun
    · rw [htext', htext, List.append_assoc]
      rfl

theorem exists_tracks_ofText (s : String) :
    ∃ before current, (ofText s).Tracks before current ∧
      s.toList = slashEnded before ++ current := by
  obtain ⟨before, current, hrun, htext⟩ := tracks_initial.run s.toList
  exact ⟨before, current, hrun, htext.symm⟩

theorem depth_ofText (s : String) : (ofText s).depth = openBraces s.toList := by
  obtain ⟨before, current, htracks, hs⟩ := exists_tracks_ofText s
  rw [hs, openBraces_slashEnded_append htracks.are_segments, htracks.depth_eq]

/-- What a scan cuts off is a part of the text, whether or not braces stay open later. -/
theorem isPartOf_of_mem_cuts {s : String} {span : Span} (h : span ∈ (ofText s).cuts) :
    span.IsPartOf s := by
  obtain ⟨before, current, htracks, hs⟩ := exists_tracks_ofText s
  rw [htracks.cuts_eq] at h
  obtain ⟨front, cs, back, rfl, rfl⟩ := mem_placed h
  have hplace : s.toList = slashEnded front ++ cs ++ '/' :: (slashEnded back ++ current) := by
    rw [hs]
    simp [slashEnded]
  exact Span.isPartOf_after hplace

end Tracks

end Scan

/-! ## The segments -/

section Segments

variable {s : String} {cs first : List Char} {before rest : List (List Char)}

theorem segmentSpans_of_open (hopen : openBraces s.toList ≠ 0) :
    segmentSpans s = .error (.ofSyntax s .unterminatedUri) := by
  rw [← Scan.depth_ofText] at hopen
  exact if_pos hopen

/-- Without open braces the last segment stops at the end of the text. -/
theorem exists_segmentSpans (hclosed : openBraces s.toList = 0) :
    ∃ span spans, segmentSpans s = .ok (span, spans) ∧
      span :: spans = (Scan.ofText s).cuts ++ [⟨(Scan.ofText s).start, s.rawEndPos⟩] := by
  rw [← Scan.depth_ofText] at hclosed
  unfold segmentSpans
  rw [if_neg (not_not_intro hclosed)]
  cases (Scan.ofText s).cuts with
  | nil => exact ⟨_, _, rfl, rfl⟩
  | cons cut cuts => exact ⟨_, _, rfl, rfl⟩

/-- Texts between two cuts are the segments of what they are put together to. -/
theorem cons_eq_of_segments (hbefore : ∀ d ∈ before, IsSegment d) (hcs : IsSegment cs)
    (hsegments : segments (slashEnded before ++ cs) = some (first, rest)) :
    first :: rest = before ++ [cs] := by
  obtain ⟨f, r, htexts⟩ := List.exists_cons_of_ne_nil
    (List.append_ne_nil_of_right_ne_nil before (List.cons_ne_nil cs []))
  have hjoined : slashEnded before ++ cs = ['/'].intercalate (f :: r) := by
    rw [← htexts, intercalate_append_cons, slashed, List.flatMap_nil, List.append_nil]
  have hwhole : ∀ d ∈ f :: r, IsSegment d := by
    rw [← htexts, List.forall_mem_append, List.forall_mem_singleton]
    exact ⟨hbefore, hcs⟩
  rw [segments_eq_some_iff.2 ⟨hjoined, hwhole⟩] at hsegments
  cases hsegments
  exact htexts.symm

/-- The spans are where the segments stand in the text. -/
theorem segmentSpans_of_segments (hsegments : segments s.toList = some (first, rest)) :
    ∃ span spans, segmentSpans s = .ok (span, spans) ∧
      span :: spans = placed [] (first :: rest) := by
  obtain ⟨hjoined, hwhole⟩ := segments_eq_some_iff.1 hsegments
  have hclosed : openBraces s.toList = 0 := openBraces_eq_zero_of_isSegment hjoined hwhole
  obtain ⟨before, current, htracks, hs⟩ := Scan.exists_tracks_ofText s
  have hcurrent : IsSegment current := htracks.isSegment ((Scan.depth_ofText s).trans hclosed)
  have hlast : Span.mk (Scan.ofText s).start s.rawEndPos = .after (slashEnded before) current := by
    rw [htracks.start_eq, Span.after, ← String.utf8Len_append, ← hs, String.utf8Len_toList]
    rfl
  rw [hs] at hsegments
  obtain ⟨span, spans, hspans, hcuts⟩ := exists_segmentSpans hclosed
  refine ⟨span, spans, hspans, ?_⟩
  rw [hcuts, htracks.cuts_eq, hlast, cons_eq_of_segments htracks.are_segments hcurrent hsegments,
    placed_concat, List.nil_append]

/-- Paths are read from the segments of a text as a list of characters. -/
theorem ItemPath.parseBody_eq (input : String) (body : List Char)
    (assemble : Step → List Step → ItemPath) :
    parseBody input body assemble =
      match segments body with
      | none => .error (.ofSyntax (String.ofList body) .unterminatedUri)
      | some (first, rest) => do
        let first ← PathElement.parse input first
        let rest ← rest.mapM (PathElement.parse input)
        return assemble first rest := by
  have hbody : (String.ofList body).toList = body := String.toList_ofList
  unfold parseBody
  dsimp only
  cases hsegments : segments body with
  | none =>
    have hopen := segments_eq_none_iff.1 hsegments
    rw [← hbody] at hopen
    rw [segmentSpans_of_open hopen]
    rfl
  | some cut =>
    obtain ⟨first, rest⟩ := cut
    have hjoined := (segments_eq_some_iff.1 hsegments).1
    rw [← hbody] at hsegments
    obtain ⟨span, spans, hspans, hplaced⟩ := segmentSpans_of_segments hsegments
    have hchars : (placed [] (first :: rest)).map (·.chars (String.ofList body)) = first :: rest :=
      map_chars_placed (hbody.trans hjoined)
    rw [← hplaced, List.map_cons, List.cons.injEq] at hchars
    obtain ⟨rfl, rfl⟩ := hchars
    simp only [hspans, List.mapM_map]
    rfl

end Segments

end Observation

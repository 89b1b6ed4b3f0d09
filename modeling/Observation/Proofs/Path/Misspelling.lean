import Observation.Proofs.Path.Text

/-!
# Texts that are no path

Braces that stay open are at fault before anything else in a text, and then it is the first segment
at fault that counts, whatever comes after it.  In a segment an index is looked at before the name.

* `SegmentFault` - what is wrong with a segment.
* `ItemPath.bodyOf`, `ItemPath.Misspells` - a text without the slash at its start, and what is wrong
  with the text.
* `ItemPath.parse_eq_error_iff` - the error for a text that is no path.
* `ItemPath.parse_misspelled` - errors quote the whole text, unless braces stay open after a slash.
-/

namespace Observation

/-! ## Segments -/

/-- What is wrong with a segment of the text `input`: it is empty, ends in an index that is none, or
has a name that is none before its index or without one. -/
inductive SegmentFault (input : String) : List Char → PathError → Prop
  | empty : SegmentFault input [] (.ofSyntax input .emptySegment)
  | unbalanced {segment inner : List Char} (hsegment : segment = inner ++ [']'])
      (hopen : '[' ∉ inner) :
      SegmentFault input segment (.ofSyntax input (.unbalancedIndex (String.ofList segment)))
  | index {segment name index : List Char} (hsegment : segment = name ++ '[' :: (index ++ [']']))
      (hopen : '[' ∉ index) (hindex : ∀ w : IndexSpelling, w.chars ≠ index) :
      SegmentFault input segment (.ofSyntax input (.invalidIndex (String.ofList segment)))
  | indexed {segment name : List Char} {index : IndexSpelling} {error : NameError}
      (hsegment : segment = name ++ '[' :: (index.chars ++ [']']))
      (hname : QualifiedName.parse (String.ofList name) = .error error) :
      SegmentFault input segment (.name error)
  | named {segment : List Char} {error : NameError} (hempty : segment ≠ [])
      (hsteps : segment ≠ ['.'] ∧ segment ≠ ['.', '.'])
      (hclose : ∀ front, segment ≠ front ++ [']'])
      (hname : QualifiedName.parse (String.ofList segment) = .error error) :
      SegmentFault input segment (.name error)

namespace PathElement

variable {input : String} {segment : List Char} {error : PathError}

/-- A segment with brackets at its end is none of the steps without a name. -/
theorem ne_of_splitIndex_ne (h : splitIndex segment ≠ .absent) :
    segment ≠ [] ∧ segment ≠ ['.'] ∧ segment ≠ ['.', '.'] := by
  refine ⟨?_, ?_, ?_⟩ <;>
  · rintro rfl
    exact h rfl

theorem parse_of_fault (h : SegmentFault input segment error) :
    parse input segment = .error error := by
  cases h with
  | empty => rfl
  | @unbalanced _ inner hsegment hopen =>
    have hsplit : splitIndex segment = .unbalanced := hsegment ▸ splitIndex_unbalanced hopen
    obtain ⟨hempty, hhere, hup⟩ := ne_of_splitIndex_ne (by rw [hsplit]; nofun)
    unfold parse
    rw [if_neg hempty, if_neg hhere, if_neg hup, hsplit]
  | @index _ name index hsegment hopen hindex =>
    have hsplit : splitIndex segment = .present name index := hsegment ▸ splitIndex_present hopen
    obtain ⟨hempty, hhere, hup⟩ := ne_of_splitIndex_ne (by rw [hsplit]; nofun)
    unfold parse
    rw [if_neg hempty, if_neg hhere, if_neg hup, hsplit]
    dsimp only
    split
    · rfl
    · next i hi =>
      obtain ⟨w, hw, -⟩ := readIndex_iff_spelling.1 hi
      exact absurd hw (hindex w)
  | @indexed _ name index error hsegment hname =>
    have hopen : '[' ∉ index.chars := IndexSpelling.notMem_chars (by decide) (by decide)
    have hsplit : splitIndex segment = .present name index.chars :=
      hsegment ▸ splitIndex_present hopen
    have hread : readIndex index.chars = some index.value :=
      readIndex_iff_spelling.2 ⟨index, rfl, rfl⟩
    obtain ⟨hempty, hhere, hup⟩ := ne_of_splitIndex_ne (by rw [hsplit]; nofun)
    unfold parse
    rw [if_neg hempty, if_neg hhere, if_neg hup, hsplit]
    dsimp only
    split
    · next h => rw [hread] at h; cases h
    · simp only [hname]
  | named hempty hsteps hclose hname =>
    unfold parse
    rw [if_neg hempty, if_neg hsteps.1, if_neg hsteps.2, splitIndex_absent hclose]
    simp only [hname]

/-- A segment is at fault if it is no spelling of a step. -/
theorem exists_fault (h : ∀ w : SegmentSpelling, w.chars ≠ segment) :
    ∃ error, SegmentFault input segment error := by
  by_cases hempty : segment = []
  · subst hempty
    exact ⟨_, .empty⟩
  rcases splitIndex_cases segment with hclose | ⟨inner, hsegment, hopen⟩ | ⟨name, index, rfl, hopen⟩
  · have hsteps : segment ≠ ['.'] ∧ segment ≠ ['.', '.'] :=
      ⟨fun heq => h .here heq.symm, fun heq => h .up heq.symm⟩
    have hname : ∀ n, QualifiedName.parse (String.ofList segment) ≠ .ok n := by
      intro n hn
      obtain ⟨w, hw, -⟩ := QualifiedName.parse_eq_ok_iff.1 hn
      exact h (.named w none) (hw.trans String.toList_ofList)
    obtain ⟨error, herror⟩ := Except.exists_eq_error hname
    exact ⟨_, .named hempty hsteps hclose herror⟩
  · exact ⟨_, .unbalanced hsegment hopen⟩
  · by_cases hindex : ∃ w : IndexSpelling, w.chars = index
    · obtain ⟨i, rfl⟩ := hindex
      have hname : ∀ n, QualifiedName.parse (String.ofList name) ≠ .ok n := by
        intro n hn
        obtain ⟨w, hw, -⟩ := QualifiedName.parse_eq_ok_iff.1 hn
        refine h (.named w (some i)) ?_
        rw [SegmentSpelling.chars, hw, String.toList_ofList]
      obtain ⟨error, herror⟩ := Except.exists_eq_error hname
      exact ⟨_, .indexed rfl herror⟩
    · exact ⟨_, .index rfl hopen (not_exists.1 hindex)⟩

/-- The error for a segment says what is wrong with it. -/
theorem parse_eq_error_iff :
    parse input segment = .error error ↔ SegmentFault input segment error := by
  constructor
  · intro h
    by_cases hspelled : ∃ w : SegmentSpelling, w.chars = segment
    · obtain ⟨w, hw⟩ := hspelled
      rw [parse_eq_ok_iff.2 ⟨w, hw, rfl⟩] at h
      cases h
    · obtain ⟨error', hfault⟩ : ∃ error', SegmentFault input segment error' :=
        exists_fault (not_exists.1 hspelled)
      have herror := parse_of_fault hfault
      rw [h] at herror
      cases herror
      exact hfault
  · exact parse_of_fault

theorem exists_parse_eq_ok_iff :
    (∃ s, parse input segment = .ok s) ↔ ∃ w : SegmentSpelling, w.chars = segment := by
  simp only [parse_eq_ok_iff]
  constructor
  · rintro ⟨s, w, hw, -⟩
    exact ⟨w, hw⟩
  · rintro ⟨w, hw⟩
    exact ⟨w.step, w, hw, rfl⟩

end PathElement

/-! ## Texts -/

namespace ItemPath

/-- The text without the slash at its start, if there is one. -/
def bodyOf (s : String) : List Char :=
  match s.toList with
  | '/' :: body => body
  | body => body

/-- What is wrong with a text, where `quoted` is quoted if braces stay open in it: that they do, or
else what is wrong with the first of its segments that is no spelling of a step. -/
inductive Misspells (quoted s : String) : PathError → Prop
  | unterminated (hopen : openBraces (bodyOf s) ≠ 0) :
      Misspells quoted s (.unreadable quoted "unterminated namespace URI")
  | segment {before after : List (List Char)} {segment : List Char} {error : PathError}
      (hclosed : openBraces (bodyOf s) = 0)
      (hcut : bodyOf s = ['/'].intercalate (before ++ segment :: after))
      (hsegments : ∀ cs ∈ before ++ segment :: after, IsSegment cs)
      (hbefore : ∀ cs ∈ before, ∃ w : SegmentSpelling, w.chars = cs)
      (hfault : SegmentFault s segment error) : Misspells quoted s error

section Parse

variable {input s quoted quoted' : String} {body : List Char} {error : PathError}

theorem parseBody_eq_error_iff {assemble : Step → List Step → ItemPath} :
    parseBody input body assemble = .error error ↔
      segments body = none ∧ error = .ofSyntax (String.ofList body) .unterminatedUri ∨
      ∃ first rest, segments body = some (first, rest) ∧
        (first :: rest).mapM (PathElement.parse input) = .error error := by
  rw [parseBody_eq]
  cases segments body with
  | none => simp [eq_comm]
  | some cut =>
    obtain ⟨first, rest⟩ := cut
    simp only [List.mapM_cons, Except.bind_eq_error_iff]
    simp [pure, Except.pure]

theorem bodyOf_of_slash (hs : s.toList = '/' :: body) : bodyOf s = body := by
  rw [bodyOf, hs]
  rfl

theorem bodyOf_of_no_slash (hs : ∀ body, s.toList ≠ '/' :: body) : bodyOf s = s.toList := by
  unfold bodyOf
  split
  · next body h => exact absurd h (hs body)
  · rfl

/-- A text is read as steps, after the slash at its start if there is one. -/
theorem exists_parseBody (hempty : s ≠ "") (hroot : s ≠ "/") :
    ∃ assemble, parse s = parseBody s (bodyOf s) assemble := by
  have hne : s.toList ≠ [] := fun h => hempty (String.toList_inj.1 h)
  by_cases hslash : ∃ body, s.toList = '/' :: body
  · obtain ⟨body, hs⟩ := hslash
    have hbody : body ≠ [] := by
      rintro rfl
      exact hroot (String.toList_inj.1 hs)
    refine ⟨ofRoot, ?_⟩
    rw [parse_of_slash hs hbody, bodyOf_of_slash hs]
  · refine ⟨ofStep, ?_⟩
    rw [parse_of_no_slash hne (not_exists.1 hslash), bodyOf_of_no_slash (not_exists.1 hslash)]

/-- The error for a text says what is wrong with it, and quotes what comes after the slash at its
start if braces stay open. -/
theorem parse_eq_error_iff (hempty : s ≠ "") (hroot : s ≠ "/") :
    parse s = .error error ↔ Misspells (String.ofList (bodyOf s)) s error := by
  obtain ⟨assemble, hparse⟩ := exists_parseBody hempty hroot
  rw [hparse, parseBody_eq_error_iff, segments_eq_none_iff]
  simp only [segments_eq_some_iff, Except.mapM_eq_error_iff, PathElement.parse_eq_error_iff,
    PathElement.exists_parse_eq_ok_iff]
  constructor
  · rintro (⟨hopen, rfl⟩ |
      ⟨first, rest, ⟨hcut, hsegments⟩, before, segment, after, hparts, hbefore, hfault⟩)
    · exact .unterminated hopen
    · have hclosed := openBraces_eq_zero_of_isSegment hcut hsegments
      rw [hparts] at hcut hsegments
      exact .segment hclosed hcut hsegments hbefore hfault
  · intro h
    cases h with
    | unterminated hopen => exact .inl ⟨hopen, rfl⟩
    | @segment before after segment error hclosed hcut hsegments hbefore hfault =>
      obtain ⟨first, rest, hparts⟩ := List.exists_cons_of_ne_nil
        (List.append_ne_nil_of_right_ne_nil before (List.cons_ne_nil segment after))
      rw [hparts] at hcut hsegments
      exact .inr ⟨first, rest, ⟨hcut, hsegments⟩, before, segment, after, hparts.symm, hbefore,
        hfault⟩

/-- What is wrong with a text depends on what is quoted only if braces stay open in it. -/
theorem Misspells.congr_quoted (hclosed : openBraces (bodyOf s) = 0)
    (h : Misspells quoted s error) : Misspells quoted' s error := by
  cases h with
  | unterminated hopen => exact absurd hclosed hopen
  | segment hclosed hcut hsegments hbefore hfault =>
    exact .segment hclosed hcut hsegments hbefore hfault

/-- A text that is neither empty nor the root alone is refused for what is wrong with it.  It is
quoted in the error as a whole, unless it starts with a slash and braces stay open in it: then the
slash is left out. -/
theorem parse_misspelled (hempty : s ≠ "") (hroot : s ≠ "/") :
    (∀ error, parse s = .error error ↔ Misspells (String.ofList (bodyOf s)) s error) ∧
    ((∀ error, parse s = .error error ↔ Misspells s s error) ↔
      ¬((∃ body, s.toList = '/' :: body) ∧ openBraces (bodyOf s) ≠ 0)) := by
  have hparse (error : PathError) :
      parse s = .error error ↔ Misspells (String.ofList (bodyOf s)) s error :=
    parse_eq_error_iff hempty hroot
  refine ⟨hparse, ?_, ?_⟩
  · rintro hwhole ⟨⟨body, hs⟩, hopen⟩
    have hquoted := (hwhole _).2 (.unterminated hopen)
    rw [(hparse _).2 (.unterminated hopen), bodyOf_of_slash hs] at hquoted
    simp only [Except.error.injEq, PathError.unreadable.injEq, and_true] at hquoted
    have hlength := congrArg List.length hs
    rw [← hquoted, String.toList_ofList, List.length_cons] at hlength
    omega
  · intro hnot error
    rw [hparse]
    by_cases hopen : openBraces (bodyOf s) = 0
    · exact ⟨.congr_quoted hopen, .congr_quoted hopen⟩
    · have hslash : ∀ body, s.toList ≠ '/' :: body := fun body hs => hnot ⟨⟨body, hs⟩, hopen⟩
      rw [bodyOf_of_no_slash hslash, String.ofList_toList]

/-- The empty segment of `/.//[0]` is at fault before the index after it. -/
theorem parse_misspelled_empty_segment :
    "/.//[0]" ≠ "" ∧ "/.//[0]" ≠ "/" ∧
      parse "/.//[0]" = .error (.ofSyntax "/.//[0]" .emptySegment) := by
  have hempty : "/.//[0]" ≠ "" := by decide
  have hroot : "/.//[0]" ≠ "/" := by decide
  refine ⟨hempty, hroot, ((parse_misspelled hempty hroot).1 _).2 ?_⟩
  have hcuts : segments (bodyOf "/.//[0]") = some (['.'], [[], ['[', '0', ']']]) := by decide
  obtain ⟨hcut, hsegments⟩ := segments_eq_some_iff.1 hcuts
  have hbefore : ∀ cs ∈ [['.']], ∃ w : SegmentSpelling, w.chars = cs :=
    List.forall_mem_singleton.2 ⟨.here, rfl⟩
  exact .segment (by decide) hcut hsegments hbefore .empty

/-- The slash before an open brace is not quoted in the error. -/
theorem parse_slash_unterminated :
    Misspells "/\x7ba" "/\x7ba" (.unreadable "/\x7ba" "unterminated namespace URI") ∧
    parse "/\x7ba" = .error (.unreadable "\x7ba" "unterminated namespace URI") ∧
    parse "/\x7ba" ≠ .error (.unreadable "/\x7ba" "unterminated namespace URI") := by
  have hparse : parse "/\x7ba" = .error (.unreadable "\x7ba" "unterminated namespace URI") := by
    decide
  refine ⟨.unterminated (by decide), hparse, ?_⟩
  rw [hparse]
  decide

end Parse

end ItemPath

end Observation

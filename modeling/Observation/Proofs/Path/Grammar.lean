import Observation.Proofs.Path.Scan
import Observation.Proofs.Path.Segment

/-!
# How paths are written

A path is a slash alone, or steps with slashes between them that another slash may precede.  The
slashes in the braces of a name do not count.

* `PathSpelling` - a way to write a path: `PathSpelling.chars` is what is written, and
  `PathSpelling.path` what it stands for.
* `Whole` - the texts that no cut at slashes breaks; the spellings of steps are among them.
* `PathSpelling.chars_injective` - a text is written in one way at most.
* `ItemPath.parse_eq_ok_iff` - reading a text gives the path that it is a spelling of.
* `ItemPath.parse_unambiguous` - both facts together.
-/

namespace Observation

/-! ## Spellings -/

/-- A way to write a path: a slash alone, or steps. -/
inductive PathSpelling where
  | root
  | steps (absolute : Bool) (first : SegmentSpelling) (rest : List SegmentSpelling)

namespace PathSpelling

/-- What is written; an absolute path starts with a slash. -/
def chars : PathSpelling → List Char
  | root => ['/']
  | steps true first rest => '/' :: slashed first.chars (rest.map SegmentSpelling.chars)
  | steps false first rest => slashed first.chars (rest.map SegmentSpelling.chars)

theorem isStep_of_mem {ws : List SegmentSpelling} {e : PathElement}
    (h : e ∈ ws.map SegmentSpelling.element) : IsStep e := by
  obtain ⟨w, -, rfl⟩ := List.mem_map.1 h
  exact w.isStep_element

/-- What a spelling stands for: the root alone, or an element for each step after the root or
without it. -/
def path : PathSpelling → ItemPath
  | root => .root
  | steps true first rest =>
    .absolute ((first :: rest).map SegmentSpelling.element) fun _ => isStep_of_mem
  | steps false first rest =>
    .relative first.element (rest.map SegmentSpelling.element) first.isStep_element.2
      fun _ => isStep_of_mem

end PathSpelling

/-! ## Cutting at slashes -/

theorem segmentsFrom_slash (cs : List Char) :
    segmentsFrom 0 ('/' :: cs) = (segmentsFrom 0 cs).map fun s => ([], s.1 :: s.2) := by
  rw [segmentsFrom, if_pos ⟨rfl, rfl⟩]

/-- A text without braces stays whole, if it holds no slash or lies within braces. -/
theorem segmentsFrom_append {depth : Nat} {cs : List Char}
    (h : ∀ c ∈ cs, isBrace c = false ∧ (c = '/' → depth ≠ 0)) (rest : List Char) :
    segmentsFrom depth (cs ++ rest) =
      (segmentsFrom depth rest).map fun s => (cs ++ s.1, s.2) := by
  induction cs with
  | nil => simp
  | cons c cs ih =>
    obtain ⟨⟨hbrace, hslash⟩, hcs⟩ := List.forall_mem_cons.1 h
    have hdepth : braceDepth depth c = depth := by
      unfold isBrace at hbrace
      rw [Bool.or_eq_false_iff, beq_eq_false_iff_ne, beq_eq_false_iff_ne] at hbrace
      rw [braceDepth, if_neg hbrace.1, if_neg hbrace.2]
    rw [List.cons_append, segmentsFrom, if_neg (fun hc => hslash hc.1 hc.2), hdepth, ih hcs,
      Option.map_map]
    rfl

/-- A text that no cut breaks, whatever follows it. -/
def Whole (cs : List Char) : Prop :=
  ∀ rest, segmentsFrom 0 (cs ++ rest) = (segmentsFrom 0 rest).map fun s => (cs ++ s.1, s.2)

theorem Whole.append {cs ds : List Char} (hc : Whole cs) (hd : Whole ds) : Whole (cs ++ ds) := by
  intro rest
  rw [List.append_assoc, hc, hd, Option.map_map]
  congr 1
  funext s
  simp

theorem whole_of_plain {cs : List Char} (h : ∀ c ∈ cs, isBrace c = false ∧ c ≠ '/') :
    Whole cs :=
  segmentsFrom_append fun c hc => ⟨(h c hc).1, fun hs => absurd hs (h c hc).2⟩

/-- Braces protect whatever other characters stand between them. -/
theorem whole_of_braces {cs : List Char} (h : ∀ c ∈ cs, isBrace c = false) :
    Whole ('{' :: (cs ++ ['}'])) := by
  intro rest
  have hinner := segmentsFrom_append (fun c hc => ⟨h c hc, fun _ => Nat.one_ne_zero⟩) ('}' :: rest)
  rw [segmentsFrom, if_neg (by decide)] at hinner
  rw [List.cons_append, segmentsFrom, if_neg (by decide), List.append_assoc, List.singleton_append]
  rw [show braceDepth 0 '{' = 1 from rfl, hinner, show braceDepth 1 '}' = 0 from rfl,
    Option.map_map, Option.map_map]
  congr 1
  funext s
  simp

theorem NameSpelling.whole_chars (w : NameSpelling) : Whole w.chars := by
  have hplain {localName : String} (h : ValidLocalName localName) : Whole localName.toList := by
    refine whole_of_plain fun c hc => ⟨?_, ?_⟩
    · unfold isBrace
      rw [Bool.or_eq_false_iff, beq_eq_false_iff_ne, beq_eq_false_iff_ne]
      constructor
      · rintro rfl
        exact h.notMem (by decide) hc
      · rintro rfl
        exact h.notMem (by decide) hc
    · rintro rfl
      exact h.notMem (by decide) hc
  cases w with
  | bare localName valid => exact hplain valid
  | braced uri localName valid_uri valid_local =>
    have := (whole_of_braces valid_uri).append (hplain valid_local)
    simpa [chars] using this

theorem IndexSpelling.whole_chars (w : IndexSpelling) :
    Whole ('[' :: (w.chars ++ [']'])) := by
  refine whole_of_plain fun c hc => ?_
  simp only [List.mem_cons, List.mem_append, List.not_mem_nil, or_false] at hc
  rcases hc with rfl | hc | rfl
  · decide
  · have notMem {d : Char} (hplus : d ≠ '+') (hdigit : Text.isDigit d = false) : c ≠ d := by
      rintro rfl
      exact notMem_chars hplus hdigit hc
    unfold isBrace
    rw [Bool.or_eq_false_iff, beq_eq_false_iff_ne, beq_eq_false_iff_ne]
    exact ⟨⟨notMem (by decide) (by decide), notMem (by decide) (by decide)⟩,
      notMem (by decide) (by decide)⟩
  · decide

namespace SegmentSpelling

theorem whole_chars (w : SegmentSpelling) : Whole w.chars := by
  cases w with
  | here => exact whole_of_plain (by simp [chars, isBrace])
  | up => exact whole_of_plain (by simp [chars, isBrace])
  | named name index =>
    cases index with
    | none => exact name.whole_chars
    | some index => exact name.whole_chars.append index.whole_chars

/-- A slash in front would cut a step off that is empty. -/
theorem chars_ne_slash (w : SegmentSpelling) (cs : List Char) : w.chars ≠ '/' :: cs := by
  intro h
  have hw := w.whole_chars []
  rw [h, List.append_nil, segmentsFrom_slash] at hw
  cases hs : segmentsFrom 0 cs with
  | none => rw [hs] at hw; cases hw
  | some s => rw [hs] at hw; cases hw

end SegmentSpelling

/-- Whole texts with slashes between them are cut into these texts. -/
theorem segmentsFrom_slashed {first : List Char} {rest : List (List Char)} (hfirst : Whole first)
    (hrest : ∀ cs ∈ rest, Whole cs) : segmentsFrom 0 (slashed first rest) = some (first, rest) := by
  induction rest generalizing first with
  | nil =>
    rw [slashed, List.flatMap_nil, hfirst]
    simp [segmentsFrom]
  | cons cs rest ih =>
    obtain ⟨hcs, hrest⟩ := List.forall_mem_cons.1 hrest
    rw [slashed, List.flatMap_cons, List.cons_append, hfirst, segmentsFrom_slash, ← slashed,
      ih hcs hrest, Option.map_some, Option.map_some, List.append_nil]

/-- What goes on after another slash is cut by itself. -/
theorem segmentsFrom_slashed_append {first : List Char} {rest : List (List Char)}
    (hfirst : Whole first) (hrest : ∀ cs ∈ rest, Whole cs) (back : List Char) :
    segmentsFrom 0 (slashed first rest ++ '/' :: back) =
      (segmentsFrom 0 back).map fun s => (first, rest ++ s.1 :: s.2) := by
  induction rest generalizing first with
  | nil =>
    rw [slashed, List.flatMap_nil, List.append_nil, hfirst, segmentsFrom_slash, Option.map_map]
    simp [Function.comp_def]
  | cons cs rest ih =>
    obtain ⟨hcs, hrest⟩ := List.forall_mem_cons.1 hrest
    rw [slashed, List.flatMap_cons, List.cons_append, ← slashed, List.append_assoc,
      List.cons_append, hfirst, segmentsFrom_slash, ih hcs hrest, Option.map_map, Option.map_map]
    simp [Function.comp_def]

theorem segments_slashed (first : SegmentSpelling) (rest : List SegmentSpelling) :
    segments (slashed first.chars (rest.map SegmentSpelling.chars)) =
      some (first.chars, rest.map SegmentSpelling.chars) :=
  segmentsFrom_slashed first.whole_chars (List.forall_mem_map.2 fun w _ => w.whole_chars)

/-! ## Reading -/

namespace ItemPath

theorem mapM_parse_eq_ok_iff {input : String} {segs : List (List Char)} {steps : List Step} :
    segs.mapM (PathElement.parse input) = .ok steps ↔
      ∃ ws : List SegmentSpelling, ws.map SegmentSpelling.chars = segs ∧
        ws.map SegmentSpelling.step = steps := by
  rw [Except.mapM_eq_ok_iff]
  constructor
  · intro h
    induction h with
    | nil => exact ⟨[], rfl, rfl⟩
    | cons hhead _ ih =>
      obtain ⟨w, rfl, rfl⟩ := PathElement.parse_eq_ok_iff.1 hhead
      obtain ⟨ws, rfl, rfl⟩ := ih
      exact ⟨w :: ws, rfl, rfl⟩
  · rintro ⟨ws, rfl, rfl⟩
    rw [List.forall₂_map_left_iff, List.forall₂_map_right_iff, List.forall₂_same]
    exact fun w _ => PathElement.parse_eq_ok_iff.2 ⟨w, rfl, rfl⟩

/-- The texts that are read as steps between slashes are the spellings of steps with slashes
between them. -/
theorem parseBody_eq_ok_iff {input : String} {body : List Char}
    {assemble : Step → List Step → ItemPath} {p : ItemPath} :
    parseBody input body assemble = .ok p ↔
      ∃ (w : SegmentSpelling) (ws : List SegmentSpelling),
      slashed w.chars (ws.map SegmentSpelling.chars) = body ∧
        assemble w.step (ws.map SegmentSpelling.step) = p := by
  constructor
  · intro h
    rw [parseBody_eq] at h
    split at h
    · cases h
    · next first rest hsegments =>
      simp only [Except.bind_eq_ok_iff, Except.pure_eq_ok_iff] at h
      obtain ⟨f, hf, r, hr, rfl⟩ := h
      obtain ⟨w, rfl, rfl⟩ := PathElement.parse_eq_ok_iff.1 hf
      obtain ⟨ws, rfl, rfl⟩ := mapM_parse_eq_ok_iff.1 hr
      exact ⟨w, ws, (segmentsFrom_eq_some_iff.1 hsegments).1.symm, rfl⟩
  · rintro ⟨w, ws, rfl, rfl⟩
    rw [parseBody_eq, segments_slashed]
    simp only [Except.bind_eq_ok_iff, Except.pure_eq_ok_iff]
    exact ⟨_, PathElement.parse_eq_ok_iff.2 ⟨w, rfl, rfl⟩, _,
      mapM_parse_eq_ok_iff.2 ⟨ws, rfl, rfl⟩, rfl⟩

theorem parse_of_slash {s : String} {body : List Char} (hs : s.toList = '/' :: body)
    (hbody : body ≠ []) : parse s = parseBody s body ofRoot := by
  obtain ⟨c, cs, rfl⟩ := List.exists_cons_of_ne_nil hbody
  unfold parse
  rw [hs]
  rfl

theorem parse_of_no_slash {s : String} (hne : s.toList ≠ [])
    (hs : ∀ body, s.toList ≠ '/' :: body) : parse s = parseBody s s.toList ofStep := by
  unfold parse
  split
  · next h => exact absurd h hne
  · next h => exact absurd h (hs [])
  · next body _ h => exact absurd h (hs body)
  · rfl

theorem slashed_ne_nil (w : SegmentSpelling) (rest : List (List Char)) :
    slashed w.chars rest ≠ [] := by
  unfold slashed
  simp [w.chars_ne_nil]

theorem slashed_ne_slash (w : SegmentSpelling) (rest : List (List Char)) (body : List Char) :
    slashed w.chars rest ≠ '/' :: body := by
  obtain ⟨c, cs, hw⟩ := List.exists_cons_of_ne_nil w.chars_ne_nil
  intro h
  rw [slashed, hw, List.cons_append, List.cons.injEq] at h
  exact w.chars_ne_slash cs (h.1 ▸ hw)

theorem path_absolute (w : SegmentSpelling) (ws : List SegmentSpelling) :
    ofRoot w.step (ws.map SegmentSpelling.step) = (PathSpelling.steps true w ws).path :=
  ext_elements (by simp [ofRoot, absolute, PathSpelling.path, SegmentSpelling.step])

theorem path_relative (w : SegmentSpelling) (ws : List SegmentSpelling) :
    ofStep w.step (ws.map SegmentSpelling.step) = (PathSpelling.steps false w ws).path :=
  ext_elements (by simp [ofStep, relative, PathSpelling.path, SegmentSpelling.step])

theorem parse_spelling (w : PathSpelling) : parse (String.ofList w.chars) = .ok w.path := by
  cases w with
  | root => rfl
  | steps absolute first rest =>
    cases absolute with
    | true =>
      have hne := slashed_ne_nil first (rest.map SegmentSpelling.chars)
      rw [PathSpelling.chars, parse_of_slash String.toList_ofList hne, parseBody_eq_ok_iff]
      exact ⟨first, rest, rfl, path_absolute first rest⟩
    | false =>
      have hne := slashed_ne_nil first (rest.map SegmentSpelling.chars)
      have hslash := slashed_ne_slash first (rest.map SegmentSpelling.chars)
      rw [← String.toList_ofList (l := slashed _ _)] at hne hslash
      rw [PathSpelling.chars, parse_of_no_slash hne hslash, parseBody_eq_ok_iff]
      exact ⟨first, rest, String.toList_ofList.symm, path_relative first rest⟩

theorem exists_spelling_of_parse {s : String} {p : ItemPath} (h : parse s = .ok p) :
    ∃ w : PathSpelling, w.chars = s.toList ∧ w.path = p := by
  by_cases hslash : ∃ body, s.toList = '/' :: body
  · obtain ⟨body, hs⟩ := hslash
    by_cases hbody : body = []
    · subst hbody
      unfold parse at h
      rw [hs] at h
      cases h
      exact ⟨.root, hs.symm, rfl⟩
    · rw [parse_of_slash hs hbody, parseBody_eq_ok_iff] at h
      obtain ⟨w, ws, hw, rfl⟩ := h
      exact ⟨.steps true w ws, by rw [hs, ← hw, PathSpelling.chars], (path_absolute w ws).symm⟩
  · by_cases hne : s.toList = []
    · unfold parse at h
      rw [hne] at h
      cases h
    · rw [parse_of_no_slash hne (not_exists.1 hslash), parseBody_eq_ok_iff] at h
      obtain ⟨w, ws, hw, rfl⟩ := h
      exact ⟨.steps false w ws, hw, (path_relative w ws).symm⟩

/-- The texts that are read as a path are its spellings. -/
theorem parse_eq_ok_iff {s : String} {p : ItemPath} :
    parse s = .ok p ↔ ∃ w : PathSpelling, w.chars = s.toList ∧ w.path = p := by
  constructor
  · exact exists_spelling_of_parse
  · rintro ⟨w, hs, rfl⟩
    rw [← String.ofList_toList (s := s), ← hs, parse_spelling]

end ItemPath

/-! ## Unambiguity -/

namespace PathSpelling

theorem slashed_injective {v w : SegmentSpelling} {vs ws : List SegmentSpelling}
    (h : slashed v.chars (vs.map SegmentSpelling.chars) =
      slashed w.chars (ws.map SegmentSpelling.chars)) : v = w ∧ vs = ws := by
  have hsegments := congrArg segments h
  rw [segments_slashed, segments_slashed, Option.some.injEq, Prod.mk.injEq] at hsegments
  exact ⟨SegmentSpelling.chars_injective hsegments.1,
    List.map_injective_iff.2 SegmentSpelling.chars_injective hsegments.2⟩

/-- A text is a path in one way at most. -/
theorem chars_injective : Function.Injective chars := by
  have hne (w : SegmentSpelling) (ws : List SegmentSpelling) :=
    ItemPath.slashed_ne_nil w (ws.map SegmentSpelling.chars)
  have hslash (w : SegmentSpelling) (ws : List SegmentSpelling) :=
    ItemPath.slashed_ne_slash w (ws.map SegmentSpelling.chars)
  intro v w h
  cases v with
  | root =>
    cases w with
    | root => rfl
    | steps absolute w ws =>
      cases absolute with
      | true => exact absurd (List.cons.inj h).2.symm (hne w ws)
      | false => exact absurd h.symm (hslash w ws _)
  | steps absolute v vs =>
    cases w with
    | root =>
      cases absolute with
      | true => exact absurd (List.cons.inj h).2 (hne v vs)
      | false => exact absurd h (hslash v vs _)
    | steps absolute' w ws =>
      cases absolute <;> cases absolute'
      · obtain ⟨rfl, rfl⟩ := slashed_injective h
        rfl
      · exact absurd h (hslash v vs _)
      · exact absurd h.symm (hslash w ws _)
      · obtain ⟨rfl, rfl⟩ := slashed_injective (List.cons.inj h).2
        rfl

end PathSpelling

/-- Reading a text gives a path exactly if the text is a spelling of that path, and a text is so in
one way only. -/
theorem ItemPath.parse_unambiguous (s : String) :
    (∀ p, parse s = .ok p ↔ ∃ w : PathSpelling, w.chars = s.toList ∧ w.path = p) ∧
      ∀ v w : PathSpelling, v.chars = s.toList → w.chars = s.toList → v = w :=
  ⟨fun _ => parse_eq_ok_iff, fun _ _ hv hw => PathSpelling.chars_injective (hv.trans hw.symm)⟩

end Observation

import Observation.Path.Parse
import Observation.Proofs.Except
import Observation.Proofs.Name

/-!
# How the steps of a path are written

What stands between the slashes of a path is `.`, `..`, or a name that an index in brackets may
follow.

* `IndexSpelling`, `SegmentSpelling` - ways to write an index and a step.
* `SegmentSpelling.chars_injective` - a text is a step in one way at most.
* `PathElement.parse_eq_ok_iff` - reading a segment gives the step that it is a spelling of.
-/

namespace Observation

/-! ## Indexes -/

/-- A way to write an index: digits, perhaps with a plus sign before them. -/
structure IndexSpelling where
  plus : Bool
  digits : List Char
  ne_nil : digits ≠ []
  are_digits : ∀ c ∈ digits, Text.isDigit c = true
  pos : 0 < Text.digitsValue digits
  lt_size : Text.digitsValue digits < UInt32.size

namespace IndexSpelling

/-- What is written. -/
def chars (w : IndexSpelling) : List Char :=
  if w.plus then '+' :: w.digits else w.digits

/-- The index that is meant. -/
def value (w : IndexSpelling) : UInt32 :=
  UInt32.ofNat (Text.digitsValue w.digits)

/-- A sign comes before the digits and is none. -/
theorem chars_injective : Function.Injective chars := by
  rintro ⟨p, ds, hne, hds, hpos, hlt⟩ ⟨q, es, hne', hes, hpos', hlt'⟩ h
  have hplus : Text.isDigit '+' = false := by decide
  unfold chars at h
  cases p <;> cases q
  · cases h
    rfl
  · have := hds '+' (by rw [show ds = '+' :: es from h]; exact List.mem_cons_self)
    rw [hplus] at this
    cases this
  · have := hes '+' (by rw [← show '+' :: ds = es from h]; exact List.mem_cons_self)
    rw [hplus] at this
    cases this
  · cases h
    rfl

theorem mem_chars {w : IndexSpelling} {c : Char} (h : c ∈ w.chars) :
    c = '+' ∨ Text.isDigit c = true := by
  unfold chars at h
  split at h
  · rcases List.mem_cons.1 h with rfl | h
    · exact Or.inl rfl
    · exact Or.inr (w.are_digits c h)
  · exact Or.inr (w.are_digits c h)

theorem notMem_chars {w : IndexSpelling} {c : Char} (hplus : c ≠ '+')
    (hdigit : Text.isDigit c = false) : c ∉ w.chars := by
  intro h
  rcases mem_chars h with h | h
  · exact hplus h
  · rw [hdigit] at h
    cases h

end IndexSpelling

theorem Text.readDigits_eq_some_iff {cs : List Char} {n : Nat} :
    readDigits cs = some n ↔ cs ≠ [] ∧ (∀ c ∈ cs, isDigit c = true) ∧ digitsValue cs = n := by
  unfold readDigits
  rw [← List.all_eq_true, ← and_assoc]
  by_cases h : cs ≠ [] ∧ cs.all isDigit = true
  · rw [if_pos h, Option.some.injEq]
    exact ⟨fun hn => ⟨h, hn⟩, fun hn => hn.2⟩
  · rw [if_neg h]
    exact ⟨nofun, fun hn => absurd hn.1 h⟩

theorem Text.readUnsigned_of_no_plus {cs : List Char} (h : ∀ rest, cs ≠ '+' :: rest) :
    readUnsigned cs = readDigits cs := by
  unfold readUnsigned
  split
  · next rest => exact absurd rfl (h rest)
  · rfl

theorem readIndex_eq_some_iff {cs : List Char} {i : UInt32} :
    readIndex cs = some i ↔
      ∃ n, Text.readUnsigned cs = some n ∧ 0 < n ∧ n < UInt32.size ∧ UInt32.ofNat n = i := by
  unfold readIndex
  cases Text.readUnsigned cs with
  | none => simp
  | some n => simp [and_assoc]

/-- The texts that are read as an index are its spellings. -/
theorem readIndex_iff_spelling {cs : List Char} {i : UInt32} :
    readIndex cs = some i ↔ ∃ w : IndexSpelling, w.chars = cs ∧ w.value = i := by
  rw [readIndex_eq_some_iff]
  constructor
  · rintro ⟨n, hn, hpos, hlt, rfl⟩
    by_cases hplus : ∃ rest, cs = '+' :: rest
    · obtain ⟨rest, rfl⟩ := hplus
      have hrest : Text.readDigits rest = some n := hn
      obtain ⟨hne, hds, rfl⟩ := Text.readDigits_eq_some_iff.1 hrest
      exact ⟨⟨true, rest, hne, hds, hpos, hlt⟩, rfl, rfl⟩
    · rw [Text.readUnsigned_of_no_plus (not_exists.1 hplus), Text.readDigits_eq_some_iff] at hn
      obtain ⟨hne, hds, rfl⟩ := hn
      exact ⟨⟨false, cs, hne, hds, hpos, hlt⟩, rfl, rfl⟩
  · rintro ⟨w, rfl, rfl⟩
    refine ⟨_, ?_, w.pos, w.lt_size, rfl⟩
    have hdigits : Text.readDigits w.digits = some (Text.digitsValue w.digits) :=
      Text.readDigits_eq_some_iff.2 ⟨w.ne_nil, w.are_digits, rfl⟩
    unfold IndexSpelling.chars
    cases w.plus with
    | true => exact hdigits
    | false =>
      have hplus : ∀ rest, w.digits ≠ '+' :: rest := by
        intro rest h
        have := w.are_digits '+' (h ▸ List.mem_cons_self)
        rw [show Text.isDigit '+' = false from by decide] at this
        cases this
      exact (Text.readUnsigned_of_no_plus hplus).trans hdigits

/-! ## Steps -/

/-- A way to write a step of a path. -/
inductive SegmentSpelling where
  | here
  | up
  | named (name : NameSpelling) (index : Option IndexSpelling)

namespace SegmentSpelling

/-- What is written; an index stands in brackets. -/
def chars : SegmentSpelling → List Char
  | here => ['.']
  | up => ['.', '.']
  | named name none => name.chars
  | named name (some index) => name.chars ++ '[' :: (index.chars ++ [']'])

/-- The element that is meant; without an index it is the first of its name. -/
def element : SegmentSpelling → PathElement
  | here => .here
  | up => .up
  | named name none => .named name.name 1
  | named name (some index) => .named name.name index.value

theorem isStep_element (w : SegmentSpelling) : IsStep w.element := by
  cases w with
  | here => exact ⟨nofun, trivial⟩
  | up => exact ⟨nofun, trivial⟩
  | named name index =>
    cases index with
    | none => exact ⟨nofun, show (1 : UInt32) ≠ 0 by decide⟩
    | some index =>
      exact ⟨nofun, readIndex_ne_zero (readIndex_iff_spelling.2 ⟨index, rfl, rfl⟩)⟩

/-- The step that is meant. -/
def step (w : SegmentSpelling) : Step :=
  ⟨w.element, w.isStep_element⟩

end SegmentSpelling

/-- A name ends in a character of its local name. -/
theorem NameSpelling.chars_eq_append (w : NameSpelling) :
    ∃ before localName, w.chars = before ++ localName.toList ∧ ValidLocalName localName := by
  cases w with
  | bare localName valid => exact ⟨[], localName, rfl, valid⟩
  | braced uri localName valid_uri valid_local =>
    exact ⟨'{' :: (uri.toList ++ ['}']), localName, by simp [chars], valid_local⟩

theorem NameSpelling.chars_ne_nil (w : NameSpelling) : w.chars ≠ [] := by
  obtain ⟨before, localName, hw, hlocal⟩ := w.chars_eq_append
  rw [hw]
  simp [hlocal.ne_empty]

theorem NameSpelling.chars_ne_concat (w : NameSpelling) {c : Char} (hc : isReserved c = true)
    (front : List Char) : w.chars ≠ front ++ [c] := by
  obtain ⟨before, localName, hw, hlocal⟩ := w.chars_eq_append
  intro h
  have hne : localName.toList ≠ [] := by simp [hlocal.ne_empty]
  have hlast := congrArg List.getLast? (hw.symm.trans h)
  rw [List.getLast?_append_of_ne_nil _ hne, List.getLast?_concat] at hlast
  exact hlocal.notMem hc (List.mem_of_getLast? hlast)

theorem NameSpelling.chars_ne_here (w : NameSpelling) : w.chars ≠ ['.'] := by
  cases w with
  | bare localName valid => exact fun h => valid.ne_here (String.toList_inj.1 h)
  | braced uri localName valid_uri valid_local => simp [chars]

theorem NameSpelling.chars_ne_up (w : NameSpelling) : w.chars ≠ ['.', '.'] := by
  cases w with
  | bare localName valid => exact fun h => valid.ne_up (String.toList_inj.1 h)
  | braced uri localName valid_uri valid_local => simp [chars]

/-! ## Taking a segment apart -/

theorem splitIndex_absent {segment : List Char} (h : ∀ front, segment ≠ front ++ [']']) :
    splitIndex segment = .absent := by
  unfold splitIndex
  split
  · next inner hr => exact absurd (List.reverse_eq_cons_iff.1 hr) (h _)
  · rfl

theorem splitIndex_unbalanced {inner : List Char} (h : '[' ∉ inner) :
    splitIndex (inner ++ [']']) = .unbalanced := by
  unfold splitIndex
  rw [List.reverse_concat]
  simp only [Text.dropWhile_ne_eq_nil (mt List.mem_reverse.1 h)]

theorem splitIndex_present {name index : List Char} (h : '[' ∉ index) :
    splitIndex (name ++ '[' :: (index ++ [']'])) = .present name index := by
  have hr : (name ++ '[' :: (index ++ [']'])).reverse =
      ']' :: (index.reverse ++ '[' :: name.reverse) := by simp
  have hindex : '[' ∉ index.reverse := mt List.mem_reverse.1 h
  unfold splitIndex
  rw [hr]
  simp only [Text.dropWhile_ne_append hindex, Text.takeWhile_ne_append hindex,
    List.reverse_reverse]

/-- A segment does not end in `]`, or there is no `[` before that, or there is a last one. -/
theorem splitIndex_cases (segment : List Char) :
    (∀ front, segment ≠ front ++ [']']) ∨ (∃ inner, segment = inner ++ [']'] ∧ '[' ∉ inner) ∨
      ∃ name index, segment = name ++ '[' :: (index ++ [']']) ∧ '[' ∉ index := by
  by_cases hclose : ∃ inner, segment = inner ++ [']']
  · obtain ⟨inner, rfl⟩ := hclose
    by_cases hopen : '[' ∈ inner
    · obtain ⟨back, front, hr, hback⟩ := List.eq_append_cons_of_mem (List.mem_reverse.2 hopen)
      have hinner : inner = front.reverse ++ '[' :: back.reverse := by
        rw [← List.reverse_reverse inner, hr]
        simp
      exact .inr (.inr ⟨front.reverse, back.reverse, by simp [hinner], mt List.mem_reverse.1 hback⟩)
    · exact .inr (.inl ⟨inner, rfl, hopen⟩)
  · exact .inl (not_exists.1 hclose)

theorem eq_of_splitIndex {segment name index : List Char}
    (h : splitIndex segment = .present name index) :
    segment = name ++ '[' :: (index ++ [']']) := by
  rcases splitIndex_cases segment with hclose | ⟨inner, rfl, hopen⟩ | ⟨name', index', rfl, hindex⟩
  · rw [splitIndex_absent hclose] at h
    cases h
  · rw [splitIndex_unbalanced hopen] at h
    cases h
  · rw [splitIndex_present hindex] at h
    cases h
    rfl

namespace SegmentSpelling

theorem splitIndex_named (name : NameSpelling) :
    splitIndex (named name none).chars = .absent :=
  splitIndex_absent fun front => name.chars_ne_concat (by decide) front

theorem splitIndex_indexed (name : NameSpelling) (index : IndexSpelling) :
    splitIndex (named name (some index)).chars = .present name.chars index.chars :=
  splitIndex_present (IndexSpelling.notMem_chars (by decide) (by decide))

theorem chars_ne_nil (w : SegmentSpelling) : w.chars ≠ [] := by
  cases w with
  | here => exact List.cons_ne_nil _ _
  | up => exact List.cons_ne_nil _ _
  | named name index =>
    cases index with
    | none => exact name.chars_ne_nil
    | some index => simp [chars]

/-- A text is a step in one way at most. -/
theorem chars_injective : Function.Injective chars := by
  -- Whether an index is split off tells the names apart that have one from all other steps.
  intro v w h
  have hsplit := congrArg splitIndex h
  cases v with
  | here =>
    cases w with
    | here => rfl
    | up => cases h
    | named name index =>
      cases index with
      | none => exact absurd h.symm name.chars_ne_here
      | some index => rw [splitIndex_indexed] at hsplit; cases hsplit
  | up =>
    cases w with
    | here => cases h
    | up => rfl
    | named name index =>
      cases index with
      | none => exact absurd h.symm name.chars_ne_up
      | some index => rw [splitIndex_indexed] at hsplit; cases hsplit
  | named name index =>
    cases index with
    | none =>
      cases w with
      | here => exact absurd h name.chars_ne_here
      | up => exact absurd h name.chars_ne_up
      | named name' index' =>
        cases index' with
        | none => rw [NameSpelling.chars_injective h]
        | some index' => rw [splitIndex_named, splitIndex_indexed] at hsplit; cases hsplit
    | some index =>
      rw [splitIndex_indexed] at hsplit
      cases w with
      | here => cases hsplit
      | up => cases hsplit
      | named name' index' =>
        cases index' with
        | none => rw [splitIndex_named] at hsplit; cases hsplit
        | some index' =>
          rw [splitIndex_indexed, IndexSuffix.present.injEq] at hsplit
          rw [NameSpelling.chars_injective hsplit.1, IndexSpelling.chars_injective hsplit.2]

end SegmentSpelling

/-! ## Reading -/

namespace PathElement

theorem exists_spelling_of_parse {input : String} {segment : List Char} {s : Step}
    (h : parse input segment = .ok s) :
    ∃ w : SegmentSpelling, w.chars = segment ∧ w.step = s := by
  unfold parse at h
  split at h
  · cases h
  split at h
  · next hhere =>
    cases h
    exact ⟨.here, hhere.symm, rfl⟩
  split at h
  · next hup =>
    cases h
    exact ⟨.up, hup.symm, rfl⟩
  split at h
  · cases h
  · split at h
    · cases h
    · next name hname =>
      cases h
      obtain ⟨w, hw, rfl⟩ := QualifiedName.parse_eq_ok_iff.1 hname
      exact ⟨.named w none, hw.trans String.toList_ofList, rfl⟩
  · next name index hsplit =>
    split at h
    · cases h
    · next i hi =>
      split at h
      · cases h
      · next n hname =>
        cases h
        obtain ⟨w, hw, rfl⟩ := QualifiedName.parse_eq_ok_iff.1 hname
        obtain ⟨v, hv, rfl⟩ := readIndex_iff_spelling.1 hi
        refine ⟨.named w (some v), ?_, rfl⟩
        rw [eq_of_splitIndex hsplit, SegmentSpelling.chars, hw, hv, String.toList_ofList]

theorem parse_named (input : String) (w : NameSpelling) :
    parse input w.chars = .ok (SegmentSpelling.named w none).step := by
  have hsplit : splitIndex w.chars = .absent := SegmentSpelling.splitIndex_named w
  unfold parse
  rw [if_neg w.chars_ne_nil, if_neg w.chars_ne_here, if_neg w.chars_ne_up, hsplit]
  simp only [QualifiedName.parse_spelling]
  rfl

theorem parse_indexed (input : String) (w : NameSpelling) (i : IndexSpelling) :
    parse input (w.chars ++ '[' :: (i.chars ++ [']'])) =
      .ok (SegmentSpelling.named w (some i)).step := by
  have hsplit := SegmentSpelling.splitIndex_indexed w i
  have hindex : readIndex i.chars = some i.value := readIndex_iff_spelling.2 ⟨i, rfl, rfl⟩
  rw [SegmentSpelling.chars] at hsplit
  unfold parse
  rw [if_neg (by simp), if_neg (by intro h; rw [h] at hsplit; cases hsplit),
    if_neg (by intro h; rw [h] at hsplit; cases hsplit), hsplit]
  dsimp only
  split
  · next h => rw [hindex] at h; cases h
  · next j h =>
    rw [hindex] at h
    cases h
    simp only [QualifiedName.parse_spelling]
    rfl

/-- The segments that are read as a step are its spellings. -/
theorem parse_eq_ok_iff {input : String} {segment : List Char} {s : Step} :
    parse input segment = .ok s ↔ ∃ w : SegmentSpelling, w.chars = segment ∧ w.step = s := by
  constructor
  · exact exists_spelling_of_parse
  · rintro ⟨w, rfl, rfl⟩
    cases w with
    | here => rfl
    | up => rfl
    | named name index =>
      cases index with
      | none => exact parse_named input name
      | some index => exact parse_indexed input name index

end PathElement

end Observation

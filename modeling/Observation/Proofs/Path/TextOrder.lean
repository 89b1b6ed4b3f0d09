import Observation.Proofs.Path.Order
import Observation.Proofs.Path.Text

/-!
# The order of the tree in texts

A path lies below another one if its text goes on with a slash where the text of the other one
ends.  Slashes in namespace URIs cannot be taken for that slash: the texts of steps are whole, so
that a text is cut into the same steps whatever follows the slash.

* `slashed_concat_prefix_iff` - a text goes on with a slash after another one if the segments of
  the one go on after those of the other.
* `map_chars_prefix_iff` - the segments of steps determine the steps.
* `ItemPath.chars_eq_slashed` - the text of a path in the tree as segments.
* `ItemPath.isDescendantOf_iff_startsWith` - the order of the tree, read off the texts.
-/

namespace Observation

/-! ## Segments -/

theorem slashed_concat_prefix_iff {front whole : List (List Char)} (hfront : ∀ cs ∈ front, Whole cs)
    (hwhole : ∀ cs ∈ whole, Whole cs) :
    slashed [] front ++ ['/'] <+: slashed [] whole ↔ front <+: whole ∧ front ≠ whole := by
  have hnil : Whole [] := whole_of_plain (by simp)
  constructor
  · rintro ⟨back, hback⟩
    have hcut := segmentsFrom_slashed_append hnil hfront back
    rw [List.append_assoc, List.singleton_append] at hback
    rw [hback, segmentsFrom_slashed hnil hwhole, eq_comm, Option.map_eq_some_iff] at hcut
    obtain ⟨s, -, hs⟩ := hcut
    obtain ⟨-, rfl⟩ := Prod.mk.inj hs
    exact ⟨List.prefix_append _ _, by simp⟩
  · rintro ⟨⟨more, rfl⟩, hne⟩
    cases more with
    | nil => exact absurd (List.append_nil front).symm hne
    | cons cs more => exact ⟨slashed cs more, by simp [slashed]⟩

/-! ## Steps -/

theorem PathElement.whole_chars {e : PathElement} (h : IsStep e) : Whole e.chars := by
  obtain ⟨w, hw, -⟩ := exists_spelling h
  exact hw ▸ w.whole_chars

theorem map_chars_inj {es fs : List PathElement} (hes : ∀ e ∈ es, IsStep e)
    (hfs : ∀ e ∈ fs, IsStep e) :
    es.map PathElement.chars = fs.map PathElement.chars ↔ es = fs := by
  constructor
  · intro h
    obtain ⟨vs, hvs, rfl⟩ := exists_spellings hes
    obtain ⟨ws, hws, rfl⟩ := exists_spellings hfs
    rw [List.map_injective_iff.2 SegmentSpelling.chars_injective (hvs.trans (h.trans hws.symm))]
  · rintro rfl
    rfl

theorem map_chars_prefix_iff {es fs : List PathElement} (hes : ∀ e ∈ es, IsStep e)
    (hfs : ∀ e ∈ fs, IsStep e) :
    es.map PathElement.chars <+: fs.map PathElement.chars ↔ es <+: fs := by
  constructor
  · rintro ⟨rest, hrest⟩
    obtain ⟨front, back, rfl, hfront, -⟩ := List.map_eq_append_iff.1 hrest.symm
    have hsteps : ∀ e ∈ front, IsStep e := fun e he => hfs e (List.mem_append_left back he)
    rw [(map_chars_inj hes hsteps).1 hfront.symm]
    exact List.prefix_append _ _
  · intro h
    exact h.map PathElement.chars

/-! ## Paths -/

namespace ItemPath

variable {p base : ItemPath}

/-- Every step of a path in the tree is written after a slash; the root alone is a slash. -/
theorem chars_eq_slashed (hp : InTree p.elements) (hne : p ≠ root) :
    p.chars = slashed [] (p.elements.tail.map PathElement.chars) := by
  have helements := elements_of_isAbsolute (isCanonical_iff_inTree.2 hp).1
  rw [chars_of_root helements]
  cases htail : p.elements.tail with
  | nil =>
    rw [htail] at helements
    exact absurd (ext_elements helements) hne
  | cons e es =>
    rw [List.map_cons, intercalate_eq_slashed]
    simp [slashed]

theorem isAbove_iff_tail (hp : InTree p.elements) (hbase : InTree base.elements) :
    base.IsAbove p ↔
      base.elements.tail <+: p.elements.tail ∧ base.elements.tail ≠ p.elements.tail := by
  unfold IsAbove
  rw [elements_of_isAbsolute (isCanonical_iff_inTree.2 hp).1,
    elements_of_isAbsolute (isCanonical_iff_inTree.2 hbase).1]
  simp

/-- Away from the root, going on with a slash is going down. -/
theorem concat_prefix_iff_isAbove (hp : InTree p.elements) (hbase : InTree base.elements)
    (hne : base ≠ root) : base.chars ++ ['/'] <+: p.chars ↔ base.IsAbove p := by
  rw [isAbove_iff_tail hp hbase]
  by_cases hroot : p = root
  · subst hroot
    constructor
    · intro h
      -- The slash with which any text in the tree starts leaves no room for a second one.
      have hle := h.length_le
      rw [chars_of_root (elements_of_isAbsolute (isCanonical_iff_inTree.2 hbase).1),
        List.cons_append, List.length_cons, List.length_append] at hle
      simp [root, chars, steps, isAbsolute] at hle
    · rintro ⟨hpre, hne'⟩
      exact absurd (List.prefix_nil.1 hpre) hne'
  · have hwhole (q : ItemPath) : ∀ cs ∈ q.elements.tail.map PathElement.chars, Whole cs :=
      List.forall_mem_map.2 fun e he => PathElement.whole_chars (q.tail_steps e he)
    rw [chars_eq_slashed hbase hne, chars_eq_slashed hp hroot,
      slashed_concat_prefix_iff (hwhole base) (hwhole p),
      map_chars_prefix_iff base.tail_steps p.tail_steps, ne_eq, ne_eq,
      map_chars_inj base.tail_steps p.tail_steps]

theorem startsWith_text_iff {s : String} :
    p.text.startsWith (base.text ++ s) = true ↔ base.chars ++ s.toList <+: p.chars := by
  rw [String.startsWith_string_iff, String.toList_append, text, text, String.toList_ofList,
    String.toList_ofList]

/-- Of two paths in the tree one lies below the root exactly if it is not the root, and below
another path exactly if its text starts with that of the other one and a slash. -/
theorem isDescendantOf_iff_startsWith (hp : InTree p.elements) (hbase : InTree base.elements) :
    p.isDescendantOf base = .ok true ↔ base = root ∧ p ≠ root ∨
      base ≠ root ∧ p.text.startsWith (base.text ++ "/") = true := by
  rw [isDescendantOf_eq_ok_true_iff, ← IsBelow, isBelow_iff, startsWith_text_iff]
  by_cases hroot : base = root
  · subst hroot
    constructor
    · rintro ⟨-, -, habove⟩
      exact .inl ⟨rfl, fun h => habove.2 (h ▸ rfl)⟩
    · rintro (⟨-, hne⟩ | ⟨hne, -⟩)
      · exact ⟨hp, hbase, root_isAbove hp hne⟩
      · exact absurd rfl hne
  · rw [show "/".toList = ['/'] from rfl, concat_prefix_iff_isAbove hp hbase hroot]
    simp [hp, hbase, hroot]

/-- Below `/{a/b[2]}c d` lies `/{a/b[2]}c d/{a/b[2]}c d[2]`, but not `/{a/b[2]}c d[2]`. -/
theorem isDescendantOf_iff_startsWith_slashed :
    let name := slashedName
    let base := root.childAt name 1
    let below := base.childAt name 2
    let beside := root.childAt name 2
    InTree below.elements ∧ InTree beside.elements ∧ InTree base.elements ∧
      below.isDescendantOf base = .ok true ∧ beside.isDescendantOf base ≠ .ok true ∧
      below.text.startsWith (base.text ++ "/") = true ∧
      beside.text.startsWith (base.text ++ "/") = false := by
  intro name base below beside
  have hbase : InTree base.elements := by decide
  have hbelow : InTree below.elements := by decide
  have hbeside : InTree beside.elements := by decide
  have hne : base ≠ root := by decide
  have hdown : below.isDescendantOf base = .ok true := rfl
  have hacross : beside.isDescendantOf base ≠ .ok true := by decide
  refine ⟨hbelow, hbeside, hbase, hdown, hacross, ?_, ?_⟩
  · rcases (isDescendantOf_iff_startsWith hbelow hbase).1 hdown with ⟨h, -⟩ | ⟨-, h⟩
    · exact absurd h hne
    · exact h
  · rw [← Bool.not_eq_true]
    exact fun h => hacross ((isDescendantOf_iff_startsWith hbeside hbase).2 (.inr ⟨hne, h⟩))

end ItemPath

end Observation

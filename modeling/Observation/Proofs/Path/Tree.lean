import Observation.Path.Relation
import Observation.Proofs.Except

/-!
# Paths in the tree

The elements of a path in the tree start at the root and hold neither `.` nor `..`.  Cutting and
comparing paths is said here of their elements alone.

* `InTree` - the lists of elements that belong to paths in the tree.
* `ItemPath.isCanonical_iff_inTree` - the check that paths are cut and compared under.
* `ItemPath.ancestor_eq_ok_iff` - which paths can be cut, and what is left.
* `ItemPath.isDescendantOf_eq_ok_iff` - which paths can be compared, and what the answer is.
* `ItemPath.IsAbove` - one path lies strictly above another one.
-/

namespace Observation

/-- Elements that lead down from the root: it comes first, and there is neither `.` nor `..`. -/
structure InTree (es : List PathElement) : Prop where
  root_first : es.head? = some .root
  here_notMem : PathElement.here ∉ es
  up_notMem : PathElement.up ∉ es

instance (es : List PathElement) : Decidable (InTree es) :=
  decidable_of_iff (es.head? = some .root ∧ PathElement.here ∉ es ∧ PathElement.up ∉ es)
    ⟨fun h => ⟨h.1, h.2.1, h.2.2⟩, fun h => ⟨h.root_first, h.here_notMem, h.up_notMem⟩⟩

namespace ItemPath

theorem isNormalized_iff {p : ItemPath} :
    p.isNormalized = true ↔ PathElement.here ∉ p.elements ∧ PathElement.up ∉ p.elements := by
  unfold isNormalized
  rw [List.all_eq_true]
  constructor
  · intro h
    exact ⟨fun hm => absurd (h _ hm) (by decide), fun hm => absurd (h _ hm) (by decide)⟩
  · rintro ⟨hhere, hup⟩ e he
    cases e with
    | root => rfl
    | here => exact absurd he hhere
    | up => exact absurd he hup
    | named name index => rfl

theorem isCanonical_iff_inTree {p : ItemPath} : p.IsCanonical ↔ InTree p.elements := by
  unfold IsCanonical isAbsolute
  rw [isNormalized_iff, beq_iff_eq]
  constructor
  · rintro ⟨hroot, hhere, hup⟩
    exact ⟨hroot, hhere, hup⟩
  · rintro ⟨hroot, hhere, hup⟩
    exact ⟨hroot, hhere, hup⟩

/-- The elements below the root of a path in the tree are names. -/
theorem isNamed_of_mem_tail {p : ItemPath} (h : InTree p.elements) :
    ∀ e ∈ p.elements.tail, e.isNamed = true := by
  intro e he
  cases e with
  | named name index => rfl
  | root => exact absurd rfl (p.tail_steps _ he).1
  | here => exact absurd (List.mem_of_mem_tail he) h.here_notMem
  | up => exact absurd (List.mem_of_mem_tail he) h.up_notMem

theorem requireCanonical_eq_ok_iff {p : ItemPath} {u : Unit} :
    p.requireCanonical = .ok u ↔ p.IsCanonical := by
  unfold requireCanonical
  rw [← canonicalFault?_eq_none_iff]
  cases p.canonicalFault? <;> simp

/-- A path that is cut is one in the tree and holds names enough; the front of it is left. -/
theorem ancestor_eq_ok_iff {p q : ItemPath} {degree : Nat} :
    p.ancestor degree = .ok q ↔ p.IsCanonical ∧ degree ≤ p.depth ∧
      q.elements = p.elements.take (p.elements.length - degree) := by
  unfold ancestor IsCanonical
  by_cases ha : p.isAbsolute = true
  · by_cases hn : p.isNormalized = true
    · by_cases hd : p.depth < degree
      · simp [ha, hn, hd, Nat.not_le_of_lt hd]
      · have hle : degree ≤ p.depth := Nat.le_of_not_lt hd
        simp only [ha, hn, hd, hle, dite_true, dite_false, if_true, true_and, and_self,
          Except.ok.injEq]
        constructor
        · rintro rfl
          rfl
        · intro h
          exact ext_elements h.symm
    · simp [ha, hn]
  · simp [ha]

theorem exists_ancestor {p : ItemPath} {degree : Nat} (hc : p.IsCanonical)
    (hd : degree ≤ p.depth) : ∃ q, p.ancestor degree = .ok q := by
  unfold ancestor
  rw [dif_pos hc.1, if_pos hc.2, dif_neg (Nat.not_lt_of_le hd)]
  exact ⟨_, rfl⟩

/-- Where a path in the tree stands with respect to another one, from their elements. -/
theorem relationTo_eq_ok_iff {p base : ItemPath} {r : PathRelation} :
    p.relationTo base = .ok r ↔ p.IsCanonical ∧ base.IsCanonical ∧
      r = if p.elements = base.elements then .equal
        else if base.elements <+: p.elements then .descendant else .unrelated := by
  unfold relationTo
  simp only [Except.bind_eq_ok_iff, requireCanonical_eq_ok_iff, List.isPrefixOf_iff_prefix,
    exists_and_left, exists_const]
  refine and_congr_right fun _ => and_congr_right fun _ => ?_
  split
  · exact Except.pure_eq_ok_iff.trans eq_comm
  · split
    · exact Except.pure_eq_ok_iff.trans eq_comm
    · exact Except.pure_eq_ok_iff.trans eq_comm

/-- Two paths can be compared if both are in the tree; the lower one is then strictly longer and
starts with the elements of the other. -/
theorem isDescendantOf_eq_ok_iff {p base : ItemPath} {b : Bool} :
    p.isDescendantOf base = .ok b ↔ p.IsCanonical ∧ base.IsCanonical ∧
      (b = true ↔ base.elements <+: p.elements ∧ base.elements ≠ p.elements) := by
  have hbelow : (if p.elements = base.elements then PathRelation.equal
      else if base.elements <+: p.elements then .descendant else .unrelated) = .descendant ↔
      base.elements <+: p.elements ∧ base.elements ≠ p.elements := by
    by_cases he : p.elements = base.elements
    · simp [he]
    · by_cases hp : base.elements <+: p.elements
      · simp [he, hp, Ne.symm he]
      · simp [he, hp]
  unfold isDescendantOf
  simp only [Except.bind_eq_ok_iff, Except.pure_eq_ok_iff, relationTo_eq_ok_iff]
  rw [← hbelow]
  constructor
  · rintro ⟨r, ⟨hp, hb, rfl⟩, rfl⟩
    exact ⟨hp, hb, beq_iff_eq⟩
  · rintro ⟨hp, hb, h⟩
    exact ⟨_, ⟨hp, hb, rfl⟩, by rw [Bool.eq_iff_iff, h, beq_iff_eq]⟩

end ItemPath

/-! ## Paths above others -/

theorem InTree.of_prefix {es fs : List PathElement} (h : InTree fs) (hne : es ≠ [])
    (hpre : es <+: fs) : InTree es where
  root_first := by
    obtain ⟨rest, rfl⟩ := hpre
    rw [← h.root_first, List.head?_append_of_ne_nil es hne]
  here_notMem hmem := h.here_notMem (hpre.subset hmem)
  up_notMem hmem := h.up_notMem (hpre.subset hmem)

/-- A path lies strictly above another one. -/
def ItemPath.IsAbove (p q : ItemPath) : Prop :=
  p.elements <+: q.elements ∧ p.elements ≠ q.elements

instance (p q : ItemPath) : Decidable (p.IsAbove q) :=
  inferInstanceAs (Decidable (_ ∧ _))

theorem InTree.concat_named {es : List PathElement} (h : InTree es) (name : QualifiedName)
    (index : UInt32) : InTree (es ++ [.named name index]) := by
  refine ⟨?_, ?_, ?_⟩
  · rw [List.head?_append, h.root_first]
    rfl
  · simpa using h.here_notMem
  · simpa using h.up_notMem

theorem ItemPath.elements_child (p : ItemPath) (name : QualifiedName) :
    (p.child name).elements = p.elements ++ [.named name 1] := rfl

theorem ItemPath.isCanonical_child {p : ItemPath} (h : p.IsCanonical) (name : QualifiedName) :
    (p.child name).IsCanonical := by
  rw [isCanonical_iff_inTree] at h ⊢
  exact h.concat_named name 1

theorem ItemPath.isAbove_child (p : ItemPath) (name : QualifiedName) :
    p.IsAbove (p.child name) := by
  refine ⟨List.prefix_append _ _, ?_⟩
  rw [elements_child]
  simp

end Observation

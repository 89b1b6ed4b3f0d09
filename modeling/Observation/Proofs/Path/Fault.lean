import Observation.Proofs.Path.Tree

/-!
# What is wrong with a path outside the tree

A path outside the tree is refused for its start before it is refused for a `.` or `..` in it, and
of two paths that are compared the first one is looked at before the second one.

* `ItemPath.OutOfTree` - the error about a path outside the tree.
* `ItemPath.requireCanonical_eq_error_iff`, `ItemPath.ancestor_eq_error_iff`,
  `ItemPath.isDescendantOf_eq_error_iff` - when paths are refused, and with which error.
-/

namespace Observation.ItemPath

/-- The error about a path outside the tree: it does not start at the root, or else there is a `.`
or `..` in it. -/
inductive OutOfTree (p : ItemPath) : PathError → Prop
  | notAbsolute (hstart : p.elements.head? ≠ some .root) : OutOfTree p (.notAbsolute p.text)
  | notNormalized (hstart : p.elements.head? = some .root)
      (hdots : PathElement.here ∈ p.elements ∨ PathElement.up ∈ p.elements) :
      OutOfTree p (.notNormalized p.text)

section Single

variable {p : ItemPath} {error : PathError}

theorem isAbsolute_iff : p.isAbsolute = true ↔ p.elements.head? = some .root := by
  unfold isAbsolute
  exact beq_iff_eq

theorem isNormalized_eq_false_iff :
    p.isNormalized = false ↔ PathElement.here ∈ p.elements ∨ PathElement.up ∈ p.elements := by
  rw [← Bool.not_eq_true, isNormalized_iff, not_and_or, not_not, not_not]

theorem canonicalFault?_eq_some_iff : p.canonicalFault? = some error ↔ p.OutOfTree error := by
  unfold canonicalFault?
  constructor
  · intro h
    split at h
    · next ha =>
      split at h
      · cases h
      · next hn =>
        cases h
        exact .notNormalized (isAbsolute_iff.1 ha)
          (isNormalized_eq_false_iff.1 (Bool.eq_false_iff.2 hn))
    · next ha =>
      cases h
      exact .notAbsolute fun hstart => ha (isAbsolute_iff.2 hstart)
  · rintro (hstart | ⟨hstart, hdots⟩)
    · rw [if_neg fun ha => hstart (isAbsolute_iff.1 ha)]
    · rw [if_pos (isAbsolute_iff.2 hstart), isNormalized_eq_false_iff.2 hdots]
      rfl

theorem exists_outOfTree_iff : (∃ error, p.OutOfTree error) ↔ ¬p.IsCanonical := by
  rw [← canonicalFault?_eq_none_iff, ← ne_eq, Option.ne_none_iff_exists']
  exact exists_congr fun _ => canonicalFault?_eq_some_iff.symm

theorem OutOfTree.not_isCanonical (h : p.OutOfTree error) : ¬p.IsCanonical :=
  exists_outOfTree_iff.1 ⟨error, h⟩

/-- The error holds the text of the path. -/
theorem OutOfTree.subject (h : p.OutOfTree error) : error.subject = some p.text := by
  cases h <;> rfl

theorem requireCanonical_eq_error_iff : p.requireCanonical = .error error ↔ p.OutOfTree error := by
  rw [← canonicalFault?_eq_some_iff]
  unfold requireCanonical
  cases p.canonicalFault? <;> simp

/-- A path that cannot be cut lies outside the tree, or else holds too few names. -/
theorem ancestor_eq_error_iff {degree : Nat} :
    p.ancestor degree = .error error ↔ p.OutOfTree error ∨
      p.IsCanonical ∧ p.depth < degree ∧ error = .ancestorOutOfRange p.text degree p.depth := by
  rw [← canonicalFault?_eq_some_iff]
  unfold ancestor canonicalFault? IsCanonical
  by_cases ha : p.isAbsolute = true
  · by_cases hn : p.isNormalized = true
    · by_cases hd : p.depth < degree
      · simp [ha, hn, hd, eq_comm]
      · simp [ha, hn, hd]
    · simp [ha, hn]
  · simp [ha]

end Single

section Pair

variable {p base : ItemPath} {error : PathError}

theorem relationTo_eq_error_iff :
    p.relationTo base = .error error ↔
      p.OutOfTree error ∨ p.IsCanonical ∧ base.OutOfTree error := by
  unfold relationTo
  simp only [Except.bind_eq_error_iff, requireCanonical_eq_error_iff, requireCanonical_eq_ok_iff,
    exists_and_left, exists_const]
  -- Paths in the tree are compared without fail.
  refine or_congr_right (and_congr_right fun _ => or_iff_left ?_)
  rintro ⟨-, h⟩
  split at h
  · cases h
  · split at h <;> cases h

theorem isDescendantOf_eq_error_iff :
    p.isDescendantOf base = .error error ↔
      p.OutOfTree error ∨ p.IsCanonical ∧ base.OutOfTree error := by
  unfold isDescendantOf
  rw [Except.bind_eq_error_iff, relationTo_eq_error_iff]
  exact or_iff_left fun ⟨_, _, h⟩ => nomatch h

end Pair

end Observation.ItemPath

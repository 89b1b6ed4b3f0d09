import Observation.Path.Basic

/-!
# Ancestors and descendants

Paths that start at the root and hold neither `.` nor `..` form a tree.  Only such paths are
compared and cut; all others are refused.

* `ItemPath.requireCanonical` - refuses relative paths first, then unresolved ones.
* `ItemPath.ancestor` - a path without its last elements.
* `PathRelation`, `ItemPath.relationTo`, `ItemPath.isDescendantOf` - the order of the tree.
-/

namespace Observation

namespace ItemPath

/-- A path in the tree: absolute, and free of `.` and `..`. -/
def IsCanonical (p : ItemPath) : Prop :=
  p.isAbsolute = true ∧ p.isNormalized = true

instance (p : ItemPath) : Decidable p.IsCanonical :=
  inferInstanceAs (Decidable (_ ∧ _))

/-- Why a path lies outside the tree, if it does. -/
def canonicalFault? (p : ItemPath) : Option PathError :=
  if p.isAbsolute then
    if p.isNormalized then none else some (.notNormalized p.text)
  else some (.notAbsolute p.text)

theorem canonicalFault?_eq_none_iff {p : ItemPath} : p.canonicalFault? = none ↔ p.IsCanonical := by
  unfold canonicalFault? IsCanonical
  cases p.isAbsolute <;> cases p.isNormalized <;> simp

/-- Refuses a path that lies outside the tree. -/
def requireCanonical (p : ItemPath) : Except PathError Unit :=
  match p.canonicalFault? with
  | some fault => .error fault
  | none => .ok ()

theorem elements_of_isAbsolute {p : ItemPath} (h : p.isAbsolute = true) :
    p.elements = .root :: p.elements.tail := by
  obtain ⟨es, hne, _, _⟩ := p
  match es, hne with
  | first :: rest, _ =>
    have hf : first = .root := by simpa [isAbsolute] using h
    subst hf
    rfl

/-- The root is no name, so an absolute path has an element more than it has names. -/
theorem depth_lt_length {p : ItemPath} (h : p.isAbsolute = true) :
    p.depth < p.elements.length := by
  have hle : p.elements.tail.countP PathElement.isNamed ≤ p.elements.tail.length :=
    List.countP_le_length
  rw [depth, elements_of_isAbsolute h, List.countP_cons_of_neg (by decide), List.length_cons]
  omega

/-- A path cut to its first elements, at least one of them. -/
def take (p : ItemPath) (count : Nat) (h : 0 < count) : ItemPath where
  elements := p.elements.take count
  ne_nil := by simp [p.ne_nil]; omega
  head_indexed := by
    obtain ⟨es, hne, hhead, _⟩ := p
    match es, hne, count, h with
    | first :: rest, _, count + 1, _ => simpa using hhead first (by simp)
  tail_steps := by
    obtain ⟨es, hne, _, htail⟩ := p
    match es, hne, count, h with
    | first :: rest, _, count + 1, _ =>
      intro e he
      exact htail e (List.mem_of_mem_take he)

/-- The path that is `degree` elements shorter. -/
def ancestor (p : ItemPath) (degree : Nat) : Except PathError ItemPath :=
  if ha : p.isAbsolute then
    if p.isNormalized then
      if hd : p.depth < degree then .error (.ancestorOutOfRange p.text degree p.depth)
      else .ok (p.take (p.elements.length - degree) (by have := depth_lt_length ha; omega))
    else .error (.notNormalized p.text)
  else .error (.notAbsolute p.text)

end ItemPath

/-- Where a path stands with respect to another one. -/
inductive PathRelation where
  | equal
  | descendant
  | unrelated
  deriving DecidableEq, Repr

namespace ItemPath

/-- Where `p` stands with respect to `base`. -/
def relationTo (p base : ItemPath) : Except PathError PathRelation := do
  p.requireCanonical
  base.requireCanonical
  if p.elements = base.elements then
    return .equal
  else if base.elements.isPrefixOf p.elements then
    return .descendant
  else
    return .unrelated

/-- Whether `p` lies strictly below `base`. -/
def isDescendantOf (p base : ItemPath) : Except PathError Bool :=
  return (← p.relationTo base) == .descendant

end ItemPath

end Observation

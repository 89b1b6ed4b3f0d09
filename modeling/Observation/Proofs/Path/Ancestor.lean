import Mathlib.Data.Nat.PSub
import Observation.Proofs.Path.Fault

/-!
# Cutting paths

A path in the tree is the root with names below it, so it has one element more than it holds names,
and as many of its last elements can be cut off as there are names.

* `ItemPath.ancestor_iff_append` - what is left makes up the path again together with as many
  elements as were cut off.
* `ItemPath.ancestor_ancestor` - cutting twice is cutting once by the sum.
* `ItemPath.down` - a step down to a child; `ItemPath.ancestor_foldl_down` leads back up from any
  number of them.
* `allBut?` - the cut of a list that fails where a machine would count below zero or reach beyond
  the end.
* `ItemPath.ancestor_laws` - all this together.
-/

namespace Observation

/-! ## Cutting lists -/

/-- A list without its last elements, as many of them as `degree` says.  There is no such list if a
number would have to be subtracted from a smaller one, or more be taken than there is. -/
def allBut? (es : List PathElement) (degree : Nat) : Option (List PathElement) :=
  (es.length.psub degree).bind fun count =>
    if count ≤ es.length then some (es.take count) else none

theorem allBut?_append (es below : List PathElement) :
    allBut? (es ++ below) below.length = some es := by
  have hcount : (es ++ below).length.psub below.length = some es.length :=
    Nat.psub_eq_some.2 List.length_append.symm
  have hle : es.length ≤ (es ++ below).length := (List.prefix_append es below).length_le
  rw [allBut?, hcount, Option.bind_some, if_pos hle, List.take_left]

namespace ItemPath

variable {p q r : ItemPath} {a b degree : Nat}

/-! ## Cutting paths in the tree -/

theorem depth_eq_length_tail (h : InTree p.elements) : p.depth = p.elements.tail.length := by
  have hnamed : p.elements.tail.countP PathElement.isNamed = p.elements.tail.length :=
    List.countP_eq_length.2 (isNamed_of_mem_tail h)
  rw [← hnamed, depth, elements_of_isAbsolute (isCanonical_iff_inTree.2 h).1,
    List.countP_cons_of_neg (by decide), List.tail_cons]

theorem length_elements (h : InTree p.elements) : p.elements.length = p.depth + 1 := by
  rw [depth_eq_length_tail h, List.length_tail,
    Nat.sub_add_cancel (List.length_pos_iff.2 p.ne_nil)]

/-- Any path at the front of a path in the tree is in the tree itself. -/
theorem inTree_of_append {below : List PathElement} (h : InTree p.elements)
    (hp : p.elements = q.elements ++ below) : InTree q.elements :=
  h.of_prefix q.ne_nil ⟨below, hp.symm⟩

/-- What is cut off is counted from the end, and at least the root is left. -/
theorem ancestor_iff_append : p.ancestor degree = .ok q ↔
    InTree p.elements ∧ ∃ below, p.elements = q.elements ++ below ∧ below.length = degree := by
  rw [ancestor_eq_ok_iff, isCanonical_iff_inTree]
  refine and_congr_right fun htree => ?_
  have hlength := length_elements htree
  constructor
  · rintro ⟨hle, hq⟩
    refine ⟨p.elements.drop (p.elements.length - degree), ?_, ?_⟩
    · rw [hq, List.take_append_drop]
    · rw [List.length_drop]
      omega
  · rintro ⟨below, hp, rfl⟩
    have hpos : 0 < q.elements.length := List.length_pos_iff.2 q.ne_nil
    have hsum : p.elements.length = q.elements.length + below.length := by
      rw [hp, List.length_append]
    refine ⟨by omega, ?_⟩
    rw [hsum, Nat.add_sub_cancel, hp, List.take_left]

theorem exists_ancestor_iff :
    (∃ q, p.ancestor degree = .ok q) ↔ InTree p.elements ∧ degree ≤ p.depth := by
  rw [← isCanonical_iff_inTree]
  constructor
  · rintro ⟨q, hq⟩
    obtain ⟨hc, hle, -⟩ := ancestor_eq_ok_iff.1 hq
    exact ⟨hc, hle⟩
  · rintro ⟨hc, hle⟩
    exact exists_ancestor hc hle

theorem depth_ancestor (h : p.ancestor degree = .ok q) : q.depth + degree = p.depth := by
  obtain ⟨htree, below, hp, rfl⟩ := ancestor_iff_append.1 h
  have hlength := congrArg List.length hp
  rw [List.length_append, length_elements htree,
    length_elements (inTree_of_append htree hp)] at hlength
  omega

/-- Cutting a path twice is cutting it once, by both degrees together. -/
theorem ancestor_ancestor :
    (p.ancestor a >>= fun q => q.ancestor b) = .ok r ↔ p.ancestor (a + b) = .ok r := by
  rw [Except.bind_eq_ok_iff]
  constructor
  · rintro ⟨q, hq, hr⟩
    obtain ⟨htree, cut, hp, rfl⟩ := ancestor_iff_append.1 hq
    obtain ⟨-, cut', hq', rfl⟩ := ancestor_iff_append.1 hr
    refine ancestor_iff_append.2 ⟨htree, cut' ++ cut, ?_, ?_⟩
    · rw [hp, hq', List.append_assoc]
    · rw [List.length_append, Nat.add_comm]
  · intro h
    obtain ⟨htree, hle⟩ := exists_ancestor_iff.1 ⟨r, h⟩
    obtain ⟨q, hq⟩ := exists_ancestor_iff.2 ⟨htree, Nat.le_of_add_right_le hle⟩
    obtain ⟨-, cut, hp, hcut⟩ := ancestor_iff_append.1 hq
    obtain ⟨-, below, hp', hbelow⟩ := ancestor_iff_append.1 h
    -- Both are fronts of one path, and the one that is cut further is the shorter one.
    have hsum := congrArg List.length (hp.symm.trans hp')
    rw [List.length_append, List.length_append, hcut, hbelow] at hsum
    obtain ⟨rest, hrest⟩ : r.elements <+: q.elements :=
      List.prefix_of_prefix_length_le ⟨below, hp'.symm⟩ ⟨cut, hp.symm⟩ (by omega)
    have hlength := congrArg List.length hrest
    rw [List.length_append] at hlength
    exact ⟨q, hq, ancestor_iff_append.2 ⟨inTree_of_append htree hp, rest, hrest.symm, by omega⟩⟩

/-! ## Going down and up again -/

/-- The path of a child: the one at an index, or the first of its name. -/
def down (p : ItemPath) : QualifiedName × Option UInt32 → ItemPath
  | (name, none) => p.child name
  | (name, some index) => p.childAt name index

theorem elements_down (p : ItemPath) (step : QualifiedName × Option UInt32) :
    ∃ name index, (p.down step).elements = p.elements ++ [.named name index] := by
  obtain ⟨name, index⟩ := step
  cases index with
  | none => exact ⟨name, 1, rfl⟩
  | some index => exact ⟨name, _, rfl⟩

theorem inTree_down (h : InTree p.elements) (step : QualifiedName × Option UInt32) :
    InTree (p.down step).elements := by
  obtain ⟨name, index, hstep⟩ := p.elements_down step
  exact hstep ▸ h.concat_named name index

theorem ancestor_down (h : InTree p.elements) (step : QualifiedName × Option UInt32) :
    (p.down step).ancestor 1 = .ok p := by
  obtain ⟨name, index, hstep⟩ := p.elements_down step
  exact ancestor_iff_append.2 ⟨inTree_down h step, _, hstep, rfl⟩

/-- As many elements up as there were steps down, the path is reached again. -/
theorem ancestor_foldl_down (h : InTree p.elements)
    (steps : List (QualifiedName × Option UInt32)) :
    (steps.foldl down p).ancestor steps.length = .ok p := by
  induction steps generalizing p with
  | nil => exact ancestor_iff_append.2 ⟨h, [], (List.append_nil _).symm, rfl⟩
  | cons step steps ih =>
    have hchild : (steps.foldl down (p.down step)).ancestor steps.length = .ok (p.down step) :=
      ih (inTree_down h step)
    exact ancestor_ancestor.1 (Except.bind_eq_ok_iff.2 ⟨_, hchild, ancestor_down h step⟩)

/-! ## The laws -/

/-- Paths in the tree can be cut by as many elements as they hold names, and no others can be cut.
What is left is in the tree, at the front of the path and shorter by the degree; cutting adds up,
and takes back what was put below a path. -/
theorem ancestor_laws (p : ItemPath) :
    (∀ degree error, p.ancestor degree = .error error ↔ p.OutOfTree error ∨
      InTree p.elements ∧ p.depth < degree ∧
        error = .ancestorOutOfRange p.text degree p.depth) ∧
    (∀ degree, (∃ q, p.ancestor degree = .ok q) ↔ InTree p.elements ∧ degree ≤ p.depth) ∧
    (∀ degree q, p.ancestor degree = .ok q → allBut? p.elements degree = some q.elements ∧
      InTree q.elements ∧ q.depth + degree = p.depth ∧ q.elements <+: p.elements) ∧
    (∀ a b, ((∃ r, (p.ancestor a >>= fun q => q.ancestor b) = .ok r) ↔
        InTree p.elements ∧ a + b ≤ p.depth) ∧
      ∀ r, (p.ancestor a >>= fun q => q.ancestor b) = .ok r → p.ancestor (a + b) = .ok r) ∧
    (InTree p.elements → ∀ steps : List (QualifiedName × Option UInt32),
      (steps.foldl down p).ancestor steps.length = .ok p) := by
  refine ⟨?_, fun _ => exists_ancestor_iff, ?_, ?_, ancestor_foldl_down⟩
  · intro degree error
    rw [← isCanonical_iff_inTree]
    exact ancestor_eq_error_iff
  · intro degree q h
    obtain ⟨htree, below, hp, rfl⟩ := ancestor_iff_append.1 h
    refine ⟨?_, inTree_of_append htree hp, depth_ancestor h, below, hp.symm⟩
    rw [hp, allBut?_append]
  · intro a b
    refine ⟨?_, fun _ => ancestor_ancestor.1⟩
    rw [← exists_ancestor_iff]
    exact exists_congr fun _ => ancestor_ancestor

end ItemPath

end Observation

import Observation.Proofs.Path.Ancestor

/-!
# The order of the tree

One path lies below another one if cutting it leads there.  The comparison of two paths looks at
their elements and cuts neither; it says the same, and it orders the tree.

* `ItemPath.Stands` - where a path stands with respect to another one, said by cutting.
* `ItemPath.exists_ancestor_iff_isAbove`, `ItemPath.relationTo_iff_stands` - cutting and comparing
  agree.
* `ItemPath.IsBelow`, `ItemPath.IsAtOrBelow` - the order, strict or not.
* `ItemPath.relationTo_orders_tree` - which paths are compared, what the answer is, and that it is
  the order of a tree.
-/

namespace Observation.ItemPath

/-! ## Strict beginnings -/

section Above

variable {p q r : ItemPath}

theorem IsAbove.asymm (h : p.IsAbove q) : ¬q.IsAbove p :=
  fun h' => h.2 (h.1.eq_of_length_le h'.1.length_le)

theorem IsAbove.trans (h : p.IsAbove q) (h' : q.IsAbove r) : p.IsAbove r := by
  refine ⟨h.1.trans h'.1, fun heq => ?_⟩
  -- The one in between would be as long as the two ends.
  exact h.2 (h.1.eq_of_length_le (heq ▸ h'.1.length_le))

theorem root_isAbove (hp : InTree p.elements) (hne : p ≠ root) : root.IsAbove p := by
  have helements := elements_of_isAbsolute (isCanonical_iff_inTree.2 hp).1
  exact ⟨⟨p.elements.tail, helements.symm⟩, fun h => hne (ext_elements h.symm)⟩

end Above

/-! ## Cutting and comparing -/

/-- Where a path stands with respect to another one, from what is left of it when it is cut. -/
inductive Stands (p base : ItemPath) : PathRelation → Prop
  | equal (h : p = base) : Stands p base .equal
  | descendant {degree : Nat} (hpos : 1 ≤ degree) (hle : degree ≤ p.depth)
      (hcut : p.ancestor degree = .ok base) : Stands p base .descendant
  | unrelated (hne : p ≠ base)
      (hcut : ∀ degree, 1 ≤ degree → degree ≤ p.depth → p.ancestor degree ≠ .ok base) :
      Stands p base .unrelated

section Compare

variable {p base : ItemPath} {relation : PathRelation}

/-- Cutting a path in the tree leads to the paths above it. -/
theorem exists_ancestor_iff_isAbove (hp : InTree p.elements) :
    (∃ degree, 1 ≤ degree ∧ degree ≤ p.depth ∧ p.ancestor degree = .ok base) ↔
      base.IsAbove p := by
  constructor
  · rintro ⟨degree, hpos, -, hcut⟩
    obtain ⟨-, below, hbelow, hlength⟩ := ancestor_iff_append.1 hcut
    refine ⟨⟨below, hbelow.symm⟩, fun heq => ?_⟩
    rw [heq, List.self_eq_append_right] at hbelow
    rw [hbelow, List.length_nil] at hlength
    omega
  · rintro ⟨⟨below, hbelow⟩, hne⟩
    have hcut : p.ancestor below.length = .ok base :=
      ancestor_iff_append.2 ⟨hp, below, hbelow.symm, rfl⟩
    refine ⟨below.length, List.length_pos_iff.2 ?_, (exists_ancestor_iff.1 ⟨base, hcut⟩).2, hcut⟩
    rintro rfl
    exact hne ((List.append_nil _).symm.trans hbelow)

theorem relationTo_iff_stands : p.relationTo base = .ok relation ↔
    InTree p.elements ∧ InTree base.elements ∧ Stands p base relation := by
  rw [relationTo_eq_ok_iff, isCanonical_iff_inTree, isCanonical_iff_inTree]
  refine and_congr_right fun hp => and_congr_right fun _ => ?_
  have hcut : (∃ degree, 1 ≤ degree ∧ degree ≤ p.depth ∧ p.ancestor degree = .ok base) ↔
      base.IsAbove p := exists_ancestor_iff_isAbove hp
  constructor
  · rintro rfl
    split_ifs with heq hpre
    · exact .equal (ext_elements heq)
    · obtain ⟨degree, hpos, hle, h⟩ := hcut.2 ⟨hpre, Ne.symm heq⟩
      exact .descendant hpos hle h
    · refine .unrelated (fun h => heq (h ▸ rfl)) fun degree hpos hle h => ?_
      exact hpre (hcut.1 ⟨degree, hpos, hle, h⟩).1
  · rintro (heq | ⟨hpos, hle, h⟩ | ⟨hne, h⟩)
    · rw [if_pos (heq ▸ rfl)]
    · obtain ⟨hpre, hne⟩ := hcut.1 ⟨_, hpos, hle, h⟩
      rw [if_neg (Ne.symm hne), if_pos hpre]
    · have heq : p.elements ≠ base.elements := fun heq => hne (ext_elements heq)
      have hpre : ¬base.elements <+: p.elements := by
        intro hpre
        obtain ⟨degree, hpos, hle, hbase⟩ := hcut.2 ⟨hpre, Ne.symm heq⟩
        exact h degree hpos hle hbase
      rw [if_neg heq, if_neg hpre]

theorem exists_relationTo_eq_error_iff :
    (∃ error, p.relationTo base = .error error) ↔
      ¬InTree p.elements ∨ ¬InTree base.elements := by
  simp only [relationTo_eq_error_iff, exists_or, exists_and_left, exists_outOfTree_iff]
  rw [isCanonical_iff_inTree, isCanonical_iff_inTree]
  tauto

theorem isDescendantOf_eq_ok_true_iff :
    p.isDescendantOf base = .ok true ↔ p.relationTo base = .ok .descendant := by
  unfold isDescendantOf
  simp only [Except.bind_eq_ok_iff, Except.pure_eq_ok_iff, beq_iff_eq, exists_eq_right]

end Compare

/-! ## The order -/

/-- A path lies strictly below another one. -/
def IsBelow (p base : ItemPath) : Prop :=
  p.relationTo base = .ok .descendant

/-- A path is another one or lies below it. -/
def IsAtOrBelow (p base : ItemPath) : Prop :=
  p.relationTo base = .ok .equal ∨ p.IsBelow base

section Order

variable {p q r base : ItemPath}

theorem isBelow_iff :
    p.IsBelow base ↔ InTree p.elements ∧ InTree base.elements ∧ base.IsAbove p := by
  unfold IsBelow
  rw [relationTo_iff_stands]
  refine and_congr_right fun hp => and_congr_right fun _ => ?_
  rw [← exists_ancestor_iff_isAbove hp]
  constructor
  · rintro (_ | ⟨hpos, hle, hcut⟩ | _)
    exact ⟨_, hpos, hle, hcut⟩
  · rintro ⟨degree, hpos, hle, hcut⟩
    exact .descendant hpos hle hcut

theorem isAtOrBelow_iff :
    p.IsAtOrBelow base ↔
      InTree p.elements ∧ InTree base.elements ∧ base.elements <+: p.elements := by
  unfold IsAtOrBelow
  rw [isBelow_iff, relationTo_iff_stands]
  constructor
  · rintro (⟨hp, hbase, ⟨rfl⟩⟩ | ⟨hp, hbase, habove⟩)
    · exact ⟨hp, hbase, List.prefix_rfl⟩
    · exact ⟨hp, hbase, habove.1⟩
  · rintro ⟨hp, hbase, hpre⟩
    by_cases heq : p = base
    · exact .inl ⟨hp, hbase, .equal heq⟩
    · exact .inr ⟨hp, hbase, hpre, fun h => heq (ext_elements h.symm)⟩

theorem IsBelow.asymm (h : p.IsBelow q) : ¬q.IsBelow p :=
  fun h' => (isBelow_iff.1 h).2.2.asymm (isBelow_iff.1 h').2.2

theorem IsBelow.trans (h : p.IsBelow q) (h' : q.IsBelow r) : p.IsBelow r := by
  obtain ⟨hp, -, habove⟩ := isBelow_iff.1 h
  obtain ⟨-, hr, habove'⟩ := isBelow_iff.1 h'
  exact isBelow_iff.2 ⟨hp, hr, habove'.trans habove⟩

/-- All that lies above one path lies on one line. -/
theorem IsAtOrBelow.comparable (h : p.IsAtOrBelow q) (h' : p.IsAtOrBelow r) :
    q.IsAtOrBelow r ∨ r.IsAtOrBelow q := by
  obtain ⟨-, hq, hqp⟩ := isAtOrBelow_iff.1 h
  obtain ⟨-, hr, hrp⟩ := isAtOrBelow_iff.1 h'
  rcases List.prefix_or_prefix_of_prefix hqp hrp with hqr | hrq
  · exact .inr (isAtOrBelow_iff.2 ⟨hr, hq, hqr⟩)
  · exact .inl (isAtOrBelow_iff.2 ⟨hq, hr, hrq⟩)

end Order

/-- Paths in the tree are compared, and of two paths the first one out of the tree is the one that
is refused.  The answer is what cutting gives, and it is a strict order with the root on top, in
which all that lies above one path lies on one line. -/
theorem relationTo_orders_tree :
    (∀ p base : ItemPath,
      ((∃ error, p.relationTo base = .error error) ↔
        ¬InTree p.elements ∨ ¬InTree base.elements) ∧
      (∀ error, p.relationTo base = .error error ↔
        p.OutOfTree error ∨ InTree p.elements ∧ base.OutOfTree error) ∧
      (∀ relation, p.relationTo base = .ok relation ↔
        InTree p.elements ∧ InTree base.elements ∧ Stands p base relation) ∧
      (p.isDescendantOf base = .ok true ↔ p.relationTo base = .ok .descendant) ∧
      ∀ error, p.isDescendantOf base = .error error ↔ p.relationTo base = .error error) ∧
    (∀ p : ItemPath, ¬p.IsBelow p) ∧
    (∀ p q : ItemPath, p.IsBelow q → ¬q.IsBelow p) ∧
    (∀ p q r : ItemPath, p.IsBelow q → q.IsBelow r → p.IsBelow r) ∧
    (∀ p : ItemPath, InTree p.elements → p ≠ root → p.IsBelow root) ∧
    ∀ p q r : ItemPath, p.IsAtOrBelow q → p.IsAtOrBelow r →
      q.IsAtOrBelow r ∨ r.IsAtOrBelow q := by
  refine ⟨fun p base => ⟨exists_relationTo_eq_error_iff, ?_, fun _ => relationTo_iff_stands,
    isDescendantOf_eq_ok_true_iff, ?_⟩, ?_, fun _ _ => IsBelow.asymm, fun _ _ _ => IsBelow.trans,
    ?_, fun _ _ _ => IsAtOrBelow.comparable⟩
  · intro error
    rw [relationTo_eq_error_iff, isCanonical_iff_inTree]
  · intro error
    rw [isDescendantOf_eq_error_iff, relationTo_eq_error_iff]
  · intro p h
    exact h.asymm h
  · intro p hp hne
    exact isBelow_iff.2 ⟨hp, by decide, root_isAbove hp hne⟩

end Observation.ItemPath

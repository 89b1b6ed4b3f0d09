import Observation.Name
import Observation.OrderedSet

/-!
# Sets of listed values

The order and repetition of listed values is lost in their set, and nothing else is.  Texts in a set
increase by code point, and names by namespace URI and then by local name.

* `OrderedSet.ofList_eq_ofList_iff`, `OrderedSet.map_ofList_eq_iff` - lists of the same set.
* `OrderedSet.nodup_toList` - a set lists no value twice.
* `QualifiedName.compare_eq_lt_iff` - the order of names.
-/

namespace Observation

namespace OrderedSet

section Lists

variable {α : Type} [Ord α] [Std.TransOrd α] [Std.LawfulEqOrd α] {l m : List α}

/-- Lists of the same values make the same set, and only these do. -/
theorem ofList_eq_ofList_iff : ofList l = ofList m ↔ ∀ a, a ∈ l ↔ a ∈ m := by
  constructor
  · intro h a
    rw [← mem_ofList, h, mem_ofList]
  · intro h
    apply ext_mem
    intro a
    rw [mem_ofList, mem_ofList, h a]

/-- Sets that may be absent are equal if both are, or if both hold the same values. -/
theorem map_ofList_eq_iff {o p : Option (List α)} :
    o.map ofList = p.map ofList ↔ Option.Rel (fun l m => ∀ a, a ∈ l ↔ a ∈ m) o p := by
  cases o with
  | none => cases p <;> simp
  | some l =>
    cases p with
    | none => simp
    | some m => simp [ofList_eq_ofList_iff]

omit [Std.LawfulEqOrd α] in
theorem nodup_toList (s : OrderedSet α) : s.toList.Nodup := by
  refine s.increasing.imp ?_
  intro a b hlt hab
  rw [hab, Std.compare_self] at hlt
  cases hlt

end Lists

/-- Texts in a set increase by code point. -/
theorem pairwise_lt_toList (s : OrderedSet String) : s.toList.Pairwise (· < ·) :=
  s.increasing.imp compareOfLessAndEq_eq_lt.1

end OrderedSet

/-- A name comes before another by its namespace URI, or by its local name if both have the same. -/
theorem QualifiedName.compare_eq_lt_iff {m n : QualifiedName} :
    compare m n = .lt ↔ m.namespaceUri < n.namespaceUri ∨
      m.namespaceUri = n.namespaceUri ∧ m.localName < n.localName := by
  rw [compare_def, Ordering.then_eq_lt, Std.LawfulEqOrd.compare_eq_iff_eq]
  exact or_congr compareOfLessAndEq_eq_lt (and_congr_right' compareOfLessAndEq_eq_lt)

end Observation

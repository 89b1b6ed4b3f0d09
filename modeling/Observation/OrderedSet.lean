/-!
# Finite sets kept in increasing order

`OrderedSet α` holds its members as a list that increases strictly, so a set has one
representation only: equality of sets is equality of lists, and the order in which members were
given, or how often, leaves no trace.

* `OrderedSet.insert`, `OrderedSet.ofList` - building a set.
* `OrderedSet.mem_insert`, `OrderedSet.mem_ofList` - what the members are.
* `OrderedSet.ext_mem` - two sets with the same members are equal.
-/

namespace Observation

/-- A finite set, listed in strictly increasing order. -/
structure OrderedSet (α : Type) [Ord α] where
  toList : List α
  increasing : toList.Pairwise (fun a b => compare a b = .lt)
  deriving DecidableEq

namespace OrderedSet

variable {α : Type} [Ord α]

instance [Repr α] : Repr (OrderedSet α) := ⟨fun s n => reprPrec s.toList n⟩

instance : Membership α (OrderedSet α) := ⟨fun s a => a ∈ s.toList⟩

theorem mem_def {a : α} {s : OrderedSet α} : a ∈ s ↔ a ∈ s.toList := Iff.rfl

instance [DecidableEq α] (a : α) (s : OrderedSet α) : Decidable (a ∈ s) :=
  inferInstanceAs (Decidable (a ∈ s.toList))

/-- Puts a value where it belongs in an increasing list; a value that is there already stays. -/
def insertIntoList (a : α) : List α → List α
  | [] => [a]
  | b :: l =>
    match compare a b with
    | .lt => a :: b :: l
    | .eq => b :: l
    | .gt => b :: insertIntoList a l

theorem mem_of_mem_insertIntoList {a x : α} {l : List α} (h : x ∈ insertIntoList a l) :
    x = a ∨ x ∈ l := by
  induction l with
  | nil => exact Or.inl (by simpa [insertIntoList] using h)
  | cons b l ih =>
    rw [insertIntoList] at h
    split at h
    · simpa using h
    · exact Or.inr h
    · rcases List.mem_cons.1 h with rfl | h
      · exact Or.inr (List.mem_cons_self ..)
      · exact (ih h).imp id (List.mem_cons_of_mem _)

theorem mem_insertIntoList [Std.LawfulEqOrd α] {a x : α} {l : List α} :
    x ∈ insertIntoList a l ↔ x = a ∨ x ∈ l := by
  refine ⟨mem_of_mem_insertIntoList, ?_⟩
  induction l with
  | nil => simp [insertIntoList]
  | cons b l ih =>
    rw [insertIntoList]
    split
    · simp
    · next he =>
      have : a = b := Std.LawfulEqOrd.eq_of_compare he
      subst this
      simp
    · grind

theorem increasing_insertIntoList [Std.TransOrd α] {a : α} {l : List α}
    (h : l.Pairwise (fun a b => compare a b = .lt)) :
    (insertIntoList a l).Pairwise (fun a b => compare a b = .lt) := by
  induction l with
  | nil => simp [insertIntoList]
  | cons b l ih =>
    rw [List.pairwise_cons] at h
    rw [insertIntoList]
    split
    · next hlt =>
      refine List.pairwise_cons.2 ⟨fun c hc => ?_, List.pairwise_cons.2 h⟩
      rcases List.mem_cons.1 hc with rfl | hc
      · exact hlt
      · exact Std.TransCmp.lt_trans hlt (h.1 c hc)
    · exact List.pairwise_cons.2 h
    · next hgt =>
      refine List.pairwise_cons.2 ⟨fun c hc => ?_, ih h.2⟩
      rcases mem_of_mem_insertIntoList hc with rfl | hc
      · exact Std.OrientedCmp.lt_of_gt hgt
      · exact h.1 c hc

/-- The set without members. -/
def empty : OrderedSet α := ⟨[], .nil⟩

instance : EmptyCollection (OrderedSet α) := ⟨empty⟩

/-- The set with one more member. -/
def insert [Std.TransOrd α] (s : OrderedSet α) (a : α) : OrderedSet α :=
  ⟨insertIntoList a s.toList, increasing_insertIntoList s.increasing⟩

/-- The set of the values in a list, whatever their order and repetition. -/
def ofList [Std.TransOrd α] (l : List α) : OrderedSet α :=
  l.foldr (fun a s => s.insert a) empty

@[simp] theorem not_mem_empty (a : α) : ¬ a ∈ (empty : OrderedSet α) := by
  simp [mem_def, empty]

@[simp] theorem mem_insert [Std.TransOrd α] [Std.LawfulEqOrd α] {a x : α} {s : OrderedSet α} :
    x ∈ s.insert a ↔ x = a ∨ x ∈ s :=
  mem_insertIntoList

@[simp] theorem mem_ofList [Std.TransOrd α] [Std.LawfulEqOrd α] {x : α} {l : List α} :
    x ∈ ofList l ↔ x ∈ l := by
  induction l with
  | nil => simp [ofList]
  | cons a l ih =>
    show x ∈ (ofList l).insert a ↔ _
    rw [mem_insert, ih, List.mem_cons]

theorem toList_injective {s t : OrderedSet α} (h : s.toList = t.toList) : s = t := by
  cases s; cases t; cases h; rfl

theorem list_eq_of_mem_iff [Std.TransOrd α] {l m : List α}
    (hl : l.Pairwise (fun a b => compare a b = .lt))
    (hm : m.Pairwise (fun a b => compare a b = .lt)) (h : ∀ x, x ∈ l ↔ x ∈ m) : l = m := by
  induction l generalizing m with
  | nil =>
    cases m with
    | nil => rfl
    | cons b m => exact absurd ((h b).2 (List.mem_cons_self ..)) (List.not_mem_nil)
  | cons a l ih =>
    cases m with
    | nil => exact absurd ((h a).1 (List.mem_cons_self ..)) (List.not_mem_nil)
    | cons b m =>
      rw [List.pairwise_cons] at hl hm
      have irrefl : ∀ x : α, compare x x ≠ .lt := fun x hx => by
        rw [Std.compare_self] at hx; cases hx
      have hab : a = b := by
        rcases List.mem_cons.1 ((h a).1 (List.mem_cons_self ..)) with hab | ha
        · exact hab
        · rcases List.mem_cons.1 ((h b).2 (List.mem_cons_self ..)) with hba | hb
          · exact hba.symm
          · exact absurd (Std.TransCmp.lt_trans (hl.1 b hb) (hm.1 a ha)) (irrefl a)
      subst hab
      congr 1
      refine ih hl.2 hm.2 fun x => ⟨fun hx => ?_, fun hx => ?_⟩
      · rcases List.mem_cons.1 ((h x).1 (List.mem_cons_of_mem _ hx)) with rfl | hx'
        · exact absurd (hl.1 x hx) (irrefl x)
        · exact hx'
      · rcases List.mem_cons.1 ((h x).2 (List.mem_cons_of_mem _ hx)) with rfl | hx'
        · exact absurd (hm.1 x hx) (irrefl x)
        · exact hx'

/-- A set is determined by its members. -/
theorem ext_mem [Std.TransOrd α] {s t : OrderedSet α} (h : ∀ x, x ∈ s ↔ x ∈ t) : s = t :=
  toList_injective (list_eq_of_mem_iff s.increasing t.increasing h)

@[simp] theorem ofList_toList [Std.TransOrd α] [Std.LawfulEqOrd α] (s : OrderedSet α) :
    ofList s.toList = s :=
  ext_mem fun _ => mem_ofList

end OrderedSet

end Observation

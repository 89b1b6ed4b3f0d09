import Mathlib.Data.List.Infix
import Mathlib.Data.List.MinMax
import Mathlib.Order.Nat
import Observation.Path.Basic

/-!
# Names and the `..` that close them

A name is read as an opening bracket and a `..` as a closing one; all other elements stand for
nothing.  A name survives unless a later `..` is matched to it, and elements climb above their start
as far as they close more than they have opened.

* `opened`, `closed`, `Balanced` - brackets, and elements within which all of them are matched.
* `Matched`, `Survives`, `survivors` - what closes a name, and the names that nothing closes.
* `climb`, `climb_le_iff` - the largest excess of `..` over names at any point.
* `exists_closing_iff` - a name is closed exactly if what follows it climbs above its start.
* `survivors_cons_named`, `climb_cons_named` and the like - what one more element in front changes.
* `climb_replicate_append`, `survivors_replicate_append` - elements of which nothing is left to
  match.
-/

namespace Observation.Brackets

/-! ## Brackets -/

section Definitions

variable (es : List PathElement)

/-- How many brackets the elements open: one for each name. -/
def opened : Nat :=
  es.countP PathElement.isNamed

/-- How many brackets the elements close: one for each `..`. -/
def closed : Nat :=
  es.count .up

/-- Every bracket is matched: there is never more closed than opened, and as much in the end. -/
structure Balanced : Prop where
  closed_le : ∀ front, front <+: es → closed front ≤ opened front
  closed_eq : closed es = opened es

instance : Decidable (Balanced es) :=
  decidable_of_iff ((∀ front ∈ es.inits, closed front ≤ opened front) ∧ closed es = opened es)
    ⟨fun h => ⟨fun front hf => h.1 front ((List.mem_inits _ _).2 hf), h.2⟩,
      fun h => ⟨fun front hf => h.closed_le front ((List.mem_inits _ _).1 hf), h.closed_eq⟩⟩

/-- The name at `i` is closed by the `..` at `j`: it comes later, and all brackets between them are
matched among themselves. -/
structure Matched (i j : Nat) : Prop where
  lt : i < j
  opens : es[i]?.any PathElement.isNamed = true
  closes : es[j]? = some .up
  between : Balanced ((es.take j).drop (i + 1))

instance (i j : Nat) : Decidable (Matched es i j) :=
  decidable_of_iff (i < j ∧ es[i]?.any PathElement.isNamed = true ∧ es[j]? = some .up ∧
      Balanced ((es.take j).drop (i + 1)))
    ⟨fun h => ⟨h.1, h.2.1, h.2.2.1, h.2.2.2⟩, fun h => ⟨h.lt, h.opens, h.closes, h.between⟩⟩

/-- At `i` there is a name, and no later `..` is matched to it. -/
def Survives (i : Nat) : Prop :=
  es[i]?.any PathElement.isNamed = true ∧ ∀ j, ¬Matched es i j

instance (i : Nat) : Decidable (Survives es i) :=
  decidable_of_iff (es[i]?.any PathElement.isNamed = true ∧ ∀ j < es.length, ¬Matched es i j)
    (and_congr_right fun _ => ⟨fun h j hm => h j (List.getElem?_eq_some_iff.1 hm.closes).1 hm,
      fun h j _ => h j⟩)

/-- The names that survive, in order. -/
def survivors : List PathElement :=
  ((List.range es.length).filter fun i => Survives es i).filterMap fun i => es[i]?

/-- How far the elements climb above their start: the largest excess of `..` over names in any of
their beginnings, or 0 if there is none. -/
def climb : Nat :=
  (es.inits.map fun front => closed front - opened front).foldr max 0

end Definitions

variable {es : List PathElement} {e : PathElement} {name : QualifiedName} {index : UInt32} {n : Nat}

@[simp] theorem opened_nil : opened [] = 0 := rfl

@[simp] theorem closed_nil : closed [] = 0 := rfl

@[simp] theorem opened_cons_named : opened (.named name index :: es) = opened es + 1 :=
  List.countP_cons_of_pos rfl

@[simp] theorem opened_cons_of_not_isNamed (h : e.isNamed = false) :
    opened (e :: es) = opened es :=
  List.countP_cons_of_neg (Bool.not_eq_true _ ▸ h)

@[simp] theorem opened_cons_up : opened (.up :: es) = opened es :=
  opened_cons_of_not_isNamed rfl

@[simp] theorem closed_cons_up : closed (.up :: es) = closed es + 1 :=
  List.count_cons_self

@[simp] theorem closed_cons_of_ne (h : e ≠ .up) : closed (e :: es) = closed es :=
  List.count_cons_of_ne h

theorem opened_append (front rest : List PathElement) :
    opened (front ++ rest) = opened front + opened rest :=
  List.countP_append

theorem closed_append (front rest : List PathElement) :
    closed (front ++ rest) = closed front + closed rest :=
  List.count_append

/-! ## Climbing -/

theorem climb_le_iff :
    climb es ≤ n ↔ ∀ front, front <+: es → closed front ≤ opened front + n := by
  constructor
  · intro h front hfront
    have hmem : closed front - opened front ∈
        es.inits.map fun front => closed front - opened front :=
      List.mem_map_of_mem ((List.mem_inits _ _).2 hfront)
    have hle : closed front - opened front ≤ climb es := List.le_max_of_le hmem (Nat.le_refl _)
    omega
  · intro h
    refine List.max_le_of_forall_le _ n ?_
    intro excess hmem
    obtain ⟨front, hfront, rfl⟩ := List.mem_map.1 hmem
    have hle := h front ((List.mem_inits _ _).1 hfront)
    omega

theorem climb_eq_zero_iff : climb es = 0 ↔ ∀ front, front <+: es → closed front ≤ opened front :=
  Nat.le_zero.symm.trans climb_le_iff

theorem climb_pos_iff : 0 < climb es ↔ ∃ front, front <+: es ∧ opened front < closed front := by
  rw [Nat.pos_iff_ne_zero, Ne, climb_eq_zero_iff]
  push Not
  rfl

/-- The beginnings of a list with one more element in front. -/
theorem forall_prefix_cons {P : List PathElement → Prop} :
    (∀ front, front <+: e :: es → P front) ↔ P [] ∧ ∀ front, front <+: es → P (e :: front) := by
  simp only [List.prefix_cons_iff, or_imp, forall_and, forall_eq]
  refine and_congr_right fun _ => ?_
  constructor
  · intro h front hfront
    exact h _ ⟨front, rfl, hfront⟩
  · rintro h _ ⟨front, rfl, hfront⟩
    exact h front hfront

theorem climb_nil : climb [] = 0 := rfl

theorem climb_cons_named : climb (.named name index :: es) = climb es - 1 := by
  refine eq_of_forall_ge_iff fun n => ?_
  rw [climb_le_iff, forall_prefix_cons, Nat.sub_le_iff_le_add, climb_le_iff]
  simp [Nat.add_right_comm, Nat.add_assoc]

theorem climb_cons_up : climb (.up :: es) = climb es + 1 := by
  refine eq_of_forall_ge_iff fun n => ?_
  rw [climb_le_iff, forall_prefix_cons]
  cases n with
  | zero =>
    have hfirst : ¬∀ front, front <+: es → closed (.up :: front) ≤ opened (.up :: front) + 0 :=
      fun h => absurd (h [] List.nil_prefix) (by decide)
    simpa using hfirst
  | succ n =>
    rw [Nat.add_le_add_iff_right, climb_le_iff]
    simp [← Nat.add_assoc]

/-- An element that neither opens nor closes a bracket changes nothing. -/
theorem climb_cons_of_neither (hnamed : e.isNamed = false) (hup : e ≠ .up) :
    climb (e :: es) = climb es := by
  refine eq_of_forall_ge_iff fun n => ?_
  rw [climb_le_iff, climb_le_iff, forall_prefix_cons]
  simp [hnamed, hup]

/-! ## What is closed -/

/-- Where a beginning is balanced and a `..` follows, more is closed than opened. -/
theorem opened_lt_closed_take {k : Nat} (hup : es[k]? = some .up) (hbal : Balanced (es.take k)) :
    opened (es.take (k + 1)) < closed (es.take (k + 1)) := by
  have hsucc : es.take (k + 1) = es.take k ++ [.up] := by
    rw [List.take_add_one, hup, Option.toList_some]
  have hopened : opened [.up] = 0 := rfl
  have hclosed : closed [.up] = 1 := rfl
  rw [hsucc, opened_append, closed_append, hopened, hclosed, hbal.closed_eq]
  exact Nat.lt_succ_self _

/-- Where more is closed than opened for the first time, a `..` follows a balanced beginning. -/
theorem closing_of_first {k : Nat} (hfirst : ∀ m ≤ k, closed (es.take m) ≤ opened (es.take m))
    (hlt : opened (es.take (k + 1)) < closed (es.take (k + 1))) :
    es[k]? = some .up ∧ Balanced (es.take k) := by
  have hle := hfirst k (Nat.le_refl k)
  rw [List.take_add_one, opened_append, closed_append] at hlt
  have hup : es[k]? = some .up := by
    by_contra hne
    have hclosed : closed es[k]?.toList = 0 := by
      cases he : es[k]? with
      | none => rfl
      | some e => simp [show e ≠ .up from fun h => hne (h ▸ he)]
    omega
  have hopened : opened es[k]?.toList = 0 := by rw [hup]; rfl
  have hclosed : closed es[k]?.toList = 1 := by rw [hup]; rfl
  refine ⟨hup, ⟨?_, by omega⟩⟩
  intro front hfront
  have htake : front = es.take (min front.length k) := by
    rw [← List.take_take]
    exact List.prefix_iff_eq_take.1 hfront
  rw [htake]
  exact hfirst _ (Nat.min_le_right _ _)

/-- A name is closed by a later `..` exactly if the elements after it climb: the first `..` that
leads above their start is the one matched to it. -/
theorem exists_closing_iff :
    (∃ k, es[k]? = some .up ∧ Balanced (es.take k)) ↔ 0 < climb es := by
  rw [climb_pos_iff]
  constructor
  · rintro ⟨k, hup, hbal⟩
    exact ⟨es.take (k + 1), List.take_prefix _ _, opened_lt_closed_take hup hbal⟩
  · rintro ⟨front, hfront, hlt⟩
    have hex : ∃ m, opened (es.take m) < closed (es.take m) :=
      ⟨front.length, by rwa [← List.prefix_iff_eq_take.1 hfront]⟩
    obtain ⟨k, hk⟩ : ∃ k, Nat.find hex = k + 1 := by
      refine Nat.exists_eq_succ_of_ne_zero fun h0 => ?_
      have hzero := Nat.find_spec hex
      rw [h0] at hzero
      exact absurd hzero (by simp)
    refine ⟨k, closing_of_first ?_ (hk ▸ Nat.find_spec hex)⟩
    intro m hm
    exact Nat.le_of_not_lt (Nat.find_min hex (by omega))

/-! ## What survives -/

theorem matched_cons_succ {i j : Nat} : Matched (e :: es) (i + 1) (j + 1) ↔ Matched es i j := by
  constructor
  · rintro ⟨hlt, hopens, hcloses, hbetween⟩
    exact ⟨Nat.lt_of_succ_lt_succ hlt, hopens, hcloses, hbetween⟩
  · rintro ⟨hlt, hopens, hcloses, hbetween⟩
    exact ⟨Nat.succ_lt_succ hlt, hopens, hcloses, hbetween⟩

theorem survives_cons_succ {i : Nat} : Survives (e :: es) (i + 1) ↔ Survives es i := by
  refine and_congr_right fun _ => ?_
  constructor
  · intro h j hj
    exact h (j + 1) (matched_cons_succ.2 hj)
  · intro h j hj
    cases j with
    | zero => exact absurd hj.lt (Nat.not_lt_zero _)
    | succ j => exact h j (matched_cons_succ.1 hj)

/-- The first element survives if it is a name and what follows it does not climb. -/
theorem survives_cons_zero : Survives (e :: es) 0 ↔ e.isNamed = true ∧ climb es = 0 := by
  refine and_congr_right fun hnamed => ?_
  rw [← Nat.le_zero, ← Nat.not_lt, ← exists_closing_iff]
  constructor
  · rintro h ⟨k, hup, hbal⟩
    exact h (k + 1) ⟨Nat.succ_pos k, hnamed, hup, hbal⟩
  · intro h j hj
    cases j with
    | zero => exact absurd hj.lt (Nat.lt_irrefl 0)
    | succ k => exact h ⟨k, hj.closes, hj.between⟩

theorem survivors_nil : survivors [] = [] := rfl

/-- What survives of a list is said of its first element and of the rest apart. -/
theorem survivors_cons :
    survivors (e :: es) = if e.isNamed = true ∧ climb es = 0 then e :: survivors es
      else survivors es := by
  have hrest : (((List.range es.length).map Nat.succ).filter
      fun i => Survives (e :: es) i).filterMap (fun i => (e :: es)[i]?) = survivors es := by
    rw [List.filter_map, List.filterMap_map]
    unfold survivors
    congr 1
    congr 1
    funext i
    exact decide_eq_decide.2 survives_cons_succ
  unfold survivors
  rw [List.length_cons, List.range_succ_eq_map, List.filter_cons]
  by_cases h : e.isNamed = true ∧ climb es = 0
  · rw [if_pos h, if_pos (decide_eq_true (survives_cons_zero.2 h)), List.filterMap_cons, hrest]
    rfl
  · have hzero : ¬decide (Survives (e :: es) 0) = true :=
      fun hd => h (survives_cons_zero.1 (of_decide_eq_true hd))
    rw [if_neg h, if_neg hzero, hrest]
    rfl

theorem survivors_cons_named :
    survivors (.named name index :: es) =
      if climb es = 0 then .named name index :: survivors es else survivors es := by
  rw [survivors_cons]
  simp [PathElement.isNamed]

theorem survivors_cons_of_not_isNamed (h : e.isNamed = false) :
    survivors (e :: es) = survivors es := by
  rw [survivors_cons, if_neg]
  simp [h]

theorem isNamed_of_mem_survivors (h : e ∈ survivors es) : e.isNamed = true := by
  unfold survivors at h
  obtain ⟨i, hi, he⟩ := List.mem_filterMap.1 h
  have hsurvives : Survives es i := of_decide_eq_true (List.mem_filter.1 hi).2
  have hany := hsurvives.1
  rw [he] at hany
  exact hany

/-! ## Elements with nothing left to match -/

section Settled

variable {ns : List PathElement} (h : ∀ e ∈ ns, e.isNamed = true)
include h

theorem climb_of_named : climb ns = 0 := by
  induction ns with
  | nil => rfl
  | cons e ns ih =>
    obtain ⟨he, hns⟩ := List.forall_mem_cons.1 h
    cases e with
    | named name index => rw [climb_cons_named, ih hns]
    | root | here | up => cases he

theorem survivors_of_named : survivors ns = ns := by
  induction ns with
  | nil => rfl
  | cons e ns ih =>
    obtain ⟨he, hns⟩ := List.forall_mem_cons.1 h
    rw [survivors_cons, if_pos ⟨he, climb_of_named hns⟩, ih hns]

theorem climb_replicate_append (k : Nat) : climb (List.replicate k .up ++ ns) = k := by
  induction k with
  | zero => exact climb_of_named h
  | succ k ih => rw [List.replicate_succ, List.cons_append, climb_cons_up, ih]

theorem survivors_replicate_append (k : Nat) :
    survivors (List.replicate k .up ++ ns) = ns := by
  induction k with
  | zero => exact survivors_of_named h
  | succ k ih =>
    rw [List.replicate_succ, List.cons_append, survivors_cons_of_not_isNamed rfl, ih]

end Settled

end Observation.Brackets

import Observation.Proofs.Path.Matching
import Observation.Proofs.Path.Obtained

/-!
# What is left of a path when it is resolved

Resolving keeps a stack.  Under the names on it lies what they stand on, the root or some `..` of
which nothing is left to match.  Further elements take away as many names as they climb, and what
they climb beyond that raises the ground; then the names that survive of them come on top.

* `Ground`, `Ground.raise` - what resolved names stand on, and how high it can be raised.
* `ItemPath.foldlM_resolveStep` - what any elements do to any stack.
* `ItemPath.foldlM_elements` - what is left of the elements of a path.
* `ItemPath.normalize_eq_ok_iff`, `ItemPath.normalize_eq_error_iff` - the outcome from what is left.
* `ItemPath.normalize_eq_matching` - resolving is bracket matching.
-/

namespace Observation

open Brackets

/-! ## The ground under resolved names -/

/-- What resolved names stand on: the root, or `..` that no name comes before. -/
inductive Ground where
  | root
  | ups (count : Nat)
  deriving DecidableEq, Repr

namespace Ground

/-- The elements of the ground. -/
def elements : Ground → List PathElement
  | root => [.root]
  | ups count => List.replicate count .up

/-- The ground after a climb beyond all names: more `..`, but nothing lies above the root. -/
def raise : Ground → Nat → Option Ground
  | root, 0 => some root
  | root, _ + 1 => none
  | ups count, n => some (ups (count + n))

@[simp] theorem raise_zero (g : Ground) : g.raise 0 = some g := by
  cases g with
  | root => rfl
  | ups count => rfl

theorem raise_succ (g : Ground) (n : Nat) : g.raise (n + 1) = (g.raise 1).bind (·.raise n) := by
  cases g with
  | root => rfl
  | ups count => simp [raise, Nat.add_assoc, Nat.add_comm 1 n]

theorem resolveStep_up (g : Ground) :
    ItemPath.resolveStep g.elements .up = (g.raise 1).map elements := by
  cases g with
  | root => rfl
  | ups count =>
    cases count with
    | zero => rfl
    | succ count => rfl

theorem elements_reverse (g : Ground) : g.elements.reverse = g.elements := by
  cases g with
  | root => rfl
  | ups count => exact List.reverse_replicate

end Ground

namespace ItemPath

theorem resolveStep_named (kept : List PathElement) (name : QualifiedName) (index : UInt32) :
    resolveStep kept (.named name index) = some (.named name index :: kept) := by
  rcases kept with _ | ⟨_ | _ | _ | _, _⟩ <;> rfl

/-! ## Further elements on a stack -/

/-- Further elements take names off the stack as far as they climb, raise the ground by what they
climb beyond that, and leave their survivors on top. -/
theorem foldlM_resolveStep (ns : List PathElement) {es : List PathElement} (g : Ground)
    (hns : ∀ e ∈ ns, e.isNamed = true) (hes : .root ∉ es) :
    es.foldlM resolveStep (ns ++ g.elements) =
      (g.raise (climb es - ns.length)).map fun raised =>
        (survivors es).reverse ++ ns.drop (climb es) ++ raised.elements := by
  induction es generalizing ns g with
  | nil => simp [survivors_nil, climb_nil]
  | cons e es ih =>
    obtain ⟨hroot, hes'⟩ : .root ≠ e ∧ .root ∉ es := by simpa using hes
    rw [List.foldlM_cons]
    cases e with
    | root => exact absurd rfl hroot
    | here =>
      rw [climb_cons_of_neither rfl (by decide), survivors_cons_of_not_isNamed rfl]
      exact ih _ g hns hes'
    | named name index =>
      have hns' : ∀ e ∈ .named name index :: ns, e.isNamed = true :=
        List.forall_mem_cons.2 ⟨rfl, hns⟩
      have hrest := ih _ g hns' hes'
      rw [resolveStep_named, climb_cons_named, survivors_cons_named]
      refine hrest.trans ?_
      -- The name is taken away again if anything is.
      cases climb es with
      | zero => simp
      | succ c => simp
    | up =>
      rw [climb_cons_up, survivors_cons_of_not_isNamed rfl]
      cases ns with
      | nil =>
        rw [List.nil_append, g.resolveStep_up, List.length_nil, Nat.sub_zero,
          g.raise_succ (climb es)]
        cases g.raise 1 with
        | none => rfl
        | some raised => simpa using ih _ raised hns hes'
      | cons n ns =>
        obtain ⟨hn, hns'⟩ := List.forall_mem_cons.1 hns
        cases n with
        | named name index =>
          refine (ih _ g hns' hes').trans ?_
          simp
        | root | here | up => cases hn

/-! ## The elements of a path -/

/-- The root stands nowhere in a relative path. -/
theorem isAbsolute_eq_false_iff {p : ItemPath} :
    p.isAbsolute = false ↔ PathElement.root ∉ p.elements := by
  constructor
  · intro ha hroot
    obtain ⟨first, rest, hp⟩ := List.exists_cons_of_ne_nil p.ne_nil
    have htail := p.wellFormed.root_notMem_tail
    rw [hp] at hroot htail
    rcases List.mem_cons.1 hroot with rfl | hroot
    · simp [isAbsolute, hp] at ha
    · exact htail hroot
  · intro hroot
    refine Bool.eq_false_iff.2 fun ha => hroot ?_
    rw [elements_of_isAbsolute ha]
    exact List.mem_cons_self

/-- What the names of a path stand on before any `..` is resolved. -/
def ground (p : ItemPath) : Ground :=
  if p.isAbsolute then .root else .ups 0

/-- Elements on the bare ground raise it as far as they climb, and leave their survivors on it. -/
theorem foldlM_ground (g : Ground) {es : List PathElement} (hes : .root ∉ es) :
    es.foldlM resolveStep g.elements =
      (g.raise (climb es)).map fun raised => (survivors es).reverse ++ raised.elements := by
  simpa using foldlM_resolveStep [] g (List.forall_mem_nil _) hes

/-- What is left of the elements of a path, latest first. -/
theorem foldlM_elements (p : ItemPath) :
    p.elements.foldlM resolveStep [] =
      (p.ground.raise (climb p.elements)).map fun raised =>
        (survivors p.elements).reverse ++ raised.elements := by
  unfold ground
  by_cases ha : p.isAbsolute = true
  · rw [if_pos ha, elements_of_isAbsolute ha, climb_cons_of_neither rfl (by decide),
      survivors_cons_of_not_isNamed rfl]
    exact foldlM_ground .root p.wellFormed.root_notMem_tail
  · rw [if_neg ha]
    exact foldlM_ground (.ups 0) (isAbsolute_eq_false_iff.1 (Bool.eq_false_iff.2 ha))

/-- What is left are names on some ground. -/
theorem exists_ground {p : ItemPath} {kept : List PathElement}
    (h : p.elements.foldlM resolveStep [] = some kept) :
    ∃ (ns : List PathElement) (g : Ground), (∀ e ∈ ns, e.isNamed = true) ∧
      kept = ns ++ g.elements := by
  rw [foldlM_elements] at h
  obtain ⟨g, -, rfl⟩ := Option.map_eq_some_iff.1 h
  refine ⟨(survivors p.elements).reverse, g, ?_, rfl⟩
  intro e he
  exact isNamed_of_mem_survivors (List.mem_reverse.1 he)

theorem foldlM_ground_elements (g : Ground) :
    g.elements.foldlM resolveStep [] = some g.elements := by
  cases g with
  | root => rfl
  | ups count =>
    have hclimb := climb_replicate_append (List.forall_mem_nil _) count
    have hsurvivors := survivors_replicate_append (List.forall_mem_nil _) count
    rw [List.append_nil] at hclimb hsurvivors
    have hroot : PathElement.root ∉ List.replicate count .up :=
      fun h => PathElement.noConfusion (List.eq_of_mem_replicate h)
    refine (foldlM_ground (.ups 0) hroot).trans ?_
    rw [hclimb, hsurvivors]
    simp [Ground.raise, Ground.elements]

/-- Resolved elements are resolved to themselves, so that others which follow them come on top. -/
theorem foldlM_inOrder {p : ItemPath} {kept : List PathElement}
    (h : p.elements.foldlM resolveStep [] = some kept) (es : List PathElement) :
    (inOrder kept ++ es).foldlM resolveStep [] = es.foldlM resolveStep kept := by
  have hself : (inOrder kept).foldlM resolveStep [] = some kept := by
    obtain ⟨ns, g, hns, rfl⟩ := exists_ground h
    have hns' : ∀ e ∈ ns.reverse, e.isNamed = true := fun e he => hns e (List.mem_reverse.1 he)
    have hroot : PathElement.root ∉ ns.reverse := fun h => nomatch hns' _ h
    unfold inOrder
    by_cases hnil : ns ++ g.elements = []
    · rw [if_pos hnil, hnil]
      rfl
    · rw [if_neg hnil, List.reverse_append, g.elements_reverse, List.foldlM_append,
        foldlM_ground_elements]
      refine (foldlM_ground g hroot).trans ?_
      rw [climb_of_named hns', survivors_of_named hns', List.reverse_reverse, g.raise_zero]
      rfl
  rw [List.foldlM_append, hself]
  rfl

/-! ## The outcome -/

theorem normalize_eq_ok_iff {p q : ItemPath} :
    p.normalize = .ok q ↔
      ∃ kept, p.elements.foldlM resolveStep [] = some kept ∧ q.elements = inOrder kept := by
  unfold normalize
  split
  · next hnone => simp [hnone]
  · next kept hsome =>
    have hkept := elements_ofResolved (resolved_elements hsome)
    simp only [hsome, Except.ok.injEq, Option.some.injEq, exists_eq_left']
    constructor
    · rintro rfl
      exact hkept
    · intro h
      exact ext_elements (hkept.trans h.symm)

theorem normalize_eq_error_iff {p : ItemPath} {error : PathError} :
    p.normalize = .error error ↔
      p.elements.foldlM resolveStep [] = none ∧ error = .escapesRoot p.text := by
  unfold normalize
  split
  · next hnone => simp [hnone, eq_comm]
  · next kept hsome => simp [hsome]

theorem exists_normalize {p : ItemPath} {kept : List PathElement}
    (h : p.elements.foldlM resolveStep [] = some kept) :
    ∃ q, p.normalize = .ok q ∧ q.elements = inOrder kept := by
  cases hq : p.normalize with
  | error error =>
    rw [(normalize_eq_error_iff.1 hq).1] at h
    cases h
  | ok q =>
    obtain ⟨kept', hkept', helements⟩ := normalize_eq_ok_iff.1 hq
    rw [h, Option.some.injEq] at hkept'
    exact ⟨q, rfl, hkept' ▸ helements⟩

theorem normalize_absolute {p : ItemPath} (ha : p.isAbsolute = true) :
    (p.normalize = .error (.escapesRoot p.text) ↔ 0 < climb p.elements) ∧
      (climb p.elements = 0 →
        ∃ q, p.normalize = .ok q ∧ q.elements = .root :: survivors p.elements) := by
  have hfold := p.foldlM_elements
  unfold ground at hfold
  rw [if_pos ha] at hfold
  constructor
  · rw [normalize_eq_error_iff, hfold]
    cases climb p.elements with
    | zero => simp
    | succ n => simp [Ground.raise]
  · intro h0
    rw [h0, Ground.raise_zero] at hfold
    obtain ⟨q, hq, helements⟩ := exists_normalize hfold
    refine ⟨q, hq, helements.trans ?_⟩
    simp [inOrder, Ground.elements]

theorem normalize_relative {p : ItemPath} (ha : p.isAbsolute = false) :
    ∃ q, p.normalize = .ok q ∧ q.elements =
      if climb p.elements = 0 ∧ survivors p.elements = [] then [.here]
      else List.replicate (climb p.elements) .up ++ survivors p.elements := by
  have hfold := p.foldlM_elements
  unfold ground at hfold
  rw [ha] at hfold
  obtain ⟨q, hq, helements⟩ := exists_normalize hfold
  refine ⟨q, hq, helements.trans ?_⟩
  simp [inOrder, Ground.elements, and_comm]

/-- Names below the root are elements of the tree. -/
theorem inTree_root_cons {ns : List PathElement} (h : ∀ e ∈ ns, e.isNamed = true) :
    InTree (.root :: ns) where
  root_first := rfl
  here_notMem hmem := by
    rcases List.mem_cons.1 hmem with hroot | hmem
    · cases hroot
    · cases h _ hmem
  up_notMem hmem := by
    rcases List.mem_cons.1 hmem with hroot | hmem
    · cases hroot
    · cases h _ hmem

/-- What is resolved stays as it is. -/
theorem normalize_of_normalize {p q : ItemPath} (h : p.normalize = .ok q) :
    q.normalize = .ok q := by
  obtain ⟨kept, hkept, helements⟩ := normalize_eq_ok_iff.1 h
  have hagain := foldlM_inOrder hkept []
  rw [List.append_nil, ← helements] at hagain
  exact normalize_eq_ok_iff.2 ⟨kept, hagain, helements⟩

/-- A path in the tree stays as it is. -/
theorem normalize_of_isCanonical {p : ItemPath} (h : p.IsCanonical) : p.normalize = .ok p := by
  have hnamed := isNamed_of_mem_tail (isCanonical_iff_inTree.1 h)
  have helements := elements_of_isAbsolute h.1
  have hclimb : climb p.elements = 0 := by
    rw [helements, climb_cons_of_neither rfl (by decide), climb_of_named hnamed]
  obtain ⟨q, hq, hsurvivors⟩ := (normalize_absolute h.1).2 hclimb
  rw [helements, survivors_cons_of_not_isNamed rfl, survivors_of_named hnamed, ← helements]
    at hsurvivors
  rw [hq, ext_elements hsurvivors]

/-- Resolving a path matches each `..` with the name before it that it closes.  An absolute path is
resolved to the names that survive, below the root, unless more is closed than opened somewhere:
then it escapes the root.  A relative path is always resolved, to as many `..` as it climbs and the
names that survive, or to `.` if there are neither.  So what is resolved stays as it is, and so does
a path in the tree. -/
theorem normalize_eq_matching (p : ItemPath) :
    (p.isAbsolute = true →
      (p.normalize = .error (.escapesRoot p.text) ↔
        ∃ front, front <+: p.elements ∧ opened front < closed front) ∧
      ((∀ front, front <+: p.elements → closed front ≤ opened front) →
        ∃ q, p.normalize = .ok q ∧ q.elements = .root :: survivors p.elements ∧
          q.IsCanonical)) ∧
    (p.isAbsolute = false →
      ∃ q, p.normalize = .ok q ∧ q.elements =
        if climb p.elements = 0 ∧ survivors p.elements = [] then [.here]
        else List.replicate (climb p.elements) .up ++ survivors p.elements) ∧
    (∀ q, p.normalize = .ok q → q.normalize = .ok q) ∧
    (p.IsCanonical → p.normalize = .ok p) := by
  refine ⟨fun ha => ⟨?_, ?_⟩, normalize_relative, fun _ => normalize_of_normalize,
    normalize_of_isCanonical⟩
  · rw [← climb_pos_iff]
    exact (normalize_absolute ha).1
  · intro h
    obtain ⟨q, hq, helements⟩ := (normalize_absolute ha).2 (climb_eq_zero_iff.2 h)
    refine ⟨q, hq, helements, isCanonical_iff_inTree.2 ?_⟩
    rw [helements]
    exact inTree_root_cons fun e he => isNamed_of_mem_survivors he

end ItemPath

end Observation

import Observation.Path.Normalize
import Observation.Proofs.Path.Text
import Observation.Proofs.Path.Tree

/-!
# The paths that can be obtained

A path comes about by building, reading, extending, resolving and cutting, in any order and any
number of times.  The same steps on bare lists of elements, without the checks that the type of
paths makes, lead to the same elements.

* `WellFormed` - the lists of elements that belong to paths.
* `PathTerm` - a sequence of operations; `PathTerm.eval` runs it on paths, and
  `PathTerm.elements?` on lists of elements.
* `PathTerm.elements?_eq` - both runs agree.
* `PathTerm.eval_reads_back` - what is obtained is well-formed, and told apart by its text.
-/

namespace Observation

/-! ## Lists that make up a path -/

/-- There is an element, the root stands nowhere but first, and no name has the index 0. -/
structure WellFormed (es : List PathElement) : Prop where
  ne_nil : es ≠ []
  root_notMem_tail : PathElement.root ∉ es.tail
  indexed : ∀ e ∈ es, e.Indexed

instance (es : List PathElement) : Decidable (WellFormed es) :=
  decidable_of_iff (es ≠ [] ∧ PathElement.root ∉ es.tail ∧ ∀ e ∈ es, e.Indexed)
    ⟨fun h => ⟨h.1, h.2.1, h.2.2⟩, fun h => ⟨h.ne_nil, h.root_notMem_tail, h.indexed⟩⟩

namespace ItemPath

theorem wellFormed (p : ItemPath) : WellFormed p.elements := by
  obtain ⟨es, hne, hhead, htail⟩ := p
  obtain ⟨first, rest, rfl⟩ := List.exists_cons_of_ne_nil hne
  refine ⟨hne, fun hroot => (htail _ hroot).1 rfl, ?_⟩
  intro e he
  rcases List.mem_cons.1 he with rfl | he
  · exact hhead e rfl
  · exact (htail e he).2

theorem exists_elements_eq {es : List PathElement} (h : WellFormed es) :
    ∃ p : ItemPath, p.elements = es := by
  refine ⟨⟨es, h.ne_nil, ?_, ?_⟩, rfl⟩
  · intro e he
    exact h.indexed e (List.mem_of_mem_head? he)
  · intro e he
    have hroot : e ≠ .root := fun h0 => h.root_notMem_tail (h0 ▸ he)
    exact ⟨hroot, h.indexed e (List.mem_of_mem_tail he)⟩

/-- A path is built from every well-formed list, and from no other. -/
theorem elements_ofElements (es : List PathElement) :
    (ofElements es).toOption.map elements = if WellFormed es then some es else none := by
  by_cases h : WellFormed es
  · obtain ⟨p, rfl⟩ := exists_elements_eq h
    rw [if_pos h, ofElements_elements]
    rfl
  · rw [if_neg h]
    cases hp : ofElements es with
    | error e => rfl
    | ok p => exact absurd (elements_of_ofElements hp ▸ p.wellFormed) h

/-- Resolved elements in order; `.` stands for none. -/
def inOrder (kept : List PathElement) : List PathElement :=
  if kept = [] then [.here] else kept.reverse

theorem elements_ofResolved {kept : List PathElement} (h : Resolved kept) :
    (ofResolved kept h).elements = inOrder kept := by
  unfold ofResolved inOrder
  split
  · next hnil =>
    rw [if_pos (List.reverse_eq_nil_iff.1 hnil)]
    rfl
  · next first rest hcons =>
    rw [if_neg (fun h0 => by rw [h0] at hcons; cases hcons)]
    exact hcons.symm

theorem elements_normalize (p : ItemPath) :
    p.normalize.toOption.map elements = (p.elements.foldlM resolveStep []).map inOrder := by
  unfold normalize
  split
  · next h => rw [h]; rfl
  · next kept h =>
    have hfold := congrArg (Option.map inOrder) h
    rw [Option.map_some, ← elements_ofResolved (resolved_elements h)] at hfold
    exact hfold.symm

theorem elements_ancestor (p : ItemPath) (degree : Nat) :
    (p.ancestor degree).toOption.map elements =
      if InTree p.elements ∧ degree ≤ p.elements.countP PathElement.isNamed then
        some (p.elements.take (p.elements.length - degree))
      else none := by
  cases hq : p.ancestor degree with
  | ok q =>
    obtain ⟨hc, hd, he⟩ := ancestor_eq_ok_iff.1 hq
    rw [if_pos ⟨isCanonical_iff_inTree.1 hc, hd⟩, ← he]
    rfl
  | error e =>
    rw [if_neg]
    · rfl
    · rintro ⟨ht, hd⟩
      obtain ⟨q, hok⟩ := exists_ancestor (isCanonical_iff_inTree.2 ht) hd
      rw [hq] at hok
      cases hok

end ItemPath

/-! ## Sequences of operations -/

/-- How a path comes about: it is built or read, and operations follow one another. -/
inductive PathTerm where
  | root
  | ofElements (es : List PathElement)
  | read (s : String)
  | child (t : PathTerm) (name : QualifiedName)
  | childAt (t : PathTerm) (name : QualifiedName) (index : UInt32)
  | normalize (t : PathTerm)
  | ancestor (t : PathTerm) (degree : Nat)

namespace PathTerm

/-- The path that is obtained, unless an operation refuses. -/
def eval : PathTerm → Except PathError ItemPath
  | root => .ok .root
  | ofElements es => ItemPath.ofElements es
  | read s => ItemPath.parse s
  | child t name => return (← t.eval).child name
  | childAt t name index => return (← t.eval).childAt name index
  | normalize t => do (← t.eval).normalize
  | ancestor t degree => do (← t.eval).ancestor degree

/-- The elements that are obtained when the operations work on lists of them, unless one
refuses. -/
def elements? : PathTerm → Option (List PathElement)
  | root => some [.root]
  | ofElements es => if WellFormed es then some es else none
  | read s => (ItemPath.parse s).toOption.map ItemPath.elements
  | child t name => t.elements?.map (· ++ [.named name 1])
  | childAt t name index => t.elements?.map (· ++ [.named name (if index = 0 then 1 else index)])
  | normalize t =>
    t.elements?.bind fun es => (es.foldlM ItemPath.resolveStep []).map ItemPath.inOrder
  | ancestor t degree =>
    t.elements?.bind fun es =>
      if InTree es ∧ degree ≤ es.countP PathElement.isNamed then
        some (es.take (es.length - degree))
      else none

/-- The types of paths refuse nothing that the lists allow, and change no element. -/
theorem elements?_eq (t : PathTerm) : t.elements? = t.eval.toOption.map ItemPath.elements := by
  induction t with
  | root => rfl
  | ofElements es => exact (ItemPath.elements_ofElements es).symm
  | read s => rfl
  | child t name ih =>
    rw [elements?, ih, eval]
    cases t.eval with
    | error e => rfl
    | ok p => rfl
  | childAt t name index ih =>
    rw [elements?, ih, eval]
    cases t.eval with
    | error e => rfl
    | ok p => rfl
  | normalize t ih =>
    rw [elements?, ih, eval]
    cases t.eval with
    | error e => rfl
    | ok p => exact (ItemPath.elements_normalize p).symm
  | ancestor t degree ih =>
    rw [elements?, ih, eval]
    cases t.eval with
    | error e => rfl
    | ok p => exact (ItemPath.elements_ancestor p degree).symm

/-- A path that is obtained is well-formed, its text is read as that path, and no other path that
is obtained has the same text. -/
theorem eval_reads_back {t : PathTerm} {p : ItemPath} (h : t.eval = .ok p) :
    t.elements? = some p.elements ∧ WellFormed p.elements ∧ ItemPath.parse p.text = .ok p ∧
      ∀ u q, eval u = .ok q → (p.text = q.text ↔ p = q) := by
  have helements : t.elements? = some p.elements := by rw [elements?_eq, h]; rfl
  refine ⟨helements, p.wellFormed, p.parse_text, fun u q _ => ?_⟩
  exact ⟨fun htext => ItemPath.text_injective htext, fun heq => heq ▸ rfl⟩

/-- The path `/{a/b[2]}c d/{a/b[2]}c d[2]`, from children with the indexes 0 and 2. -/
theorem eval_reads_back_slashed :
    let t := normalize (childAt (childAt root slashedName 0) slashedName 2)
    let p := (ItemPath.root.childAt slashedName 1).childAt slashedName 2
    t.eval = .ok p ∧ t.elements? = some p.elements ∧ ItemPath.parse p.text = .ok p := by
  intro t p
  have h : t.eval = .ok p := rfl
  obtain ⟨helements, -, hparse, -⟩ := eval_reads_back h
  exact ⟨h, helements, hparse⟩

end PathTerm

end Observation

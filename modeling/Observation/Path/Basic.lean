import Observation.Path.Error

/-!
# Item paths

A path is a non-empty list of elements.  The root may stand first and nowhere else, and indexes
among siblings of one name start at 1.

* `PathElement`, `ItemPath` - the elements, and the lists of them that are paths.
* `ItemPath.ofElements` - accepts exactly the lists that are paths
  (`ItemPath.ofElements_elements`, `ItemPath.elements_of_ofElements`).
* `ItemPath.child`, `ItemPath.childAt` - a path one element longer.
* `ItemPath.isAbsolute`, `ItemPath.isNormalized`, `ItemPath.depth` - what a path looks like.
* `ItemPath.text` - the text of a path.
-/

namespace Observation

/-- One element of a path: the root, `.`, `..`, or a name with its index among siblings of that
name. -/
inductive PathElement where
  | root
  | here
  | up
  | named (name : QualifiedName) (index : UInt32)
  deriving DecidableEq, Repr

namespace PathElement

/-- An index among siblings of one name starts at 1. -/
def Indexed : PathElement → Prop
  | named _ index => index ≠ 0
  | _ => True

instance (e : PathElement) : Decidable e.Indexed := by
  cases e <;> unfold Indexed <;> infer_instance

/-- Whether an element is a name. -/
def isNamed : PathElement → Bool
  | named _ _ => true
  | _ => false

/-- Whether an element stays as it is when a path is resolved. -/
def isSettled : PathElement → Bool
  | root | named _ _ => true
  | here | up => false

/-- The characters of an element; the root has none, and index 1 is left out. -/
def chars : PathElement → List Char
  | root => []
  | here => ['.']
  | up => ['.', '.']
  | named name index =>
    if 1 < index then name.chars ++ '[' :: Nat.toDigits 10 index.toNat ++ [']']
    else name.chars

/-- The text of an element. -/
def text (e : PathElement) : String :=
  String.ofList e.chars

end PathElement

/-- An element that may follow another one: not the root, and with a valid index. -/
def IsStep (e : PathElement) : Prop :=
  e ≠ .root ∧ e.Indexed

/-- A path of items in the repository. -/
structure ItemPath where
  elements : List PathElement
  ne_nil : elements ≠ []
  head_indexed : ∀ e ∈ elements.head?, e.Indexed
  tail_steps : ∀ e ∈ elements.tail, IsStep e
  deriving DecidableEq

namespace ItemPath

theorem ext_elements {p q : ItemPath} (h : p.elements = q.elements) : p = q := by
  cases p; cases q; cases h; rfl

/-- The path of the root. -/
def root : ItemPath :=
  ⟨[.root], by simp, by simp [PathElement.Indexed], by simp⟩

instance : Inhabited ItemPath := ⟨root⟩

/-- The path of the root followed by steps. -/
def absolute (steps : List PathElement) (h : ∀ e ∈ steps, IsStep e) : ItemPath :=
  ⟨.root :: steps, by simp, by simp [PathElement.Indexed], h⟩

/-- The path that starts with one step. -/
def relative (first : PathElement) (steps : List PathElement) (hf : first.Indexed)
    (h : ∀ e ∈ steps, IsStep e) : ItemPath :=
  ⟨first :: steps, by simp, by simpa using hf, h⟩

/-- What keeps elements from making up a path, if anything does.  A root out of place counts
before an index of 0, wherever either stands. -/
def elementFault? : List PathElement → Option ElementFault
  | [] => some .noElement
  | first :: rest =>
    match rest.findIdx? (· == .root) with
    | some i => some (.rootAt (i + 1))
    | none => if ∀ e ∈ first :: rest, e.Indexed then none else some .zeroIndex

theorem elementFault?_cons_eq_none_iff {first : PathElement} {rest : List PathElement} :
    elementFault? (first :: rest) = none ↔ first.Indexed ∧ ∀ e ∈ rest, IsStep e := by
  have hsplit : (∀ e ∈ rest, IsStep e) ↔
      (∀ e ∈ rest, e ≠ .root) ∧ ∀ e ∈ rest, e.Indexed :=
    ⟨fun h => ⟨fun e he => (h e he).1, fun e he => (h e he).2⟩,
      fun h e he => ⟨h.1 e he, h.2 e he⟩⟩
  rw [elementFault?, hsplit]
  split
  · next i hi =>
    obtain ⟨hlt, hroot, _⟩ := List.findIdx?_eq_some_iff_getElem.1 hi
    have hmem : rest[i] = .root := by simpa using hroot
    simp only [reduceCtorEq, false_iff]
    exact fun h => h.2.1 _ (List.getElem_mem hlt) hmem
  · next hnone =>
    have hne : ∀ e ∈ rest, e ≠ .root := by simpa using List.findIdx?_eq_none_iff.1 hnone
    simpa using fun _ _ => hne

/-- The path with the given elements, in this order. -/
def ofElements : List PathElement → Except PathError ItemPath
  | [] => .error (.ofElements .noElement)
  | first :: rest =>
    match h : elementFault? (first :: rest) with
    | some fault => .error (.ofElements fault)
    | none =>
      have hs := elementFault?_cons_eq_none_iff.1 h
      .ok (relative first rest hs.1 hs.2)

theorem ofElements_elements (p : ItemPath) : ofElements p.elements = .ok p := by
  obtain ⟨es, hne, hhead, htail⟩ := p
  match es, hne with
  | first :: rest, _ =>
    have hr : elementFault? (first :: rest) = none :=
      elementFault?_cons_eq_none_iff.2 ⟨hhead first (by simp), htail⟩
    rw [ofElements]
    split
    · next h => rw [hr] at h; cases h
    · rfl

theorem elements_of_ofElements {es : List PathElement} {p : ItemPath}
    (h : ofElements es = .ok p) : p.elements = es := by
  cases es with
  | nil => cases h
  | cons first rest =>
    rw [ofElements] at h
    split at h
    · cases h
    · cases h; rfl

/-- The path of a child with a given index among siblings of its name; 0 counts as 1. -/
def childAt (p : ItemPath) (name : QualifiedName) (index : UInt32) : ItemPath where
  elements := p.elements ++ [.named name (if index = 0 then 1 else index)]
  ne_nil := by simp
  head_indexed := by
    obtain ⟨es, hne, hhead, _⟩ := p
    match es, hne with
    | first :: rest, _ => simpa using hhead first (by simp)
  tail_steps := by
    obtain ⟨es, hne, _, htail⟩ := p
    match es, hne with
    | first :: rest, _ =>
      intro e he
      rcases List.mem_append.1 he with he | he
      · exact htail e he
      · rw [List.mem_singleton.1 he]
        by_cases h : index = 0 <;> simp [IsStep, PathElement.Indexed, h]

/-- The path of the first child of a name. -/
def child (p : ItemPath) (name : QualifiedName) : ItemPath :=
  p.childAt name 1

/-- Whether a path starts at the root. -/
def isAbsolute (p : ItemPath) : Bool :=
  p.elements.head? == some .root

/-- Whether a path is free of `.` and `..`. -/
def isNormalized (p : ItemPath) : Bool :=
  p.elements.all PathElement.isSettled

/-- How many names a path holds. -/
def depth (p : ItemPath) : Nat :=
  p.elements.countP PathElement.isNamed

/-- The name at the end of a path, if it ends in one. -/
def lastName? (p : ItemPath) : Option QualifiedName :=
  match p.elements.getLast? with
  | some (.named name _) => some name
  | _ => none

/-- The elements after the root. -/
def steps (p : ItemPath) : List PathElement :=
  if p.isAbsolute then p.elements.tail else p.elements

/-- The characters of a path: its steps between slashes, after a slash if it is absolute. -/
def chars (p : ItemPath) : List Char :=
  (if p.isAbsolute then ['/'] else []) ++ ['/'].intercalate (p.steps.map PathElement.chars)

/-- The text of a path. -/
def text (p : ItemPath) : String :=
  String.ofList p.chars

instance : ToString ItemPath := ⟨text⟩

instance : Repr ItemPath := ⟨fun p _ => repr p.text⟩

end ItemPath

end Observation

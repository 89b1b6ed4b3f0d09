import Mathlib.Data.Fintype.EquivFin
import Observation.Proofs.Filter.Sample

/-!
# Filters that accept no more than others

A filter accepts no event that another one rejects exactly if it is as narrow in each of its six
criteria.  One direction follows criterion by criterion.  For the other one there is an event for
each way in which two filters can differ: at the path or just below it, by the session itself, of an
owner without an identifier, of a node type that the other filter does not name.

* `EventFilter.Narrower` - an optional set lets through no more than another one.
* `EventFilter.Within` - a filter is as narrow as another one in each criterion.
* `EventFilter.Within.wants` - it then wants no event that the other one does not want.
* `EventFilter.WantsAt`, `EventFilter.wants_placedAt_iff` - what it takes to want an event whose
  parts are given.
* `EventFilter.contained_iff_within` - both directions.
-/

namespace Observation

/-! ## Names that are not listed -/

theorem validLocalName_replicate (n : Nat) :
    ValidLocalName (String.ofList (List.replicate (n + 1) 'a')) where
  ne_empty := by simp
  ne_here := by
    intro h
    simpa [List.replicate_succ] using congrArg String.toList h
  ne_up := by
    intro h
    simpa [List.replicate_succ] using congrArg String.toList h
  unreserved := by
    intro c hc
    rw [String.toList_ofList] at hc
    rw [List.eq_of_mem_replicate hc]
    decide

/-- A name of any given length. -/
def QualifiedName.ofLength (n : Nat) : QualifiedName where
  namespaceUri := ""
  localName := String.ofList (List.replicate (n + 1) 'a')
  validUri := validNamespaceUri_empty
  validLocal := validLocalName_replicate n

theorem QualifiedName.ofLength_injective : Function.Injective ofLength := by
  intro m n h
  have hchars := congrArg (fun name => name.localName.toList.length) h
  simpa [ofLength] using hchars

instance : Infinite QualifiedName :=
  .of_injective QualifiedName.ofLength QualifiedName.ofLength_injective

/-- Finitely many names leave others out. -/
theorem QualifiedName.exists_notMem (names : List QualifiedName) :
    ∃ n : QualifiedName, n ∉ names := by
  obtain ⟨n, hn⟩ := Infinite.exists_notMem_finset names.toFinset
  exact ⟨n, fun h => hn (List.mem_toFinset.2 h)⟩

namespace EventFilter

/-! ## Optional sets -/

section OptionalSets

variable {α : Type} [Ord α] {s t : Option (OrderedSet α)}

/-- An optional set lets something through: it is absent, or a member is of the given kind. -/
def Lets (s : Option (OrderedSet α)) (kind : α → Prop) : Prop :=
  ∀ members, s = some members → ∃ x ∈ members, kind x

/-- An optional set lets through no more than another one: that one is absent, or both are there and
it has all the members. -/
def Narrower (s t : Option (OrderedSet α)) : Prop :=
  t = none ∨ ∃ members others : OrderedSet α, s = some members ∧ t = some others ∧
    ∀ x ∈ members, x ∈ others

theorem Lets.mono {kind kind' : α → Prop} (h : Lets s kind) (hkind : ∀ x, kind x → kind' x) :
    Lets s kind' := by
  intro members hs
  obtain ⟨x, hx, hk⟩ := h members hs
  exact ⟨x, hx, hkind x hk⟩

theorem Narrower.lets {kind : α → Prop} (h : Narrower s t) (hs : Lets s kind) : Lets t kind := by
  intro others hothers
  rcases h with rfl | ⟨members, _, rfl, rfl, hsub⟩
  · cases hothers
  · cases hothers
    obtain ⟨x, hx, hkind⟩ := hs members rfl
    exact ⟨x, hsub x hx, hkind⟩

/-- Single values tell two sets apart, and a kind that no member is of tells an absent set from
one that is there. -/
theorem narrower_of_lets (hsingle : ∀ x, Lets s (· = x) → Lets t (· = x))
    (hstranger : ∀ members : OrderedSet α,
      ∃ kind : α → Prop, (∀ x ∈ members, ¬kind x) ∧ (Lets s kind → Lets t kind)) :
    Narrower s t := by
  cases t with
  | none => exact .inl rfl
  | some others =>
    cases s with
    | none =>
      obtain ⟨kind, hnone, hkind⟩ := hstranger others
      obtain ⟨x, hx, hk⟩ := hkind (fun _ h => nomatch h) others rfl
      exact absurd hk (hnone x hx)
    | some members =>
      refine .inr ⟨members, others, rfl, rfl, ?_⟩
      intro x hx
      have hlets : Lets (some members) (· = x) := by
        rintro _ ⟨⟩
        exact ⟨x, hx, rfl⟩
      obtain ⟨y, hy, rfl⟩ := hsingle x hlets others rfl
      exact hy

/-- A set that is absent or has a member lets a single value through. -/
theorem exists_lets_single (h : s ≠ some ∅) (x : α) : ∃ y, Lets s (· = y) := by
  cases s with
  | none => exact ⟨x, fun _ h => nomatch h⟩
  | some members =>
    obtain ⟨l, hl⟩ := members
    cases l with
    | nil => exact absurd rfl h
    | cons y l =>
      refine ⟨y, ?_⟩
      rintro _ ⟨⟩
      exact ⟨y, List.mem_cons_self, rfl⟩

end OptionalSets

/-! ## Criterion by criterion -/

/-- The path of a filter, with all below it if it is deep, is part of that of another one. -/
def PathWithin (f g : EventFilter) : Prop :=
  f.path = g.path ∧ (f.isDeep = true → g.isDeep = true) ∨ g.isDeep = true ∧ g.path.IsAbove f.path

/-- A filter is as narrow as another one in each criterion. -/
structure Within (f g : EventFilter) : Prop where
  types : ∀ t : EventType, f.types.bits &&& t.bit ≠ 0 → g.types.bits &&& t.bit ≠ 0
  not_own : g.noLocal = true → f.noLocal = true
  parents : Narrower f.parents g.parents
  node_types : Narrower f.nodeTypes g.nodeTypes
  path : PathWithin f g

section Soundness

variable {f g : EventFilter} {e : Event} {isLocal : Bool}

theorem Within.admits (h : Within f g) (hf : f.Admits e isLocal) : g.Admits e isLocal where
  type := h.types e.type hf.type
  not_own := fun hown => hf.not_own ⟨hown.1, h.not_own hown.2⟩
  parent := h.parents.lets hf.parent
  node_type := h.node_types.lets hf.node_type

/-- What lies at or below the path of the narrower filter lies at or below that of the other one. -/
theorem PathWithin.covers (h : PathWithin f g) (hf : f.path.IsCanonical) (hg : g.path.IsCanonical)
    {place : List PathElement} (hplace : f.Covers place) : g.Covers place := by
  rw [ItemPath.isCanonical_iff_inTree] at hf hg
  rcases h with ⟨hpath, hdeep⟩ | ⟨hdeep, habove, hne⟩
  · rcases hplace with rfl | ⟨hfd, htree, hftree, hbelow, hne⟩
    · exact .inl (by rw [hpath])
    · rw [hpath] at hftree hbelow hne
      exact .inr ⟨hdeep hfd, htree, hftree, hbelow, hne⟩
  · rcases hplace with rfl | ⟨_, htree, _, hbelow, _⟩
    · exact .inr ⟨hdeep, hf, hg, habove, hne⟩
    · refine .inr ⟨hdeep, htree, hg, habove.trans hbelow, ?_⟩
      rintro rfl
      -- Each path would be the beginning of the other one.
      exact hne (habove.eq_of_length_le hbelow.length_le)

theorem Within.wants (h : Within f g) (hf : f.path.IsCanonical) (hg : g.path.IsCanonical)
    (hwants : f.Wants e isLocal) : g.Wants e isLocal := by
  obtain ⟨place, hplace, hcovers⟩ := hwants.path
  exact ⟨h.admits hwants.toAdmits, place, hplace, h.path.covers hf hg hcovers⟩

end Soundness

end EventFilter

/-! ## Events that tell filters apart -/

/-- An event that is compared at a path in the tree: of a node there, or of a property of that
node. -/
def Event.placedAt (t : EventType) (place : ItemPath) (parent : Parent) (name : QualifiedName) :
    Event :=
  .make t parent (if t.isNodeEvent then place else place.child name) name []

theorem Event.comparesAt_placedAt {t : EventType} {c : ItemPath} {parent : Parent}
    {name : QualifiedName} (hc : c.IsCanonical) {place : List PathElement} :
    (placedAt t c parent name).ComparesAt place ↔ place = c.elements := by
  have hchild := ItemPath.isCanonical_iff_inTree.1 (ItemPath.isCanonical_child hc name)
  unfold ComparesAt
  cases t with
  | nodeAdded | nodeRemoved => exact Iff.rfl
  | propertyAdded | propertyRemoved | propertyChanged =>
    show InTree (c.child name).elements ∧ (∃ n i, .named n i ∈ (c.child name).elements) ∧
      place = (c.child name).elements.dropLast ↔ place = c.elements
    rw [ItemPath.elements_child, List.dropLast_concat]
    constructor
    · rintro ⟨-, -, h⟩
      exact h
    · intro h
      exact ⟨hchild, ⟨name, 1, by simp⟩, h⟩

namespace EventFilter

/-- What it takes to want an event of one node type, of which the parts are given. -/
structure WantsAt (f : EventFilter) (t : EventType) (isLocal : Bool) (parent : Parent)
    (name : QualifiedName) (place : List PathElement) : Prop where
  type : f.types.bits &&& t.bit ≠ 0
  not_own : ¬(isLocal = true ∧ f.noLocal = true)
  parent : Lets f.parents (fun id => parent = .identified id)
  node_type : Lets f.nodeTypes (· = name)
  path : f.Covers place

theorem wants_placedAt_iff {f : EventFilter} {t : EventType} {isLocal : Bool} {parent : Parent}
    {name : QualifiedName} {c : ItemPath} (hc : c.IsCanonical) :
    f.Wants (.placedAt t c parent name) isLocal ↔ f.WantsAt t isLocal parent name c.elements := by
  constructor
  · intro h
    obtain ⟨place, hplace, hcovers⟩ := h.path
    rw [Event.comparesAt_placedAt hc] at hplace
    refine ⟨h.type, h.not_own, h.parent, Lets.mono h.node_type ?_, hplace ▸ hcovers⟩
    intro x hx
    exact hx.resolve_right (OrderedSet.not_mem_empty x)
  · intro h
    refine ⟨⟨h.type, h.not_own, h.parent, h.node_type.mono ?_⟩, c.elements,
      (Event.comparesAt_placedAt hc).2 rfl, h.path⟩
    intro x hx
    exact .inl hx

section Completeness

variable {f g : EventFilter} {t : EventType} {parent : Parent} {name : QualifiedName}

/-- A filter with a known type and without an empty set wants some event at its path. -/
theorem exists_wantsAt (htypes : ∃ t, f.types.contains t = true) (hparents : f.parents ≠ some ∅)
    (hnames : f.nodeTypes ≠ some ∅) :
    ∃ t parent name, f.WantsAt t false parent name f.path.elements := by
  obtain ⟨t, ht⟩ := htypes
  obtain ⟨id, hid⟩ := exists_lets_single hparents ""
  obtain ⟨name, hname⟩ := exists_lets_single hnames (.ofLength 0)
  refine ⟨t, .identified id, name, bne_iff_ne.1 ht, ?_, Lets.mono hid ?_, hname, .inl rfl⟩
  · rintro ⟨h, -⟩
    cases h
  · rintro x rfl
    rfl

/-- One filter wants no event in the tree that the other one does not want. -/
def ContainedInTree (f g : EventFilter) : Prop :=
  ∀ t isLocal parent name (c : ItemPath), c.IsCanonical →
    f.WantsAt t isLocal parent name c.elements → g.WantsAt t isLocal parent name c.elements

variable (hcontained : ContainedInTree f g) (hf : f.path.IsCanonical)
  (hwants : f.WantsAt t false parent name f.path.elements)

include hcontained hf hwants

/-- Owners with an identifier tell two sets apart, one without tells an absent set from others. -/
theorem ContainedInTree.parents : Narrower f.parents g.parents := by
  have hparent (p : Parent) (h : Lets f.parents fun id => p = .identified id) :
      Lets g.parents fun id => p = .identified id :=
    (hcontained _ _ _ _ _ hf { hwants with parent := h }).parent
  apply narrower_of_lets
  · intro x hx
    refine (hparent (.identified x) (hx.mono ?_)).mono ?_
    · rintro y rfl
      rfl
    · rintro y ⟨⟩
      rfl
  · intro members
    refine ⟨fun id => .located .root = Parent.identified id, ?_, hparent (.located .root)⟩
    rintro x - ⟨⟩

theorem ContainedInTree.node_types : Narrower f.nodeTypes g.nodeTypes := by
  have hname (n : QualifiedName) (h : Lets f.nodeTypes (· = n)) : Lets g.nodeTypes (· = n) :=
    (hcontained _ _ _ _ _ hf { hwants with node_type := h }).node_type
  apply narrower_of_lets hname
  intro members
  obtain ⟨n, hn⟩ := QualifiedName.exists_notMem members.toList
  refine ⟨(· = n), ?_, hname n⟩
  rintro x hx rfl
  exact hn hx

/-- An event at the path shows where the other path is, one just below that it is deep. -/
theorem ContainedInTree.path : PathWithin f g := by
  have hcovers (c : ItemPath) (hc : c.IsCanonical) (h : f.Covers c.elements) :
      g.Covers c.elements :=
    (hcontained _ _ _ _ _ hc { hwants with path := h }).path
  rcases hcovers f.path hf (.inl rfl) with hpath | ⟨hdeep, -, -, habove⟩
  · refine .inl ⟨ItemPath.ext_elements hpath, fun hdeep => ?_⟩
    have hchild := ItemPath.isCanonical_child hf name
    have hbelow := f.path.isAbove_child name
    rcases hcovers _ hchild (.inr ⟨hdeep, ItemPath.isCanonical_iff_inTree.1 hchild,
      ItemPath.isCanonical_iff_inTree.1 hf, hbelow⟩) with hsame | ⟨hgdeep, -⟩
    · exact absurd (hpath.trans hsame.symm) hbelow.2
    · exact hgdeep
  · exact .inr ⟨hdeep, habove⟩

theorem ContainedInTree.within : Within f g where
  types := fun t ht => (hcontained t _ _ _ _ hf { hwants with type := ht }).type
  not_own := by
    intro hg
    by_contra hown
    have hlocal := hcontained t true _ _ _ hf { hwants with not_own := fun h => hown h.2 }
    exact hlocal.not_own ⟨rfl, hg⟩
  parents := hcontained.parents hf hwants
  node_types := hcontained.node_types hf hwants
  path := hcontained.path hf hwants

end Completeness

/-- A filter with all its criteria in use. -/
def selective : EventFilter :=
  .make (.ofType .nodeAdded) (ItemPath.root.child plainName) false (some ["u1"]) (some [plainName])
    true

/-- Of two filters for paths in the tree, one that accepts anything accepts no more than the other
exactly if it is as narrow in each criterion. -/
theorem contained_iff_within {f g : EventFilter} (hf : f.path.IsCanonical)
    (hg : g.path.IsCanonical) (htypes : ∃ t, f.types.contains t = true)
    (hparents : f.parents ≠ some ∅) (hnames : f.nodeTypes ≠ some ∅) :
    (∀ (e : Event) (isLocal : Bool) (log : Log.Buffer),
      (f.accept e isLocal log).1 = true → (g.accept e isLocal log).1 = true) ↔ Within f g := by
  simp only [accept_iff_wants]
  constructor
  · intro h
    have hcontained : ContainedInTree f g := by
      intro t isLocal parent name c hc hwants
      rw [← wants_placedAt_iff hc] at hwants ⊢
      exact h _ _ {} hwants
    obtain ⟨t, parent, name, hwants⟩ := exists_wantsAt htypes hparents hnames
    exact hcontained.within hf hwants
  · intro h e isLocal log hwants
    exact h.wants hf hg hwants

theorem contained_iff_within_selective :
    selective.path.IsCanonical ∧ (everythingAt .root true).path.IsCanonical ∧
      selective.types.contains .nodeAdded = true ∧ selective.parents ≠ some ∅ ∧
      selective.nodeTypes ≠ some ∅ ∧
      (∀ (e : Event) (isLocal : Bool) (log : Log.Buffer), (selective.accept e isLocal log).1 = true →
        ((everythingAt .root true).accept e isLocal log).1 = true) ∧
      ¬∀ (e : Event) (isLocal : Bool) (log : Log.Buffer),
        ((everythingAt .root true).accept e isLocal log).1 = true →
          (selective.accept e isLocal log).1 = true := by
  have hselective : selective.path.IsCanonical := by decide
  have hroot : (everythingAt .root true).path.IsCanonical := by decide
  have hparents : selective.parents ≠ some ∅ := by decide
  have hnames : selective.nodeTypes ≠ some ∅ := by decide
  have hwithin : Within selective (everythingAt .root true) := by
    refine ⟨?_, fun h => ?_, .inl rfl, .inl rfl, .inr ⟨rfl, by decide⟩⟩
    · intro t
      cases t <;> decide
    · cases h
  have hnot : ¬Within (everythingAt .root true) selective := by
    intro h
    cases h.not_own rfl
  refine ⟨hselective, hroot, by decide, hparents, hnames, ?_, ?_⟩
  · exact (contained_iff_within hselective hroot ⟨.nodeAdded, by decide⟩ hparents hnames).2 hwithin
  · rw [contained_iff_within hroot hselective ⟨.nodeAdded, by decide⟩ (by decide) (by decide)]
    exact hnot

end EventFilter

end Observation

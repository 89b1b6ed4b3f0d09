import Observation.Filter.Diagnostics
import Observation.Proofs.Path.Tree

/-!
# What a filter accepts

The five conditions under which an event is accepted are stated of the criteria of the filter and
of the parts of the event: sets by their members, paths by their elements.

* `Event.ComparesAt` - the elements at which an event is compared.
* `EventFilter.Covers` - the elements that satisfy the path of a filter.
* `EventFilter.Admits`, `EventFilter.Wants` - the conditions apart from the path, and all five.
* `EventFilter.passesGuards_iff_admits`, `EventFilter.matchesPath_eq_ok_true_iff` - the two halves
  of the decision.
* `EventFilter.acceptWith_iff_wants` - the decision, which does not depend on the sink.
-/

namespace Observation

/-! ## Where an event is compared -/

/-- The elements at which an event is compared with a filter.  For a change of a node they are those
of its own path; for a change of a property they are those of its owner, and there are none if the
path lies outside the tree or holds no name. -/
def Event.ComparesAt (e : Event) (place : List PathElement) : Prop :=
  match e.type with
  | .nodeAdded | .nodeRemoved => place = e.path.elements
  | .propertyAdded | .propertyRemoved | .propertyChanged =>
    InTree e.path.elements ∧ (∃ name index, .named name index ∈ e.path.elements) ∧
      place = e.path.elements.dropLast

theorem ItemPath.one_le_depth_iff {p : ItemPath} :
    1 ≤ p.depth ↔ ∃ name index, .named name index ∈ p.elements := by
  unfold depth
  rw [Nat.one_le_iff_ne_zero, ← Nat.pos_iff_ne_zero, List.countP_pos_iff]
  constructor
  · rintro ⟨e, he, hnamed⟩
    cases e with
    | named name index => exact ⟨name, index, he⟩
    | root | here | up => cases hnamed
  · rintro ⟨name, index, h⟩
    exact ⟨_, h, rfl⟩

/-- A path in the tree that holds a name, and no other, has an owner: all of it but the end. -/
theorem ItemPath.owner_iff {p : ItemPath} {place : List PathElement} :
    (∃ c, p.ancestor 1 = .ok c ∧ c.elements = place) ↔
      InTree p.elements ∧ (∃ name index, .named name index ∈ p.elements) ∧
        place = p.elements.dropLast := by
  rw [← isCanonical_iff_inTree, ← one_le_depth_iff, List.dropLast_eq_take]
  constructor
  · rintro ⟨c, hc, rfl⟩
    exact ancestor_eq_ok_iff.1 hc
  · rintro ⟨htree, hdepth, rfl⟩
    obtain ⟨c, hc⟩ := exists_ancestor htree hdepth
    exact ⟨c, hc, (ancestor_eq_ok_iff.1 hc).2.2⟩

theorem Event.comparesAt_iff {e : Event} {place : List PathElement} :
    e.ComparesAt place ↔ ∃ c, e.comparisonPath = .ok c ∧ c.elements = place := by
  unfold ComparesAt comparisonPath
  cases e.type with
  | nodeAdded | nodeRemoved =>
    constructor
    · rintro rfl
      exact ⟨e.path, rfl, rfl⟩
    · rintro ⟨c, hc, rfl⟩
      cases hc
      rfl
  | propertyAdded | propertyRemoved | propertyChanged => exact ItemPath.owner_iff.symm

namespace EventFilter

/-! ## The conditions -/

/-- The elements that satisfy the path of a filter: those of that path itself, in the tree or not,
and for a deep filter all those in the tree that continue it. -/
def Covers (f : EventFilter) (place : List PathElement) : Prop :=
  place = f.path.elements ∨
    f.isDeep = true ∧ InTree place ∧ InTree f.path.elements ∧
      f.path.elements <+: place ∧ f.path.elements ≠ place

/-- The conditions for an event to be accepted, its path apart. -/
structure Admits (f : EventFilter) (e : Event) (isLocal : Bool) : Prop where
  type : f.types.bits &&& e.type.bit ≠ 0
  not_own : ¬ (isLocal = true ∧ f.noLocal = true)
  parent : ∀ ids, f.parents = some ids → ∃ id ∈ ids, e.parent = .identified id
  node_type : ∀ names, f.nodeTypes = some names →
    ∃ name ∈ names, name = e.primaryType ∨ name ∈ e.mixinTypes

/-- The conditions for an event to be accepted. -/
structure Wants (f : EventFilter) (e : Event) (isLocal : Bool) : Prop
    extends Admits f e isLocal where
  path : ∃ place, e.ComparesAt place ∧ f.Covers place

/-! ## The decision -/

theorem allowsParent_iff {f : EventFilter} {parent : Parent} :
    f.allowsParent parent = true ↔
      ∀ ids, f.parents = some ids → ∃ id ∈ ids, parent = .identified id := by
  unfold allowsParent
  cases f.parents with
  | none => simp
  | some ids =>
    cases parent with
    | identified id => simp [Parent.id?]
    | located path => simp [Parent.id?]

theorem allowsTypes_iff {f : EventFilter} {e : Event} :
    f.allowsTypes e.nodeTypes = true ↔ ∀ names, f.nodeTypes = some names →
      ∃ name ∈ names, name = e.primaryType ∨ name ∈ e.mixinTypes := by
  unfold allowsTypes
  cases f.nodeTypes with
  | none => simp
  | some names =>
    simp only [List.any_eq_true, decide_eq_true_eq, Option.some.injEq, forall_eq', Event.nodeTypes,
      List.mem_cons, OrderedSet.mem_def]
    exact exists_congr fun name => and_comm

theorem passesGuards_iff_admits {f : EventFilter} {e : Event} {isLocal : Bool} :
    f.passesGuards e isLocal = true ↔ f.Admits e isLocal := by
  have htype : f.types.contains e.type = true ↔ f.types.bits &&& e.type.bit ≠ 0 := bne_iff_ne
  have hlocal : (!(isLocal && f.noLocal)) = true ↔ ¬ (isLocal = true ∧ f.noLocal = true) := by
    rw [Bool.not_eq_true', ← Bool.not_eq_true, Bool.and_eq_true]
  unfold passesGuards
  rw [Bool.and_eq_true, Bool.and_eq_true, Bool.and_eq_true, htype, hlocal, allowsParent_iff,
    allowsTypes_iff]
  constructor
  · rintro ⟨⟨⟨ht, hl⟩, hp⟩, hn⟩
    exact ⟨ht, hl, hp, hn⟩
  · rintro ⟨ht, hl, hp, hn⟩
    exact ⟨⟨⟨ht, hl⟩, hp⟩, hn⟩

theorem covers_iff {f : EventFilter} {c : ItemPath} :
    f.Covers c.elements ↔
      c = f.path ∨ f.isDeep = true ∧ c.isDescendantOf f.path = .ok true := by
  unfold Covers
  simp only [ItemPath.isDescendantOf_eq_ok_iff, ItemPath.isCanonical_iff_inTree, true_iff]
  exact or_congr_left ⟨ItemPath.ext_elements, fun h => h ▸ rfl⟩

theorem matchesPath_eq_ok_true_iff {f : EventFilter} {e : Event} :
    f.matchesPath e = .ok true ↔ ∃ place, e.ComparesAt place ∧ f.Covers place := by
  have hmatch : f.matchesPath e = .ok true ↔
      ∃ c, e.comparisonPath = .ok c ∧ f.Covers c.elements := by
    unfold matchesPath
    rw [Except.bind_eq_ok_iff]
    refine exists_congr fun c => and_congr_right fun _ => ?_
    rw [covers_iff]
    by_cases hc : c = f.path
    · simp [hc]
    · by_cases hd : f.isDeep = true
      · simp [hc, hd]
      · simp [hc, hd]
  rw [hmatch]
  constructor
  · rintro ⟨c, hc, hcovers⟩
    exact ⟨c.elements, Event.comparesAt_iff.2 ⟨c, hc, rfl⟩, hcovers⟩
  · rintro ⟨place, hplace, hcovers⟩
    obtain ⟨c, hc, rfl⟩ := Event.comparesAt_iff.1 hplace
    exact ⟨c, hc, hcovers⟩

theorem verdict_eq_accepted_iff {f : EventFilter} {e : Event} {isLocal : Bool} :
    f.verdict e isLocal = .accepted ↔ f.Wants e isLocal := by
  have hwants : f.Wants e isLocal ↔
      f.passesGuards e isLocal = true ∧ f.matchesPath e = .ok true := by
    rw [passesGuards_iff_admits, matchesPath_eq_ok_true_iff]
    exact ⟨fun h => ⟨h.toAdmits, h.path⟩, fun h => ⟨h.1, h.2⟩⟩
  rw [hwants]
  unfold verdict
  cases f.passesGuards e isLocal with
  | false => simp
  | true =>
    cases f.matchesPath e with
    | error error => simp
    | ok matched => cases matched <;> simp [Verdict.ofBool]

theorem isAccepted_verdict_iff {f : EventFilter} {e : Event} {isLocal : Bool} :
    (f.verdict e isLocal).isAccepted = true ↔ f.Wants e isLocal := by
  rw [← verdict_eq_accepted_iff]
  cases f.verdict e isLocal <;> simp [Verdict.isAccepted]

instance (f : EventFilter) (e : Event) (isLocal : Bool) : Decidable (f.Wants e isLocal) :=
  decidable_of_iff _ isAccepted_verdict_iff

theorem acceptWith_fst {σ : Type} (f : EventFilter) (e : Event) (isLocal : Bool)
    (sink : DiagnosticSink σ) (state : σ) :
    (f.acceptWith e isLocal sink state).1 = (f.verdict e isLocal).isAccepted := by
  unfold acceptWith
  cases f.verdict e isLocal <;> rfl

theorem accept_iff_wants {f : EventFilter} {e : Event} {isLocal : Bool} {log : Log.Buffer} :
    (f.accept e isLocal log).1 = true ↔ f.Wants e isLocal := by
  unfold accept
  rw [acceptWith_fst, isAccepted_verdict_iff]

/-- An event is accepted exactly if it meets the five conditions, whatever a sink makes of the
malformed paths it is told about. -/
theorem acceptWith_iff_wants (f : EventFilter) (e : Event) (isLocal : Bool) {σ : Type}
    (sink : DiagnosticSink σ) (state : σ) :
    (f.acceptWith e isLocal sink state).1 = true ↔ f.Wants e isLocal := by
  rw [acceptWith_fst, ← verdict_eq_accepted_iff]
  cases f.verdict e isLocal <;> simp [Verdict.isAccepted]

end EventFilter

end Observation

import Observation.Proofs.Filter.Decision
import Observation.Proofs.Path.Fault
import Observation.Proofs.Path.Text

/-!
# What a filter reports

A filter tells its sink of an event if all but the path of the event is as wanted, and the paths
cannot be compared: the changed property has no owner, or the filter is deep, the paths differ and
one of them lies outside the tree.

* `EventFilter.Faults` - the path at fault where paths cannot be compared, and the error about it.
* `EventFilter.Reports`, `EventFilter.IsSilent` - what a decision does with any sink.
* `EventFilter.verdict_eq_malformed_iff` - the verdict that is reported.
* `EventFilter.reports_exactly` - when there is a report, which one, and what it is about.
-/

namespace Observation

/-! ## Places in the tree -/

theorem InTree.dropLast {es : List PathElement} (h : InTree es)
    (hnamed : ∃ name index, .named name index ∈ es) : InTree es.dropLast := by
  refine h.of_prefix ?_ (List.dropLast_prefix es)
  obtain ⟨name, index, hmem⟩ := hnamed
  match es, h.root_first with
  | .root :: [], _ => simp at hmem
  | .root :: e :: es, _ => exact List.cons_ne_nil _ _

namespace Event

variable {e : Event}

/-- The place at which an event is compared lies in the tree if its path does. -/
theorem ComparesAt.inTree {place : List PathElement} (h : e.ComparesAt place)
    (hpath : InTree e.path.elements) : InTree place := by
  unfold ComparesAt at h
  cases htype : e.type with
  | nodeAdded | nodeRemoved =>
    rw [htype] at h
    exact h ▸ hpath
  | propertyAdded | propertyRemoved | propertyChanged =>
    rw [htype] at h
    obtain ⟨-, hnamed, rfl⟩ := h
    exact hpath.dropLast hnamed

theorem comparesAt_elements_iff {c : ItemPath} :
    e.ComparesAt c.elements ↔ e.comparisonPath = .ok c := by
  rw [comparesAt_iff]
  constructor
  · rintro ⟨c', hc', helements⟩
    exact ItemPath.ext_elements helements ▸ hc'
  · intro hc
    exact ⟨c, hc, rfl⟩

theorem comparisonPath_eq_error_iff {error : PathError} :
    e.comparisonPath = .error error ↔
      e.type.isNodeEvent = false ∧ e.path.ancestor 1 = .error error := by
  unfold comparisonPath
  cases e.type.isNodeEvent <;> simp

end Event

namespace ItemPath

variable {p : ItemPath} {error : PathError}

/-- A path has no owner if it lies outside the tree, or else if it holds no name. -/
theorem ownerless_iff :
    p.ancestor 1 = .error error ↔ p.OutOfTree error ∨
      InTree p.elements ∧ (∀ name index, .named name index ∉ p.elements) ∧
        error = .ancestorOutOfRange p.text 1 0 := by
  have hdepth : p.depth < 1 ↔ ∀ name index, .named name index ∉ p.elements := by
    rw [← Nat.not_le, one_le_depth_iff]
    push Not
    rfl
  rw [ancestor_eq_error_iff, isCanonical_iff_inTree, hdepth]
  refine or_congr_right (and_congr_right fun _ => and_congr_right fun hnone => ?_)
  rw [Nat.lt_one_iff.1 (hdepth.2 hnone)]

/-- The only path in the tree without a name is the root. -/
theorem eq_root_of_ownerless (hpath : InTree p.elements)
    (hnone : ∀ name index, .named name index ∉ p.elements) : p = root := by
  have helements := elements_of_isAbsolute (isCanonical_iff_inTree.2 hpath).1
  have htail : p.elements.tail = [] := by
    refine List.eq_nil_iff_forall_not_mem.2 fun e he => ?_
    have hnamed := isNamed_of_mem_tail hpath e he
    cases e with
    | named name index => exact hnone name index (List.mem_of_mem_tail he)
    | root | here | up => cases hnamed
  rw [htail] at helements
  exact ext_elements helements

end ItemPath

namespace EventFilter

/-! ## Errors -/

/-- The path at fault where an event and a filter cannot be compared, and the error about it.  It is
the path of a changed property that has no owner.  Elsewhere it is the place of the event, or else
the path of the filter, but only if the filter is deep and these two differ. -/
inductive Faults (f : EventFilter) (e : Event) : ItemPath → PathError → Prop
  | outside {error : PathError} (hproperty : e.type.isNodeEvent = false)
      (hpath : e.path.OutOfTree error) : Faults f e e.path error
  | ownerless (hproperty : e.type.isNodeEvent = false) (hpath : InTree e.path.elements)
      (hnone : ∀ name index, .named name index ∉ e.path.elements) :
      Faults f e e.path (.ancestorOutOfRange e.path.text 1 0)
  | place {error : PathError} {c : ItemPath} (hc : e.ComparesAt c.elements)
      (hdeep : f.isDeep = true) (hne : c ≠ f.path) (hpath : c.OutOfTree error) : Faults f e c error
  | base {error : PathError} {c : ItemPath} (hc : e.ComparesAt c.elements)
      (hdeep : f.isDeep = true) (hne : c ≠ f.path) (hplace : InTree c.elements)
      (hpath : f.path.OutOfTree error) : Faults f e f.path error

section Faults

variable {f : EventFilter} {e : Event} {isLocal : Bool} {p : ItemPath} {error : PathError}

/-- The error holds the text of the path at fault. -/
theorem Faults.subject (h : f.Faults e p error) : error.subject = some p.text := by
  cases h with
  | outside _ hpath => exact hpath.subject
  | ownerless => rfl
  | place _ _ _ hpath => exact hpath.subject
  | base _ _ _ _ hpath => exact hpath.subject

theorem matchesPath_eq_error_iff : f.matchesPath e = .error error ↔ ∃ p, f.Faults e p error := by
  have hcompare (c : ItemPath) :
      (if c = f.path then pure true
        else if f.isDeep then c.isDescendantOf f.path else pure false) = .error error ↔
      f.isDeep = true ∧ c ≠ f.path ∧
        (c.OutOfTree error ∨ InTree c.elements ∧ f.path.OutOfTree error) := by
    rw [← ItemPath.isCanonical_iff_inTree, ← ItemPath.isDescendantOf_eq_error_iff]
    by_cases hc : c = f.path
    · simp [hc, pure, Except.pure]
    · cases hd : f.isDeep with
      | false => simp [hc, pure, Except.pure]
      | true => simp [hc]
  unfold matchesPath
  rw [Except.bind_eq_error_iff, Event.comparisonPath_eq_error_iff, ItemPath.ownerless_iff]
  simp only [hcompare, ← Event.comparesAt_elements_iff]
  constructor
  · rintro (⟨hproperty, hpath | ⟨hpath, hnone, rfl⟩⟩ | ⟨c, hc, hdeep, hne, hpath | ⟨hplace, hpath⟩⟩)
    · exact ⟨_, .outside hproperty hpath⟩
    · exact ⟨_, .ownerless hproperty hpath hnone⟩
    · exact ⟨_, .place hc hdeep hne hpath⟩
    · exact ⟨_, .base hc hdeep hne hplace hpath⟩
  · rintro ⟨p, h⟩
    cases h with
    | outside hproperty hpath => exact .inl ⟨hproperty, .inl hpath⟩
    | ownerless hproperty hpath hnone => exact .inl ⟨hproperty, .inr ⟨hpath, hnone, rfl⟩⟩
    | place hc hdeep hne hpath => exact .inr ⟨_, hc, hdeep, hne, .inl hpath⟩
    | base hc hdeep hne hplace hpath => exact .inr ⟨_, hc, hdeep, hne, .inr ⟨hplace, hpath⟩⟩

theorem verdict_eq_malformed_iff :
    f.verdict e isLocal = .malformed error ↔ f.Admits e isLocal ∧ ∃ p, f.Faults e p error := by
  rw [← passesGuards_iff_admits, ← matchesPath_eq_error_iff]
  unfold verdict
  cases f.passesGuards e isLocal with
  | false => simp
  | true =>
    cases f.matchesPath e with
    | error error => simp
    | ok matched => cases matched <;> simp [Verdict.ofBool]

/-- There is a path at fault if a changed property has no owner, or if a deep filter has to compare
two paths that differ and are not both in the tree. -/
theorem exists_faults_iff :
    (∃ p error, f.Faults e p error) ↔
      (e.type.isNodeEvent = false ∧ ∃ error, e.path.ancestor 1 = .error error) ∨
        ∃ c, e.comparisonPath = .ok c ∧ f.isDeep = true ∧ c ≠ f.path ∧
          ¬(c.IsCanonical ∧ f.path.IsCanonical) := by
  constructor
  · rintro ⟨p, error, h⟩
    cases h with
    | outside hproperty hpath =>
      exact .inl ⟨hproperty, error, ItemPath.ownerless_iff.2 (.inl hpath)⟩
    | ownerless hproperty hpath hnone =>
      exact .inl ⟨hproperty, _, ItemPath.ownerless_iff.2 (.inr ⟨hpath, hnone, rfl⟩)⟩
    | place hc hdeep hne hpath =>
      exact .inr ⟨_, Event.comparesAt_elements_iff.1 hc, hdeep, hne,
        fun htree => hpath.not_isCanonical htree.1⟩
    | base hc hdeep hne hplace hpath =>
      exact .inr ⟨_, Event.comparesAt_elements_iff.1 hc, hdeep, hne,
        fun htree => hpath.not_isCanonical htree.2⟩
  · rintro (⟨hproperty, error, herror⟩ | ⟨c, hc, hdeep, hne, htree⟩)
    · rcases ItemPath.ownerless_iff.1 herror with hpath | ⟨hpath, hnone, -⟩
      · exact ⟨_, _, .outside hproperty hpath⟩
      · exact ⟨_, _, .ownerless hproperty hpath hnone⟩
    · have hplace := Event.comparesAt_elements_iff.2 hc
      by_cases hcanonical : c.IsCanonical
      · obtain ⟨error, hpath⟩ := ItemPath.exists_outOfTree_iff.2 fun h => htree ⟨hcanonical, h⟩
        exact ⟨_, _, .base hplace hdeep hne (ItemPath.isCanonical_iff_inTree.1 hcanonical) hpath⟩
      · obtain ⟨error, hpath⟩ := ItemPath.exists_outOfTree_iff.2 hcanonical
        exact ⟨_, _, .place hplace hdeep hne hpath⟩

theorem Faults.at_root (h : f.Faults e p error) (hf : InTree f.path.elements)
    (he : InTree e.path.elements) : e.type.isNodeEvent = false ∧ e.path = .root := by
  rw [← ItemPath.isCanonical_iff_inTree] at hf
  cases h with
  | outside _ hpath => exact absurd (ItemPath.isCanonical_iff_inTree.2 he) hpath.not_isCanonical
  | ownerless hproperty hpath hnone => exact ⟨hproperty, ItemPath.eq_root_of_ownerless hpath hnone⟩
  | place hc _ _ hpath =>
    exact absurd (ItemPath.isCanonical_iff_inTree.2 (hc.inTree he)) hpath.not_isCanonical
  | base _ _ _ _ hpath => exact absurd hf hpath.not_isCanonical

end Faults

/-! ## Reports -/

/-- The event is rejected, and the sink is told of the error once, whichever sink it is. -/
def Reports (f : EventFilter) (e : Event) (isLocal : Bool) (error : PathError) : Prop :=
  ∀ (σ : Type) (sink : DiagnosticSink σ) (state : σ),
    f.acceptWith e isLocal sink state = (false, sink f e error state)

/-- The sink is not told of anything, whichever sink it is. -/
def IsSilent (f : EventFilter) (e : Event) (isLocal : Bool) : Prop :=
  ∀ (σ : Type) (sink : DiagnosticSink σ) (state : σ), (f.acceptWith e isLocal sink state).2 = state

section Reports

variable {f : EventFilter} {e : Event} {isLocal : Bool} {error : PathError}

theorem reports_iff : f.Reports e isLocal error ↔ f.verdict e isLocal = .malformed error := by
  constructor
  · intro h
    have hrecorded := h _ recordingSink []
    unfold acceptWith at hrecorded
    cases hv : f.verdict e isLocal with
    | accepted => simp [hv, recordingSink] at hrecorded
    | rejected => simp [hv, recordingSink] at hrecorded
    | malformed error' =>
      rw [hv] at hrecorded
      simpa [recordingSink] using hrecorded
  · intro h σ sink state
    unfold acceptWith
    rw [h]

theorem isSilent_iff : f.IsSilent e isLocal ↔ ∀ error, ¬f.Reports e isLocal error := by
  constructor
  · intro h error hreports
    have hsilent := h _ recordingSink []
    rw [hreports _ recordingSink []] at hsilent
    simp [recordingSink] at hsilent
  · intro h σ sink state
    unfold acceptWith
    cases hv : f.verdict e isLocal with
    | accepted => rfl
    | rejected => rfl
    | malformed error => exact absurd (reports_iff.2 hv) (h error)

end Reports

/-- A sink is told of an event once or not at all.  It is told if nothing but the path speaks
against the event and some path is at fault: that of a changed property without an owner, or one of
two that a deep filter has to compare.  The error is about that path, and its text is read as the
path.  If the paths of both are in the tree, only a property of the root is reported. -/
theorem reports_exactly (f : EventFilter) (e : Event) (isLocal : Bool) :
    (f.IsSilent e isLocal ↔ ∀ error, ¬f.Reports e isLocal error) ∧
    (∀ error, f.Reports e isLocal error ↔ f.Admits e isLocal ∧ ∃ p, f.Faults e p error) ∧
    ((∃ p error, f.Faults e p error) ↔
      (e.type.isNodeEvent = false ∧ ∃ error, e.path.ancestor 1 = .error error) ∨
        ∃ c, e.comparisonPath = .ok c ∧ f.isDeep = true ∧ c ≠ f.path ∧
          ¬(c.IsCanonical ∧ f.path.IsCanonical)) ∧
    (∀ p error, f.Faults e p error →
      error.subject = some p.text ∧ ItemPath.parse p.text = .ok p) ∧
    (InTree f.path.elements → InTree e.path.elements → ∀ error, f.Reports e isLocal error →
      e.type.isNodeEvent = false ∧ e.path = .root) := by
  refine ⟨isSilent_iff, ?_, exists_faults_iff, ?_, ?_⟩
  · intro error
    rw [reports_iff, verdict_eq_malformed_iff]
  · intro p error h
    exact ⟨h.subject, p.parse_text⟩
  · intro hf he error h
    obtain ⟨-, p, hfaults⟩ := verdict_eq_malformed_iff.1 (reports_iff.1 h)
    exact hfaults.at_root hf he

end EventFilter

end Observation

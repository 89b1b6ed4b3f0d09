import Observation.Proofs.Filter.Sample

/-!
# Events outside the tree

There may be no place in the tree to compare an event at.  Filters are meant to reject such an event
and to report it once.  They do, unless the answer is found before the tree is asked for: the path
of a changed node is first compared for equality, and a filter that is not deep stops there.

* `Event.IsMisplaced` - there is no place in the tree to compare an event at.
* `EventFilter.FailsClosed` - an event is rejected, and reported once.
* `EventFilter.Overlooks` - a filter decides about an event without asking for the tree.
* `EventFilter.acceptWith_misplaced` - misplaced events fail closed exactly if they are not
  overlooked.
-/

namespace Observation

/-- There is no place in the tree to compare an event at: the path of a changed node lies outside
the tree, and that of a changed property does so or holds no name. -/
def Event.IsMisplaced (e : Event) : Prop :=
  match e.type with
  | .nodeAdded | .nodeRemoved => ¬InTree e.path.elements
  | .propertyAdded | .propertyRemoved | .propertyChanged =>
    ¬InTree e.path.elements ∨ ∀ name index, .named name index ∉ e.path.elements

/-- A changed node is compared at its own path, in the tree or not. -/
theorem Event.comparisonPath_of_isNodeEvent {e : Event} (h : e.type.isNodeEvent = true) :
    e.comparisonPath = .ok e.path := by
  unfold comparisonPath
  rw [if_pos h]

/-- There is no place to compare a misplaced property at. -/
theorem Event.IsMisplaced.comparisonPath_ne_ok {e : Event} (h : e.IsMisplaced)
    (hprop : e.type.isNodeEvent = false) (c : ItemPath) : e.comparisonPath ≠ .ok c := by
  intro hc
  have hplace : e.ComparesAt c.elements := Event.comparesAt_iff.2 ⟨c, hc, rfl⟩
  unfold IsMisplaced at h
  unfold ComparesAt at hplace
  cases htype : e.type with
  | nodeAdded | nodeRemoved =>
    rw [htype] at hprop
    cases hprop
  | propertyAdded | propertyRemoved | propertyChanged =>
    rw [htype] at h hplace
    obtain ⟨htree, ⟨name, index, hnamed⟩, -⟩ := hplace
    rcases h with h | h
    · exact h htree
    · exact h name index hnamed

/-- The path of a misplaced node lies outside the tree. -/
theorem Event.IsMisplaced.not_isCanonical {e : Event} (h : e.IsMisplaced)
    (hnode : e.type.isNodeEvent = true) : ¬e.path.IsCanonical := by
  rw [ItemPath.isCanonical_iff_inTree]
  unfold IsMisplaced at h
  cases htype : e.type with
  | nodeAdded | nodeRemoved =>
    rw [htype] at h
    exact h
  | propertyAdded | propertyRemoved | propertyChanged =>
    rw [htype] at hnode
    cases hnode

theorem isMisplaced_strayEvent : strayEvent.IsMisplaced := by
  show ¬InTree strayPath.elements
  decide

/-- The event is rejected and reported once, whichever the sink. -/
def EventFilter.FailsClosed (f : EventFilter) (e : Event) (isLocal : Bool) : Prop :=
  ∃ error, ∀ {σ : Type} (sink : DiagnosticSink σ) (state : σ),
    f.acceptWith e isLocal sink state = (false, sink f e error state)

/-- The filter decides about a changed node without asking whether its path lies in the tree. -/
def EventFilter.Overlooks (f : EventFilter) (e : Event) : Prop :=
  e.type.isNodeEvent = true ∧ (e.path = f.path ∨ f.isDeep = false)

namespace EventFilter

/-! ## What the comparison of paths leads to -/

section Outcome

variable {f : EventFilter} {e : Event} {isLocal : Bool}

theorem acceptWith_of_matchesPath_ok {matched : Bool} (hadmits : f.Admits e isLocal)
    (h : f.matchesPath e = .ok matched) {σ : Type} (sink : DiagnosticSink σ) (state : σ) :
    f.acceptWith e isLocal sink state = (matched, state) := by
  have hverdict : f.verdict e isLocal = .ofBool matched := by
    unfold verdict
    rw [if_pos (passesGuards_iff_admits.2 hadmits), h]
  unfold acceptWith
  rw [hverdict]
  cases matched with
  | true => rfl
  | false => rfl

theorem acceptWith_of_matchesPath_error {error : PathError} (hadmits : f.Admits e isLocal)
    (h : f.matchesPath e = .error error) {σ : Type} (sink : DiagnosticSink σ) (state : σ) :
    f.acceptWith e isLocal sink state = (false, sink f e error state) := by
  have hverdict : f.verdict e isLocal = .malformed error := by
    unfold verdict
    rw [if_pos (passesGuards_iff_admits.2 hadmits), h]
  unfold acceptWith
  rw [hverdict]

theorem matchesPath_of_overlooks (h : f.Overlooks e) :
    f.matchesPath e = .ok (decide (e.path = f.path)) := by
  obtain ⟨hnode, hsettled⟩ := h
  unfold matchesPath
  rw [Event.comparisonPath_of_isNodeEvent hnode]
  by_cases heq : e.path = f.path
  · simp [heq, bind, Except.bind, pure, Except.pure]
  · have hshallow : f.isDeep = false := hsettled.resolve_left heq
    simp [heq, hshallow, bind, Except.bind, pure, Except.pure]

/-- A filter that has to place a misplaced event in the tree fails to. -/
theorem exists_matchesPath_error (hmis : e.IsMisplaced) (h : ¬f.Overlooks e) :
    ∃ error, f.matchesPath e = .error error := by
  apply Except.exists_eq_error
  intro matched hok
  obtain ⟨c, hc, hmatch⟩ := Except.bind_eq_ok_iff.1 hok
  cases hnode : e.type.isNodeEvent with
  | false => exact hmis.comparisonPath_ne_ok hnode c hc
  | true =>
    rw [Event.comparisonPath_of_isNodeEvent hnode] at hc
    cases hc
    have hpaths : ¬(e.path = f.path ∨ f.isDeep = false) := fun hs => h ⟨hnode, hs⟩
    rw [not_or, Bool.not_eq_false] at hpaths
    rw [if_neg hpaths.1, if_pos hpaths.2] at hmatch
    exact hmis.not_isCanonical hnode (ItemPath.isDescendantOf_eq_ok_iff.1 hmatch).1

/-- A misplaced event that nothing but its path speaks against fails closed, unless the filter
overlooks it: then it is not reported, and even accepted if the paths are equal. -/
theorem acceptWith_misplaced (hadmits : f.Admits e isLocal) (hmis : e.IsMisplaced) :
    (f.FailsClosed e isLocal ↔ ¬f.Overlooks e) ∧
      (f.Overlooks e → ∀ {σ : Type} (sink : DiagnosticSink σ) (state : σ),
        f.acceptWith e isLocal sink state = (decide (e.path = f.path), state)) := by
  have hover : f.Overlooks e → ∀ {σ : Type} (sink : DiagnosticSink σ) (state : σ),
      f.acceptWith e isLocal sink state = (decide (e.path = f.path), state) := by
    intro h σ sink state
    exact acceptWith_of_matchesPath_ok hadmits (matchesPath_of_overlooks h) sink state
  refine ⟨⟨?_, ?_⟩, hover⟩
  · rintro ⟨error, hclosed⟩ h
    -- A sink that counts tells the two outcomes apart.
    have hcount := hclosed (fun _ _ _ n => n + 1) 0
    rw [hover h] at hcount
    exact Nat.zero_ne_one (congrArg Prod.snd hcount)
  · intro h
    obtain ⟨error, herror⟩ := exists_matchesPath_error hmis h
    refine ⟨error, ?_⟩
    intro σ sink state
    exact acceptWith_of_matchesPath_error hadmits herror sink state

end Outcome

theorem acceptWith_misplaced_stray :
    (everythingAt .root true).Admits strayEvent false ∧ strayEvent.IsMisplaced ∧
      (everythingAt .root true).FailsClosed strayEvent false := by
  have hadmits := admits_everythingAt .root true strayEvent false
  have hlooks : ¬(everythingAt .root true).Overlooks strayEvent := by
    rintro ⟨-, hpath | hshallow⟩
    · exact absurd hpath (by decide)
    · cases hshallow
  have houtcome := acceptWith_misplaced hadmits isMisplaced_strayEvent
  exact ⟨hadmits, isMisplaced_strayEvent, houtcome.1.2 hlooks⟩

/-- Nothing but its path speaks against the event, and yet one filter accepts it and another one
rejects it without a report. -/
theorem stray_not_failsClosed :
    strayEvent.IsMisplaced ∧
      ((everythingAt strayPath true).Admits strayEvent false ∧
        (everythingAt strayPath true).acceptWith strayEvent false recordingSink [] = (true, []) ∧
        ¬(everythingAt strayPath true).FailsClosed strayEvent false) ∧
      (everythingAt .root false).Admits strayEvent false ∧
        (everythingAt .root false).acceptWith strayEvent false recordingSink [] = (false, []) ∧
        ¬(everythingAt .root false).FailsClosed strayEvent false := by
  have haccepted :
      (everythingAt strayPath true).acceptWith strayEvent false recordingSink [] = (true, []) := by
    decide
  have hsilent :
      (everythingAt .root false).acceptWith strayEvent false recordingSink [] = (false, []) := by
    decide
  refine ⟨isMisplaced_strayEvent, ⟨admits_everythingAt _ _ _ _, haccepted, ?_⟩,
    admits_everythingAt _ _ _ _, hsilent, ?_⟩
  · rintro ⟨error, hclosed⟩
    have hreported := hclosed recordingSink []
    rw [haccepted] at hreported
    cases hreported
  · rintro ⟨error, hclosed⟩
    have hreported := hclosed recordingSink []
    rw [hsilent] at hreported
    cases hreported

end EventFilter

end Observation

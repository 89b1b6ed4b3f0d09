import Observation.Event

/-!
# Event filters

A filter names the events a subscriber wants.  A set that is absent restricts nothing, and an
empty one matches nothing.

* `EventFilter`, `EventFilter.make` - the six criteria.
* `EventFilter.verdict` - what a filter says about an event: accepted, rejected, or rejected
  because a path is malformed.
* `DiagnosticSink`, `EventFilter.acceptWith` - the same decision, with malformed paths reported.
-/

namespace Observation

/-- The events that a subscriber wants. -/
structure EventFilter where
  types : TypeMask
  path : ItemPath
  isDeep : Bool
  parents : Option (OrderedSet NodeId)
  nodeTypes : Option (OrderedSet QualifiedName)
  noLocal : Bool
  deriving DecidableEq, Repr

/-- What a filter says about an event. -/
inductive Verdict where
  | accepted
  | rejected
  | malformed (error : PathError)
  deriving DecidableEq, Repr

namespace Verdict

/-- Whether the event is wanted; one with a malformed path is not. -/
def isAccepted : Verdict → Bool
  | accepted => true
  | rejected | malformed _ => false

/-- The error to be reported, if there is one. -/
def error? : Verdict → Option PathError
  | malformed error => some error
  | accepted | rejected => none

/-- The verdict that goes with a truth value. -/
def ofBool (b : Bool) : Verdict :=
  if b then accepted else rejected

end Verdict

/-- Receives the malformed paths met in evaluating a filter, and keeps a state of type `σ`. -/
abbrev DiagnosticSink (σ : Type) : Type := EventFilter → Event → PathError → σ → σ

namespace EventFilter

/-- The filter with these criteria; neither the order of listed values nor their repetition
matters. -/
def make (types : TypeMask) (path : ItemPath) (isDeep : Bool) (parents : Option (List NodeId))
    (nodeTypes : Option (List QualifiedName)) (noLocal : Bool) : EventFilter :=
  ⟨types, path, isDeep, parents.map .ofList, nodeTypes.map .ofList, noLocal⟩

/-- Whether the owner of the changed item is one the filter allows; an owner without an identifier
is none of the listed ones. -/
def allowsParent (f : EventFilter) (parent : Parent) : Bool :=
  match f.parents with
  | none => true
  | some ids =>
    match parent.id? with
    | some id => decide (id ∈ ids)
    | none => false

/-- Whether one of the node types is one the filter allows. -/
def allowsTypes (f : EventFilter) (nodeTypes : List QualifiedName) : Bool :=
  match f.nodeTypes with
  | none => true
  | some names => nodeTypes.any fun n => decide (n ∈ names)

/-- Whether the path of an event is the path of the filter, or below it if the filter is deep. -/
def matchesPath (f : EventFilter) (e : Event) : Except PathError Bool := do
  let path ← e.comparisonPath
  if path = f.path then
    return true
  else if f.isDeep then
    path.isDescendantOf f.path
  else
    return false

/-- Whether an event passes all criteria but the path. -/
def passesGuards (f : EventFilter) (e : Event) (isLocal : Bool) : Bool :=
  f.types.contains e.type && !(isLocal && f.noLocal) && f.allowsParent e.parent
    && f.allowsTypes e.nodeTypes

/-- What the filter says about an event, which may come from the evaluating session itself. -/
def verdict (f : EventFilter) (e : Event) (isLocal : Bool) : Verdict :=
  if f.passesGuards e isLocal then
    match f.matchesPath e with
    | .ok matched => .ofBool matched
    | .error error => .malformed error
  else .rejected

/-- Decides about an event, and tells the sink of a malformed path. -/
def acceptWith {σ : Type} (f : EventFilter) (e : Event) (isLocal : Bool)
    (sink : DiagnosticSink σ) (state : σ) : Bool × σ :=
  match f.verdict e isLocal with
  | .malformed error => (false, sink f e error state)
  | v => (v.isAccepted, state)

end EventFilter

end Observation

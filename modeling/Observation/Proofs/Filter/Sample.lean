import Observation.Proofs.Filter.Decision
import Observation.Proofs.Name

/-!
# Sample filters and events

The simplest filters have no criterion but the path, and admit every event.  The simplest event that
lies nowhere in the tree is a node at a path that does not start at the root.

* `EventFilter.everythingAt`, `EventFilter.admits_everythingAt` - filters for everything at a path.
* `strayPath`, `strayEvent` - a path outside the tree, and an event there.
-/

namespace Observation

/-- The filter for everything at a path, and below it if it is deep. -/
def EventFilter.everythingAt (path : ItemPath) (isDeep : Bool) : EventFilter :=
  .make .all path isDeep none none false

/-- Nothing but its path speaks against an event. -/
theorem EventFilter.admits_everythingAt (path : ItemPath) (isDeep : Bool) (e : Event)
    (isLocal : Bool) : (everythingAt path isDeep).Admits e isLocal where
  type := by
    show TypeMask.all.bits &&& e.type.bit ≠ 0
    cases e.type <;> decide
  not_own := fun h => nomatch h.2
  parent := fun _ h => nomatch h
  node_type := fun _ h => nomatch h

/-- A path that does not start at the root. -/
def strayPath : ItemPath :=
  .relative (.named plainName 1) [] (by decide) (List.forall_mem_nil _)

/-- A node that appears at a path that does not start at the root. -/
def strayEvent : Event :=
  .make .nodeAdded (.identified "u1") strayPath plainName []

end Observation

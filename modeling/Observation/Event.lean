import Observation.EventType
import Observation.OrderedSet
import Observation.Path.Relation

/-!
# Events

An event describes one committed change: its type, the node that owns the changed item, the path
of that item, and the node types of the owner.

* `Parent` - the owning node, by identifier or by path.
* `Event`, `Event.make` - events; mixin types form a set.
* `Event.nodeTypes` - the primary type, then the mixin types.
-/

namespace Observation

/-- The identifier of a node; any text is one. -/
abbrev NodeId : Type := String

/-- The node that owns a changed item. -/
inductive Parent where
  | identified (id : NodeId)
  | located (path : ItemPath)
  deriving DecidableEq, Repr

namespace Parent

/-- The identifier, where the node is known by one. -/
def id? : Parent → Option NodeId
  | identified id => some id
  | located _ => none

/-- Whether the node is known by its path only. -/
def isLocated : Parent → Bool
  | identified _ => false
  | located _ => true

end Parent

/-- One committed change. -/
structure Event where
  type : EventType
  parent : Parent
  path : ItemPath
  primaryType : QualifiedName
  mixinTypes : OrderedSet QualifiedName
  deriving DecidableEq, Repr

namespace Event

/-- The event with these parts; neither the order of the mixin types nor their repetition
matters. -/
def make (type : EventType) (parent : Parent) (path : ItemPath) (primaryType : QualifiedName)
    (mixinTypes : List QualifiedName) : Event :=
  ⟨type, parent, path, primaryType, .ofList mixinTypes⟩

/-- The primary type, then the mixin types in order. -/
def nodeTypes (e : Event) : List QualifiedName :=
  e.primaryType :: e.mixinTypes.toList

/-- The path that filters compare: that of a changed node itself, and that of the owner of a
changed property. -/
def comparisonPath (e : Event) : Except PathError ItemPath :=
  if e.type.isNodeEvent then .ok e.path else e.path.ancestor 1

end Event

end Observation

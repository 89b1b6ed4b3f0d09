import Observation.Text.Quoted

/-!
# Event types and masks

Five kinds of change are known, each with a bit of its own.  A mask is a word of 32 bits; bits of
no known type are carried along unchanged.

* `EventType` - the kinds of change, their bits and their names.
* `EventType.ofBit?`, `EventType.ofBit` - the type of a bit, where there is one; for the latter a bit
  of no type is the error.
* `TypeMask` - masks; `TypeMask.contains`, `TypeMask.insert`, `TypeMask.ofList`.
* `TypeMask.types` - the types of a mask in bit order, or the lowest bit of no known type.
-/

namespace Observation

/-- A kind of change to an item of the repository. -/
inductive EventType where
  | nodeAdded
  | nodeRemoved
  | propertyAdded
  | propertyRemoved
  | propertyChanged
  deriving DecidableEq, Repr

namespace EventType

/-- Every event type, in bit order. -/
def all : List EventType :=
  [nodeAdded, nodeRemoved, propertyAdded, propertyRemoved, propertyChanged]

/-- The bit of a type in a mask. -/
def bit : EventType → UInt32
  | nodeAdded => 1
  | nodeRemoved => 2
  | propertyAdded => 4
  | propertyRemoved => 8
  | propertyChanged => 16

/-- Whether a change is one of a node; all others are changes of a property. -/
def isNodeEvent : EventType → Bool
  | nodeAdded | nodeRemoved => true
  | propertyAdded | propertyRemoved | propertyChanged => false

/-- The name of a type in running text. -/
def label : EventType → String
  | nodeAdded => "node-added"
  | nodeRemoved => "node-removed"
  | propertyAdded => "property-added"
  | propertyRemoved => "property-removed"
  | propertyChanged => "property-changed"

/-- The name of a type in records. -/
def key : EventType → String
  | nodeAdded => "nodeAdded"
  | nodeRemoved => "nodeRemoved"
  | propertyAdded => "propertyAdded"
  | propertyRemoved => "propertyRemoved"
  | propertyChanged => "propertyChanged"

instance : ToString EventType := ⟨label⟩

/-- The type whose bit is exactly this word. -/
def ofBit? (bits : UInt32) : Option EventType :=
  all.find? fun t => t.bit == bits

/-- The type of a bit; a bit of no type is the error. -/
def ofBit (bit : UInt32) : Except UInt32 EventType :=
  (ofBit? bit).elim (.error bit) .ok

/-- The type of a name in records. -/
def ofKey? (name : String) : Option EventType :=
  all.find? fun t => t.key == name

theorem ofBit?_bit (t : EventType) : ofBit? t.bit = some t := by
  cases t <;> rfl

theorem ofKey?_key (t : EventType) : ofKey? t.key = some t := by
  cases t <;> decide

end EventType

/-- A set of event types, as a word with one bit for each. -/
structure TypeMask where
  bits : UInt32
  deriving DecidableEq, Repr

namespace TypeMask

/-- No type. -/
def none : TypeMask := ⟨0⟩

/-- All known types. -/
def all : TypeMask := ⟨31⟩

/-- The types of changes to nodes. -/
def nodeEvents : TypeMask := ⟨3⟩

/-- The types of changes to properties. -/
def propertyEvents : TypeMask := ⟨28⟩

instance : Inhabited TypeMask := ⟨none⟩

/-- Whether the mask has the bit of a type. -/
def contains (m : TypeMask) (t : EventType) : Bool :=
  m.bits &&& t.bit != 0

/-- Whether the mask has no bit at all. -/
def isEmpty (m : TypeMask) : Bool :=
  m.bits == 0

/-- The mask with the bit of one type. -/
def ofType (t : EventType) : TypeMask :=
  ⟨t.bit⟩

/-- The mask with the bits of both. -/
def union (m n : TypeMask) : TypeMask :=
  ⟨m.bits ||| n.bits⟩

/-- The mask with the bit of one more type. -/
def insert (m : TypeMask) (t : EventType) : TypeMask :=
  m.union (ofType t)

/-- The mask of the types in a list. -/
def ofList (types : List EventType) : TypeMask :=
  types.foldl insert none

/-- The bits that are set, lowest first. -/
def setBits (m : TypeMask) : List UInt32 :=
  ((List.range 32).map fun k => (1 : UInt32) <<< UInt32.ofNat k).filter fun b => m.bits &&& b != 0

/-- The types of the mask in bit order; the lowest set bit of no known type if there is one. -/
def types (m : TypeMask) : Except UInt32 (List EventType) :=
  m.setBits.mapM EventType.ofBit

end TypeMask

/-- The sentence about bits that name no event type. -/
def unknownTypeMessage (bits : UInt32) : String :=
  "Unknown event type bits: 0x" ++ Text.lowerHex bits.toNat

end Observation

/-!
# Slots of a packet ring

A slot passes from free through allocated, committed and delivered back to
free.  A handle names a slot at one allocation: its generation tells a later
allocation of the same slot apart.
-/

namespace VirtualAdapter
namespace Ring

/-- Where a slot is on its way. -/
inductive SlotState
  /-- Nobody uses it. -/
  | free
  /-- The writer fills it. -/
  | allocated
  /-- The writer is done with it. -/
  | committed
  /-- The reader holds it. -/
  | delivered
  deriving DecidableEq

namespace SlotState

/-- The name of a state. -/
def text : SlotState → String
  | free => "Free"
  | allocated => "Allocated"
  | committed => "Committed"
  | delivered => "Delivered"

/-- Every state, in the order in which a slot passes through them. -/
def all : List SlotState := [free, allocated, committed, delivered]

end SlotState

/-- A slot at one of its allocations. -/
structure SlotHandle where
  /-- The place of the slot in its ring. -/
  index : UInt32
  /-- How often the slot had been allocated, in 32 bits. -/
  generation : UInt32
  deriving DecidableEq

namespace SlotHandle

/-- Generation and index in the halves of one word. -/
def toTag (handle : SlotHandle) : UInt64 :=
  (handle.generation.toUInt64 <<< 32) ||| handle.index.toUInt64

/-- Take a word apart into generation and index. -/
def ofTag (tag : UInt64) : SlotHandle :=
  ⟨tag.toUInt32, (tag >>> 32).toUInt32⟩

end SlotHandle

/-- Why a ring refuses a call. -/
inductive RingError
  /-- Every slot from the oldest one in use on is taken. -/
  | full
  /-- The ring has no such slot. -/
  | invalidIndex
  /-- The slot has been allocated anew since the handle was given out. -/
  | staleGeneration
  /-- The address is not that of the slot's buffer. -/
  | pointerMismatch
  /-- The slot is in another state than the call needs. -/
  | invalidState (expected found : SlotState)
  deriving DecidableEq

namespace RingError

/-- The name of an error. -/
def name : RingError → String
  | full => "Full"
  | invalidIndex => "InvalidIndex"
  | staleGeneration => "StaleGeneration"
  | pointerMismatch => "PointerMismatch"
  | invalidState _ _ => "InvalidState"

/-- The text of an error. -/
def message : RingError → String
  | full => "ring full"
  | invalidIndex => "slot index out of range"
  | staleGeneration => "stale slot generation"
  | pointerMismatch => "pointer does not match slot buffer"
  | invalidState expected found =>
      s!"slot is {found.text}, expected {expected.text}"

end RingError

/-- A place inside the buffer of a slot, each slot having a buffer of its own. -/
structure SlotPointer where
  /-- The slot. -/
  index : Nat
  /-- The distance from the start of its buffer. -/
  offset : Int := 0
  deriving DecidableEq

end Ring
end VirtualAdapter

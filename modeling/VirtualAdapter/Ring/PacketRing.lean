import VirtualAdapter.Limits
import VirtualAdapter.Packet
import VirtualAdapter.Ring.Slot
import VirtualAdapter.Text.Quoted

/-!
# Packet rings

A ring hands out its slots in turn.  Three positions only ever grow: slots are
allocated at the head, delivered at the read position, and given back up to
the tail, which passes over freed slots and stops at the first one still held.
Slots are delivered in the order of their allocation, and only when committed.
-/

namespace VirtualAdapter
namespace Ring

/-- One slot with its buffer. -/
structure Slot where
  /-- Where the slot is on its way. -/
  state : SlotState
  /-- How often it has been allocated, in 32 bits. -/
  generation : UInt32
  /-- The content of its last allocation. -/
  buffer : Bytes

/-- A slot that was never allocated. -/
def Slot.fresh : Slot := ⟨.free, 0, []⟩

/-- A ring of packet buffers. -/
structure PacketRing where
  /-- The slots; their number is a power of two. -/
  slots : Array Slot
  /-- The number of allocations. -/
  head : Nat
  /-- The number of deliveries. -/
  read : Nat
  /-- The position of the oldest slot that is not given back. -/
  tail : Nat

namespace PacketRing

/-- The message of a constructor that is given another capacity. -/
def capacityMessage : String := "capacity must be power of 2"

/-- A ring of free slots. -/
def ofCapacity (capacity : UInt32) : PacketRing where
  slots := Array.replicate capacity.toNat Slot.fresh
  head := 0
  read := 0
  tail := 0

/-- A ring of free slots, refused unless the capacity is a power of two. -/
def ofCapacity? (capacity : UInt32) : Except String PacketRing :=
  if isPowerOfTwo capacity then .ok (ofCapacity capacity)
  else .error capacityMessage

/-- The number of slots. -/
def capacity (ring : PacketRing) : Nat := ring.slots.size

/-- The place of a position in the ring. -/
def place (ring : PacketRing) (position : Nat) : Nat :=
  position % ring.slots.size

/-- The slot of a place; places outside the ring count as fresh slots. -/
def slot (ring : PacketRing) (index : Nat) : Slot :=
  ring.slots.getD index Slot.fresh

/-- The slot at a position. -/
def slotAt (ring : PacketRing) (position : Nat) : Slot :=
  ring.slot (ring.place position)

/-- Put another slot in a place. -/
def setSlot (ring : PacketRing) (index : Nat) (slot : Slot) : PacketRing :=
  { ring with slots := ring.slots.setIfInBounds index slot }

/-- The number of slots from the tail to the head. -/
def inUse (ring : PacketRing) : Nat := ring.head - ring.tail

/-- No slot can be allocated. -/
def isFull (ring : PacketRing) : Bool := ring.capacity ≤ ring.inUse

/-- No slot can be delivered. -/
def isDrained (ring : PacketRing) : Bool :=
  ring.read == ring.head || (ring.slotAt ring.read).state != .committed

/-- The number of slots in a state. -/
def count (ring : PacketRing) (state : SlotState) : Nat :=
  ring.slots.countP fun slot => slot.state = state

/-- The state of a slot, if the ring has it. -/
def state? (ring : PacketRing) (index : Nat) : Option SlotState :=
  ring.slots[index]?.map (·.state)

/-- The generation of a slot, if the ring has it. -/
def generation? (ring : PacketRing) (index : Nat) : Option UInt32 :=
  ring.slots[index]?.map (·.generation)

/-- Take the next slot with `length` zero bytes. -/
def alloc
    (ring : PacketRing)
    (length : Nat) : Except RingError (SlotHandle × PacketRing) :=
  if ring.isFull then .error .full
  else
    let index := ring.place ring.head
    let slot := ring.slot index
    if slot.state ≠ .free then .error (.invalidState .free slot.state)
    else
      let generation := slot.generation + 1
      .ok (⟨UInt32.ofNat index, generation⟩,
        { ring.setSlot index ⟨.allocated, generation, Bytes.zeros length⟩ with
          head := ring.head + 1 })

/-- The slot that a handle names, if it is still that allocation. -/
def validate (ring : PacketRing) (handle : SlotHandle) : Except RingError Slot :=
  match ring.slots[handle.index.toNat]? with
  | none => .error .invalidIndex
  | some slot =>
      if slot.generation ≠ handle.generation then .error .staleGeneration
      else .ok slot

/-- The slot that a handle names, if it is in the expected state. -/
def check
    (ring : PacketRing)
    (handle : SlotHandle)
    (expected : SlotState) : Except RingError Slot :=
  match ring.validate handle with
  | .error error => .error error
  | .ok slot =>
      if slot.state ≠ expected then
        .error (.invalidState expected slot.state)
      else .ok slot

/-- Move a slot from one state to another. -/
def transition
    (ring : PacketRing)
    (handle : SlotHandle)
    (source target : SlotState) : Except RingError PacketRing :=
  match ring.check handle source with
  | .error error => .error error
  | .ok slot =>
      .ok (ring.setSlot handle.index.toNat { slot with state := target })

/-- The writer is done with a slot. -/
def commit
    (ring : PacketRing)
    (handle : SlotHandle) : Except RingError PacketRing :=
  ring.transition handle .allocated .committed

/-- Deliver the oldest slot that was not delivered yet. -/
def pop (ring : PacketRing) : Option (SlotHandle × PacketRing) :=
  if ring.isDrained then none
  else
    let index := ring.place ring.read
    let slot := ring.slot index
    some (⟨UInt32.ofNat index, slot.generation⟩,
      { ring.setSlot index { slot with state := .delivered } with
        read := ring.read + 1 })

/-- How far the tail can move over free slots, at most `limit` positions. -/
def reclaimable (ring : PacketRing) (position : Nat) : (limit : Nat) → Nat
  | 0 => 0
  | limit + 1 =>
      if (ring.slotAt position).state = .free then
        ring.reclaimable (position + 1) limit + 1
      else 0

/-- Move the tail over every freed slot that was delivered. -/
def reclaim (ring : PacketRing) : PacketRing :=
  { ring with
    tail := ring.tail +
      ring.reclaimable ring.tail (ring.read - ring.tail) }

/-- The reader gives a slot back. -/
def release
    (ring : PacketRing)
    (handle : SlotHandle) : Except RingError PacketRing :=
  (ring.transition handle .delivered .free).map reclaim

/-- Write to the start of an allocated slot; what does not fit is cut off. -/
def write
    (ring : PacketRing)
    (handle : SlotHandle)
    (content : Bytes) : Except RingError PacketRing :=
  match ring.check handle .allocated with
  | .error error => .error error
  | .ok slot =>
      .ok (ring.setSlot handle.index.toNat
        { slot with buffer := Bytes.overwrite 0 content slot.buffer })

/-- The content of a slot in use. -/
def bytes (ring : PacketRing) (handle : SlotHandle) : Except RingError Bytes :=
  match ring.validate handle with
  | .error error => .error error
  | .ok slot =>
      if slot.state = .free then .error (.invalidState .delivered .free)
      else .ok slot.buffer

/-- Where a slot's buffer is and how long it is. -/
def bufferPointer
    (ring : PacketRing)
    (handle : SlotHandle) : Except RingError (SlotPointer × Nat) :=
  (ring.validate handle).map fun slot =>
    (⟨handle.index.toNat, 0⟩, slot.buffer.length)

/-- Check that an address is the start of a slot's buffer, the slot being in
the given state.  Addresses outside the ring are given as `none`. -/
def resolve
    (ring : PacketRing)
    (handle : SlotHandle)
    (pointer : Option SlotPointer)
    (state : SlotState) : Except RingError SlotHandle :=
  match ring.check handle state with
  | .error error => .error error
  | .ok _ =>
      if pointer = some ⟨handle.index.toNat, 0⟩ then .ok handle
      else .error .pointerMismatch

/-- Deliver and give back slot after slot, at most `limit` of them, keeping
their contents. -/
def drain : (limit : Nat) → PacketRing → List Bytes × PacketRing
  | 0, ring => ([], ring)
  | limit + 1, ring =>
      match ring.pop with
      | none => ([], ring)
      | some (handle, delivered) =>
          let content := (delivered.bytes handle).toOption.toList
          let released := (delivered.release handle).toOption.getD delivered
          let (rest, drained) := drain limit released
          (content ++ rest, drained)

/-- The content of a slot's buffer, whatever its state. -/
def peek (ring : PacketRing) (index : Nat) : Bytes :=
  (ring.slot index).buffer

/-- Change the content of a slot's buffer, whatever its state. -/
def poke (ring : PacketRing) (index : Nat) (content : Bytes) : PacketRing :=
  ring.setSlot index { ring.slot index with buffer := content }

/-- The description of a ring. -/
def text (ring : PacketRing) : String :=
  Text.describeFields "PacketRing"
    [("capacity", toString ring.capacity), ("head", toString ring.head),
      ("read", toString ring.read), ("tail", toString ring.tail)]

end PacketRing
end Ring
end VirtualAdapter

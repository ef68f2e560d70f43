import VirtualAdapter.Model.Comparison
import VirtualAdapter.Ring.PacketRing

/-!
# A packet ring beside a queue

The queue holds what was allocated and not given back, oldest first.  Entries
given back in the middle stay until all older ones are given back.
-/

namespace VirtualAdapter
namespace Model

open VirtualAdapter.Ring (PacketRing RingError SlotHandle SlotState)

/-- What is done to a ring; a pick selects among the slots in question. -/
inductive RingOperation
  /-- Allocate a slot and fill it. -/
  | alloc (length : UInt16) (fill : UInt8)
  /-- Commit an allocated slot. -/
  | commit (pick : UInt8)
  /-- Take the next slot. -/
  | pop
  /-- Give a delivered slot back. -/
  | release (pick : UInt8)
  /-- Give a slot back that was given back before. -/
  | releaseAgain (pick : UInt8)

/-- What the queue knows of a slot. -/
structure QueueEntry where
  /-- The handle that the allocation gave. -/
  handle : SlotHandle
  /-- The length of its content. -/
  length : Nat
  /-- The byte that fills it. -/
  fill : UInt8
  /-- Where it is on its way. -/
  state : SlotState

namespace QueueEntry

/-- The content of a slot. -/
def content (entry : QueueEntry) : Bytes :=
  List.replicate entry.length entry.fill

end QueueEntry

/-- The queue beside a ring. -/
structure RingQueue where
  /-- The number of slots. -/
  capacity : Nat
  /-- What was allocated and not given back, oldest first. -/
  entries : List QueueEntry := []
  /-- How many of the entries were delivered. -/
  read : Nat := 0
  /-- Every handle that was given back, the first one first. -/
  released : List SlotHandle := []

namespace RingQueue

/-- The number of entries in a state. -/
def count (queue : RingQueue) (state : SlotState) : Nat :=
  queue.entries.countP fun entry => entry.state = state

/-- No entry has room. -/
def isFull (queue : RingQueue) : Bool := queue.capacity ≤ queue.entries.length

/-- The places of the entries in a state. -/
def eligible (queue : RingQueue) (state : SlotState) : List Nat :=
  (List.range queue.entries.length).filter fun place =>
    (queue.entries[place]?).any fun entry => entry.state = state

/-- The place that a pick selects among the entries in a state, with the
entry. -/
def pick?
    (queue : RingQueue)
    (state : SlotState)
    (pick : UInt8) : Option (Nat × QueueEntry) := do
  let place ← choose pick (queue.eligible state)
  let entry ← queue.entries[place]?
  return (place, entry)

/-- Put the entry of a place in another state. -/
def setState (queue : RingQueue) (place : Nat) (state : SlotState) : RingQueue :=
  { queue with
    entries := queue.entries.modify place fun entry => { entry with state } }

/-- The next entry to be delivered, if it was committed. -/
def next? (queue : RingQueue) : Option QueueEntry :=
  (queue.entries[queue.read]?).filter fun entry => entry.state = .committed

/-- How many entries at the front were delivered and given back. -/
def reclaimable : (read : Nat) → List QueueEntry → Nat
  | read + 1, entry :: rest =>
      if entry.state = .free then reclaimable read rest + 1 else 0
  | _, _ => 0

/-- Forget the entries at the front that were given back. -/
def reclaim (queue : RingQueue) : RingQueue :=
  let count := reclaimable queue.read queue.entries
  { queue with
    entries := queue.entries.drop count
    read := queue.read - count }

end RingQueue

/-- A ring and the queue beside it. -/
structure RingTrial where
  /-- The ring. -/
  ring : PacketRing
  /-- The queue. -/
  queue : RingQueue

namespace RingTrial

/-- An empty ring and an empty queue. -/
def ofCapacity (capacity : UInt32) : RingTrial where
  ring := .ofCapacity capacity
  queue := { capacity := capacity.toNat }

/-- The answer of a ring, if it is one. -/
def required
    {Value : Type}
    (call : String)
    (outcome : Except RingError Value) : Except Finding Value :=
  match outcome with
  | .error error => .error (.refused call error.message)
  | .ok value => .ok value

/-- A full queue wants an allocation refused. -/
def allocFull (trial : RingTrial) (length : Nat) : Except Finding RingTrial :=
  match trial.ring.alloc length with
  | .error .full => .ok trial
  | .error error => .error (.refused "alloc on full ring" error.message)
  | .ok _ => .error (.accepted "alloc on full ring")

/-- Allocate a slot and fill it. -/
def alloc
    (trial : RingTrial)
    (length : Nat)
    (fill : UInt8) : Except Finding RingTrial := do
  let (handle, allocated) ← required "alloc" (trial.ring.alloc length)
  let entry : QueueEntry := { handle, length, fill, state := .allocated }
  let ring ← required "write" (allocated.write handle entry.content)
  return { ring, queue := { trial.queue with
    entries := trial.queue.entries ++ [entry] } }

/-- Commit an allocated slot. -/
def commit (trial : RingTrial) (pick : UInt8) : Except Finding RingTrial := do
  match trial.queue.pick? .allocated pick with
  | none => return trial
  | some (place, entry) =>
      let ring ← required "commit" (trial.ring.commit entry.handle)
      return { ring, queue := trial.queue.setState place .committed }

/-- Take the next slot. -/
def pop (trial : RingTrial) : Except Finding RingTrial := do
  match trial.queue.next?, trial.ring.pop with
  | none, none => return trial
  | none, some _ => throw (.accepted "pop")
  | some _, none => throw (.refused "pop" "nothing to deliver")
  | some entry, some (handle, ring) =>
      if handle ≠ entry.handle then throw (.different "delivered handle")
      let content ← required "bytes" (ring.bytes handle)
      if content ≠ entry.content then throw (.different "payload")
      let queue := trial.queue.setState trial.queue.read .delivered
      return { ring, queue := { queue with read := queue.read + 1 } }

/-- Give a delivered slot back. -/
def release (trial : RingTrial) (pick : UInt8) : Except Finding RingTrial := do
  match trial.queue.pick? .delivered pick with
  | none => return trial
  | some (place, entry) =>
      let ring ← required "release" (trial.ring.release entry.handle)
      let queue := trial.queue.setState place .free
      return { ring, queue := { queue with
        released := queue.released ++ [entry.handle] }.reclaim }

/-- Give a slot back that was given back before; that has to be refused. -/
def releaseAgain
    (trial : RingTrial)
    (pick : UInt8) : Except Finding RingTrial :=
  match choose pick trial.queue.released with
  | none => .ok trial
  | some handle =>
      match trial.ring.release handle with
      | .error .staleGeneration | .error (.invalidState _ _) => .ok trial
      | .error error => .error (.refused "second release" error.message)
      | .ok _ => .error (.accepted "second release")

/-- Carry out an operation on both sides. -/
def apply
    (operation : RingOperation)
    (trial : RingTrial) : Except Finding RingTrial :=
  match operation with
  | .alloc length fill =>
      if trial.queue.isFull then trial.allocFull (packetLength length)
      else trial.alloc (packetLength length) fill
  | .commit pick => trial.commit pick
  | .pop => trial.pop
  | .release pick => trial.release pick
  | .releaseAgain pick => trial.releaseAgain pick

/-- Compare both sides. -/
def compare (trial : RingTrial) : Except Finding Unit := do
  let { ring, queue } := trial
  expectCount "slots in use" ring.inUse queue.entries.length
  expectCount "allocated slots" (ring.count .allocated) (queue.count .allocated)
  expectCount "committed slots" (ring.count .committed) (queue.count .committed)
  expectCount "delivered slots" (ring.count .delivered) (queue.count .delivered)
  if ring.isFull ≠ queue.isFull then throw (.different "fullness")

/-- Carry out an operation on both sides and compare them. -/
def step
    (operation : RingOperation)
    (trial : RingTrial) : Except Finding RingTrial := do
  let next ← trial.apply operation
  next.compare
  return next

end RingTrial

/-- Carry operations out on a ring of about a capacity and on a queue. -/
def tryRing
    (capacity : UInt32)
    (operations : List RingOperation) : Except Disagreement Unit :=
  (runAll RingTrial.step 0 operations
    (.ofCapacity (capacityFor capacity))).map fun _ => ()

end Model
end VirtualAdapter

import VirtualAdapter.Ring.PacketRing
import VirtualAdapter.Table

/-!
# A bench for one packet ring

Commands name handles; a handle is bound by the command that obtained it.
-/

namespace VirtualAdapter
namespace Bench

open VirtualAdapter.Ring

/-- How a command names a handle. -/
inductive HandleName
  /-- By the name under which it was bound. -/
  | bound (name : String)
  /-- By its parts. -/
  | parts (handle : SlotHandle)

/-- What can be asked of a ring. -/
inductive RingCommand
  | alloc (name : String) (length : Nat)
  | pop (name : String)
  | commit (handle : HandleName)
  | release (handle : HandleName)
  | write (handle : HandleName) (content : Bytes)
  | bytes (handle : HandleName)
  | buffer (handle : HandleName)
  | resolve (handle pointerOf : HandleName) (offset : Int) (state : SlotState)
  | state (index : Nat)
  | generation (index : Nat)
  | capacity
  | unknown (name : String)

/-- What a ring answers. -/
inductive RingAnswer
  | done
  | nothing
  | number (value : Nat)
  | state (state : SlotState)
  | handle (handle : SlotHandle)
  | content (bytes : Bytes)
  | refused (error : RingError)
  | unbound (name : String)

/-- A ring with the handles bound so far. -/
structure RingBench where
  /-- The ring. -/
  ring : PacketRing
  /-- The handles by name. -/
  handles : Table String SlotHandle := ∅

namespace RingBench

/-- The handle that a name stands for. -/
def handle? (bench : RingBench) : HandleName → Except String SlotHandle
  | .parts handle => .ok handle
  | .bound name =>
      match bench.handles.get? name with
      | some handle => .ok handle
      | none => .error name

/-- Go on with the handle that a name stands for. -/
def withHandle
    (bench : RingBench)
    (name : HandleName)
    (continuation : SlotHandle → RingAnswer × RingBench) :
    RingAnswer × RingBench :=
  match bench.handle? name with
  | .error missing => (.unbound missing, bench)
  | .ok handle => continuation handle

/-- Answer with the changed ring, or with the refusal and the old one. -/
def change
    (bench : RingBench)
    (outcome : Except RingError PacketRing) : RingAnswer × RingBench :=
  match outcome with
  | .error error => (.refused error, bench)
  | .ok ring => (.done, { bench with ring })

/-- Answer with a reading of the ring. -/
def reading
    (bench : RingBench)
    (outcome : Except RingError RingAnswer) : RingAnswer × RingBench :=
  match outcome with
  | .error error => (.refused error, bench)
  | .ok answer => (answer, bench)

/-- Bind a handle and go on with the changed ring. -/
def bind
    (bench : RingBench)
    (name : String)
    (handle : SlotHandle)
    (ring : PacketRing) : RingAnswer × RingBench :=
  (.handle handle, { ring, handles := bench.handles.insert name handle })

/-- Carry out one command. -/
def run (bench : RingBench) : RingCommand → RingAnswer × RingBench
  | .alloc name length =>
      match bench.ring.alloc length with
      | .error error => (.refused error, bench)
      | .ok (handle, ring) => bench.bind name handle ring
  | .pop name =>
      match bench.ring.pop with
      | none => (.nothing, bench)
      | some (handle, ring) => bench.bind name handle ring
  | .commit name =>
      bench.withHandle name fun handle => bench.change (bench.ring.commit handle)
  | .release name =>
      bench.withHandle name fun handle =>
        bench.change (bench.ring.release handle)
  | .write name content =>
      bench.withHandle name fun handle =>
        bench.change (bench.ring.write handle content)
  | .bytes name =>
      bench.withHandle name fun handle =>
        bench.reading ((bench.ring.bytes handle).map .content)
  | .buffer name =>
      bench.withHandle name fun handle =>
        bench.reading
          ((bench.ring.bufferPointer handle).map fun found => .number found.2)
  | .resolve name pointerOf offset state =>
      bench.withHandle name fun handle =>
        bench.withHandle pointerOf fun source =>
          match bench.ring.bufferPointer source with
          | .error error => (.refused error, bench)
          | .ok (pointer, _) =>
              let shifted := { pointer with offset := pointer.offset + offset }
              bench.reading
                ((bench.ring.resolve handle (some shifted) state).map .handle)
  | .state index =>
      (((bench.ring.state? index).map .state).getD .nothing, bench)
  | .generation index =>
      (((bench.ring.generation? index).map fun generation =>
        .number generation.toNat).getD .nothing, bench)
  | .capacity => (.number bench.ring.capacity, bench)
  | .unknown name => (.unbound name, bench)

end RingBench
end Bench
end VirtualAdapter

import VirtualAdapter.Proofs.Ring.Contents
import VirtualAdapter.Memory.Driver

/-!
# Lent packets

A packet that a ring lends carries the handle of its slot in its tag and the
place of the slot in its address, so that the ring knows it again.
-/

namespace VirtualAdapter
namespace Ring
namespace SlotHandle

theorem toNat_toTag (handle : SlotHandle) :
    handle.toTag.toNat =
      handle.generation.toNat * 2 ^ 32 + handle.index.toNat := by
  have index_lt : handle.index.toNat < 2 ^ 32 := handle.index.toNat_lt
  have generation_lt : handle.generation.toNat < 2 ^ 32 :=
    handle.generation.toNat_lt
  have shifted : (handle.generation.toUInt64 <<< 32).toNat =
      handle.generation.toNat <<< 32 := by
    rw [UInt64.toNat_shiftLeft, UInt32.toNat_toUInt64]
    change handle.generation.toNat <<< 32 % 2 ^ 64 = _
    rw [Nat.shiftLeft_eq]
    exact Nat.mod_eq_of_lt (by omega)
  rw [toTag, UInt64.toNat_or, shifted, UInt32.toNat_toUInt64,
    ← Nat.shiftLeft_add_eq_or_of_lt index_lt, Nat.shiftLeft_eq]

/-- A tag gives the handle back from which it was made. -/
@[simp]
theorem ofTag_toTag (handle : SlotHandle) : ofTag handle.toTag = handle := by
  have index_lt : handle.index.toNat < 2 ^ 32 := handle.index.toNat_lt
  have tag := handle.toNat_toTag
  have index : handle.toTag.toUInt32 = handle.index := by
    rw [← UInt32.toNat_inj, UInt64.toNat_toUInt32, tag]
    omega
  have generation : (handle.toTag >>> 32).toUInt32 = handle.generation := by
    have generation_lt : handle.generation.toNat < 2 ^ 32 :=
      handle.generation.toNat_lt
    rw [← UInt32.toNat_inj, UInt64.toNat_toUInt32, UInt64.toNat_shiftRight, tag]
    change (_ >>> 32) % 2 ^ 32 = _
    rw [Nat.shiftRight_eq_div_pow]
    omega
  rw [ofTag, index, generation]

end SlotHandle
end Ring

namespace Memory
namespace MemoryDriver

open VirtualAdapter.Ring (PacketRing SlotHandle SlotState)
open VirtualAdapter.Ring.PacketRing (Names Arranged names_handleAt)

/-- The packet that a ring of a session lends at a position. -/
def packetAt
    (session : SessionHandle)
    (direction : Direction)
    (ring : PacketRing)
    (position : Nat) : RawPacket where
  address :=
    ⟨.slot session.number direction (ring.handleAt position).index.toNat, 0⟩
  length := (ring.slotAt position).buffer.length
  tag := (ring.handleAt position).toTag

variable
  {session : SessionHandle}
  {ring : PacketRing}
  {position : Nat}

/-- A ring lends the packet at the position that a handle names. -/
theorem lend_eq
    (arranged : Arranged ring)
    (direction : Direction)
    (tail_le : ring.tail ≤ position)
    (lt_head : position < ring.head) :
    lend session direction ring (ring.handleAt position) =
      .ok (packetAt session direction ring position) := by
  have names := names_handleAt arranged tail_le lt_head
  rw [lend, PacketRing.bufferPointer, names.validate arranged]
  rfl

/-- A lent packet is resolved to its slot. -/
theorem resolve_packetAt
    (arranged : Arranged ring)
    (direction : Direction)
    (tail_le : ring.tail ≤ position)
    (lt_head : position < ring.head)
    {state : SlotState}
    (found : (ring.slotAt position).state = state) :
    ring.resolve
        (.ofTag (packetAt session direction ring position).tag)
        (pointerInto session direction
          (packetAt session direction ring position).address) state =
      .ok (ring.handleAt position) := by
  have names := names_handleAt arranged tail_le lt_head
  have tag : SlotHandle.ofTag (packetAt session direction ring position).tag =
      ring.handleAt position := SlotHandle.ofTag_toTag _
  rw [tag, PacketRing.resolve, names.check arranged found]
  simp [pointerInto, packetAt]

/-- A received packet that is still held goes back. -/
theorem acceptReceived_packetAt
    {entry : RunningSession}
    (arranged : Arranged entry.inbound)
    (tail_le : entry.inbound.tail ≤ position)
    (lt_head : position < entry.inbound.head)
    (held : (entry.inbound.slotAt position).state = .delivered) :
    acceptReceived session
        (packetAt session .inbound entry.inbound position) entry =
      .ok { entry with
        inbound := (entry.inbound.changedAt position fun slot =>
          { slot with state := .free }).reclaim } := by
  have released := (PacketRing.release_eq_ok_iff arranged).mpr
    ⟨position, names_handleAt arranged tail_le lt_head, held, rfl⟩
  rw [acceptReceived, resolve_packetAt arranged .inbound tail_le lt_head held]
  change (entry.inbound.release _).bind _ = _
  rw [released]
  rfl

/-- A buffer that is still held is committed. -/
theorem acceptAllocated_packetAt
    {entry : RunningSession}
    (arranged : Arranged entry.outbound)
    (tail_le : entry.outbound.tail ≤ position)
    (lt_head : position < entry.outbound.head)
    (held : (entry.outbound.slotAt position).state = .allocated) :
    acceptAllocated session
        (packetAt session .outbound entry.outbound position) entry =
      .ok { entry with
        outbound := entry.outbound.changedAt position fun slot =>
          { slot with state := .committed } } := by
  have committed := (PacketRing.commit_eq_ok_iff arranged).mpr
    ⟨position, names_handleAt arranged tail_le lt_head, held, rfl⟩
  rw [acceptAllocated, resolve_packetAt arranged .outbound tail_le lt_head held]
  change (entry.outbound.commit _).bind _ = _
  rw [committed]
  rfl

/-- The place in a handle is that of the position. -/
theorem toNat_index_handleAt
    (arranged : Arranged ring)
    (position : Nat) :
    (ring.handleAt position).index.toNat = ring.place position :=
  PacketRing.toNat_ofNat_place arranged.nonempty arranged.addressable position

/-- The bytes behind a lent packet are those of its slot. -/
theorem readPacket_packetAt
    {driver : MemoryDriver}
    {entry : RunningSession}
    {direction : Direction}
    (found : driver.sessions.get? session.number = some entry)
    (arranged : Arranged (MemoryDriver.ring entry direction))
    (position : Nat) :
    readPacket
        (packetAt session direction (MemoryDriver.ring entry direction) position)
        driver =
      ((MemoryDriver.ring entry direction).slotAt position).buffer := by
  simp only [readPacket, packetAt, found, toNat_index_handleAt arranged]
  exact List.take_length

/-- Writing a whole lent buffer changes the content of its slot. -/
theorem writePacket_packetAt
    {driver : MemoryDriver}
    {entry : RunningSession}
    (found : driver.sessions.get? session.number = some entry)
    (arranged : Arranged entry.outbound)
    {content : Bytes}
    (whole : content.length = (entry.outbound.slotAt position).buffer.length) :
    writePacket (packetAt session .outbound entry.outbound position) 0 content
        driver =
      driver.setSession session.number
        { entry with
          outbound := entry.outbound.changedAt position fun slot =>
            { slot with buffer := content } } := by
  have replaced := Bytes.overwrite_zero whole
  simp only [writePacket, packetAt, found, toNat_index_handleAt arranged]
  simp only [PacketRing.poke, PacketRing.peek, PacketRing.changedAt]
  rw [← whole, Nat.sub_zero, List.take_length]
  exact congrArg (fun buffer => driver.setSession session.number
    { entry with
      outbound := entry.outbound.setSlot (entry.outbound.place position)
        { entry.outbound.slotAt position with buffer } }) replaced

/-- The packet at a position depends on its place, generation and length. -/
theorem packetAt_congr
    {other : PacketRing}
    (direction : Direction)
    (capacity : other.capacity = ring.capacity)
    (generation : (other.slotAt position).generation =
      (ring.slotAt position).generation)
    (length : (other.slotAt position).buffer.length =
      (ring.slotAt position).buffer.length) :
    packetAt session direction other position =
      packetAt session direction ring position := by
  have place : other.place position = ring.place position :=
    congrArg (position % ·) capacity
  simp only [packetAt, PacketRing.handleAt, place, generation, length]

/-- A change that keeps generation and length keeps the packets that are
lent. -/
theorem packetAt_changedAt
    (direction : Direction)
    {change : VirtualAdapter.Ring.Slot → VirtualAdapter.Ring.Slot}
    {other : Nat}
    (position_ge : ring.tail ≤ position)
    (position_lt : position < ring.tail + ring.capacity)
    (other_ge : ring.tail ≤ other)
    (other_lt : other < ring.tail + ring.capacity)
    (generation : (change (ring.slotAt position)).generation =
      (ring.slotAt position).generation)
    (length : (change (ring.slotAt position)).buffer.length =
      (ring.slotAt position).buffer.length) :
    packetAt session direction (ring.changedAt position change) other =
      packetAt session direction ring other := by
  have shown := PacketRing.slotAt_changedAt change position_ge position_lt
    other_ge other_lt
  refine packetAt_congr direction (by simp) ?_ ?_
  · rw [shown]
    split
    case isTrue same => rw [generation, same]
    case isFalse => rfl
  · rw [shown]
    split
    case isTrue same => rw [length, same]
    case isFalse => rfl

/-- A packet carries the place of its position. -/
theorem eq_of_packetAt_eq
    (arranged : Arranged ring)
    {direction : Direction}
    {other : Nat}
    (position_ge : ring.tail ≤ position)
    (position_lt : position < ring.head)
    (other_ge : ring.tail ≤ other)
    (other_lt : other < ring.head)
    (same : packetAt session direction ring position =
      packetAt session direction ring other) : position = other := by
  have places := congrArg (·.address) same
  simp only [packetAt, Address.mk.injEq, Buffer.slot.injEq, true_and,
    and_true, toNat_index_handleAt arranged] at places
  exact (PacketRing.place_inj position_ge
    (position_lt.trans_le arranged.head_le) other_ge
    (other_lt.trans_le arranged.head_le)).mp places

end MemoryDriver
end Memory
end VirtualAdapter

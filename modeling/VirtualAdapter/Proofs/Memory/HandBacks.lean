import VirtualAdapter.Proofs.Memory.Lending
import VirtualAdapter.Proofs.Memory.Requests

/-!
# Handing packets back

A session takes a packet back if its tag and its address are those of a slot
that the session's ring has lent and that is still out; the length does not
count.  Received packets go back to be freed, allocated buffers to be sent, and
both are looked at in the same way.
-/

namespace VirtualAdapter
namespace Ring
namespace SlotHandle

/-- A handle gives the tag back from which it was made. -/
@[simp]
theorem toTag_ofTag (tag : UInt64) : (ofTag tag).toTag = tag := by
  rw [← UInt64.toNat_inj, toNat_toTag]
  have bound : tag.toNat < 2 ^ 64 := tag.toNat_lt
  simp only [ofTag, UInt64.toNat_toUInt32, UInt64.toNat_shiftRight]
  change (tag.toNat >>> 32) % 2 ^ 32 * 2 ^ 32 + tag.toNat % 2 ^ 32 = _
  rw [Nat.shiftRight_eq_div_pow]
  omega

theorem ofTag_eq_iff {tag : UInt64} {handle : SlotHandle} :
    ofTag tag = handle ↔ tag = handle.toTag := by
  constructor
  · rintro rfl
    exact (toTag_ofTag tag).symm
  · rintro rfl
    exact ofTag_toTag handle

end SlotHandle
end Ring

namespace Memory

open VirtualAdapter.Ring (PacketRing RingError SlotHandle SlotState)
open VirtualAdapter.Ring.PacketRing (Arranged Names)

/-- The request by which a packet goes back. -/
def Request.handBack :
    Direction → SessionHandle → RawPacket → Request
  | .inbound => .releaseReceived
  | .outbound => .sendPacket

namespace MemoryDriver

/-- The state of a slot that is lent. -/
def lentState : Direction → SlotState
  | .inbound => .delivered
  | .outbound => .allocated

/-- The session with one ring changed. -/
def withRing
    (entry : RunningSession)
    (direction : Direction)
    (ring : PacketRing) : RunningSession :=
  match direction with
  | .inbound => { entry with inbound := ring }
  | .outbound => { entry with outbound := ring }

/-- The call of a ring by which a slot goes back. -/
def moveOn :
    Direction → PacketRing → SlotHandle → Except RingError PacketRing
  | .inbound => PacketRing.release
  | .outbound => PacketRing.commit

/-- A ring after the slot at a position went back. -/
def takenBack
    (direction : Direction)
    (ring : PacketRing)
    (position : Nat) : PacketRing :=
  match direction with
  | .inbound =>
      (ring.changedAt position fun slot => { slot with state := .free }).reclaim
  | .outbound =>
      ring.changedAt position fun slot => { slot with state := .committed }

/-- How the rings of a session take a packet back. -/
def accept :
    Direction → SessionHandle → RawPacket → RunningSession →
      Except RingError RunningSession
  | .inbound => acceptReceived
  | .outbound => acceptAllocated

/-- The name under which a packet that is not taken back is noted. -/
def handBackName : Direction → String
  | .inbound => "release_receive_packet"
  | .outbound => "send_packet"

/-- A packet bears the tag and the address of a slot that is out. -/
structure StandsFor
    (session : SessionHandle)
    (direction : Direction)
    (ring : PacketRing)
    (packet : RawPacket)
    (position : Nat) : Prop where
  /-- The position is in use. -/
  tail_le : ring.tail ≤ position
  /-- The position was allocated. -/
  lt_head : position < ring.head
  /-- The slot is lent. -/
  lent : (ring.slotAt position).state = lentState direction
  /-- The tag is that of the present allocation. -/
  tag_eq : packet.tag = (ring.handleAt position).toTag
  /-- The address is that of the slot in this ring of this session. -/
  address_eq : packet.address =
    ⟨.slot session.number direction (ring.place position), 0⟩

variable
  {driver : MemoryDriver}
  {session : SessionHandle}
  {direction : Direction}
  {ring : PacketRing}
  {packet : RawPacket}
  {entry changed : RunningSession}

@[simp]
theorem ring_withRing (entry : RunningSession) (ring : PacketRing) :
    MemoryDriver.ring (withRing entry direction ring) direction = ring := by
  cases direction <;> rfl

@[simp]
theorem withRing_ring (entry : RunningSession) (direction : Direction) :
    withRing entry direction (MemoryDriver.ring entry direction) = entry := by
  cases direction <;> rfl

theorem ring_withRing_of_ne
    {other : Direction}
    (differs : other ≠ direction)
    (entry : RunningSession)
    (ring : PacketRing) :
    MemoryDriver.ring (withRing entry direction ring) other =
      MemoryDriver.ring entry other := by
  cases direction <;> cases other <;> first | rfl | exact absurd rfl differs

/-- An address lies in a ring of a session at the start of a slot. -/
theorem pointerInto_eq_some_iff {address : Address} {index : Nat} :
    pointerInto session direction address = some ⟨index, 0⟩ ↔
      address = ⟨.slot session.number direction index, 0⟩ := by
  obtain ⟨buffer, offset⟩ := address
  cases buffer with
  | numbered number => simp [pointerInto]
  | slot owner way place =>
      simp only [pointerInto, Address.mk.injEq, Buffer.slot.injEq]
      split
      case isTrue same => simp [same]
      case isFalse other =>
        simp only [reduceCtorEq, false_iff]
        exact fun equal => other ⟨equal.1.1, equal.1.2.1⟩

/-- The slot of a packet is found exactly if the packet stands for it. -/
theorem resolve_eq_ok_iff
    (arranged : Arranged ring)
    {handle : SlotHandle} :
    ring.resolve (.ofTag packet.tag)
        (pointerInto session direction packet.address) (lentState direction) =
      .ok handle ↔
      ∃ position, StandsFor session direction ring packet position ∧
        handle = ring.handleAt position := by
  have used : lentState direction ≠ .free := by cases direction <;> decide
  constructor
  · intro resolved
    unfold PacketRing.resolve at resolved
    cases checked : ring.check (.ofTag packet.tag) (lentState direction) with
    | error error =>
        rw [checked] at resolved
        cases resolved
    | ok slot =>
        rw [checked] at resolved
        obtain ⟨position, names, rfl, lent⟩ :=
          PacketRing.exists_names_of_check arranged used checked
        dsimp only at resolved
        split at resolved
        case isTrue placed =>
          have bears := names.eq_handleAt arranged
          have address := pointerInto_eq_some_iff.mp placed
          rw [← names.place_eq] at address
          exact ⟨position, ⟨names.tail_le, names.lt_head, lent,
            SlotHandle.ofTag_eq_iff.mp bears, address⟩,
            (Except.ok.inj resolved).symm.trans bears⟩
        case isFalse => cases resolved
  · rintro ⟨position, stands, rfl⟩
    have names :=
      PacketRing.names_handleAt arranged stands.tail_le stands.lt_head
    have bears := SlotHandle.ofTag_eq_iff.mpr stands.tag_eq
    have placed := pointerInto_eq_some_iff.mpr stands.address_eq
    rw [names.place_eq] at placed
    rw [PacketRing.resolve, bears, names.check arranged stands.lent]
    exact if_pos placed

/-- Both calls find the slot, move it on and put the ring back. -/
theorem accept_eq :
    accept direction session packet entry =
      ((MemoryDriver.ring entry direction).resolve (.ofTag packet.tag)
        (pointerInto session direction packet.address)
        (lentState direction)).bind fun handle =>
          (moveOn direction (MemoryDriver.ring entry direction) handle).bind
            fun ring => .ok (withRing entry direction ring) := by
  cases direction <;> rfl

theorem moveOn_handleAt
    (arranged : Arranged ring)
    {position : Nat}
    (stands : StandsFor session direction ring packet position) :
    moveOn direction ring (ring.handleAt position) =
      .ok (takenBack direction ring position) := by
  have names :=
    PacketRing.names_handleAt arranged stands.tail_le stands.lt_head
  have lent := stands.lent
  cases direction with
  | inbound =>
      exact (PacketRing.release_eq_ok_iff arranged).mpr
        ⟨position, names, lent, rfl⟩
  | outbound =>
      exact (PacketRing.commit_eq_ok_iff arranged).mpr
        ⟨position, names, lent, rfl⟩

/-- A session takes back exactly the packets that stand for a slot of its
ring. -/
theorem accept_eq_ok_iff (arranged : Arranged (MemoryDriver.ring entry direction)) :
    accept direction session packet entry = .ok changed ↔
      ∃ position,
        StandsFor session direction (MemoryDriver.ring entry direction) packet
          position ∧
        changed = withRing entry direction
          (takenBack direction (MemoryDriver.ring entry direction) position) := by
  rw [accept_eq]
  constructor
  · intro accepted
    cases resolved : (MemoryDriver.ring entry direction).resolve
        (.ofTag packet.tag) (pointerInto session direction packet.address)
        (lentState direction) with
    | error error =>
        rw [resolved] at accepted
        cases accepted
    | ok handle =>
        obtain ⟨position, stands, rfl⟩ :=
          (resolve_eq_ok_iff arranged).mp resolved
        rw [resolved] at accepted
        change (moveOn _ _ _).bind _ = _ at accepted
        rw [moveOn_handleAt arranged stands] at accepted
        exact ⟨position, stands, (Except.ok.inj accepted).symm⟩
  · rintro ⟨position, stands, rfl⟩
    rw [(resolve_eq_ok_iff arranged).mpr ⟨position, stands, rfl⟩]
    change (moveOn _ _ _).bind _ = _
    rw [moveOn_handleAt arranged stands]
    rfl

/-! ## What becomes of the driver -/

/-- A packet that is taken back changes its session. -/
theorem serve_handBack_of_accepted
    (found : driver.sessions.get? session.number = some entry)
    (accepted : accept direction session packet entry = .ok changed) :
    driver.serve (.handBack direction session packet) =
      driver.setSession session.number changed := by
  cases direction <;>
    simp only [accept] at accepted <;>
    simp only [Request.handBack, serve, Driver.releaseReceived,
      Driver.sendPacket, releaseReceived, sendPacket, handBack, found, accepted]

/-- A packet that is not taken back is noted once, and nothing else
changes. -/
theorem serve_handBack_of_refused
    (refused : ∀ entry changed,
      driver.sessions.get? session.number = some entry →
        accept direction session packet entry ≠ .ok changed) :
    ∃ detail, driver.serve (.handBack direction session packet) =
      { driver with
        violations := driver.violations ++ [⟨handBackName direction, detail⟩] } := by
  have noted : ∀ (operation kind : String)
      (take : RunningSession → Except RingError RunningSession),
      (∀ entry changed, driver.sessions.get? session.number = some entry →
        take entry ≠ .ok changed) →
      ∃ detail, (handBack operation kind take session driver).state =
        { driver with
          violations := driver.violations ++ [⟨operation, detail⟩] } := by
    intro operation kind take refused
    unfold handBack
    split
    case h_1 => exact ⟨_, rfl⟩
    case h_2 entry found =>
      split
      case h_1 => exact ⟨_, rfl⟩
      case h_2 changed taken => exact absurd taken (refused entry changed found)
  cases direction with
  | inbound => exact noted _ _ _ refused
  | outbound => exact noted _ _ _ refused

end MemoryDriver
end Memory
end VirtualAdapter

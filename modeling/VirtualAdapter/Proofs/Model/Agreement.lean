import VirtualAdapter.Proofs.Model.Queues
import VirtualAdapter.Proofs.Model.Receiving
import VirtualAdapter.Proofs.Model.Sending

/-!
# When a session and its queues agree

Each queue mirrors its ring, and flags, counts and held packets are the same on
both sides.
-/

namespace VirtualAdapter
namespace Model

open Host (HeldPacket PacketId)
open VirtualAdapter.Ring (PacketRing Slot SlotState)
open VirtualAdapter.Ring.PacketRing (Arranged Layout)

/-- A session agrees with its queues after a number of operations. -/
structure Agrees
    (traffic : Traffic)
    (queues : SessionQueues)
    (steps : Nat) : Prop where
  /-- The layout of the inbound ring. -/
  inboundLayout : Layout traffic.inbound
  /-- The layout of the outbound ring. -/
  outboundLayout : Layout traffic.outbound
  /-- The inbound ring holds as many packets as the queues allow. -/
  inboundCapacity : traffic.inbound.capacity = queues.capacity
  /-- So does the outbound ring. -/
  outboundCapacity : traffic.outbound.capacity = queues.capacity
  /-- The inbound packets. -/
  inbound : Mirrors .inbound traffic.packets traffic.inbound queues.inbound
  /-- The outbound packets. -/
  outbound : Mirrors .outbound traffic.packets traffic.outbound queues.outbound
  /-- As many packets were delivered. -/
  inboundRead : traffic.inbound.read = traffic.inbound.tail + queues.read
  /-- What the network side takes out is given back at once. -/
  outboundRead : traffic.outbound.read = traffic.outbound.tail
  /-- The received packets that the host holds. -/
  heldInbound : queues.heldInbound = heldIn queues.inbound
  /-- The buffers that the host holds. -/
  heldOutbound : queues.heldOutbound = heldIn queues.outbound
  /-- Numbers of held packets were given out. -/
  known : ∀ id packet, traffic.packets.get? id = some packet →
    id ≤ traffic.lastNumber
  /-- The session was shut down or not. -/
  isShutDown : traffic.signals.isSet 1 = queues.isShutDown
  /-- The packets that were received. -/
  received : traffic.stats.packetsReceived.toNat = queues.received
  /-- The packets that were sent. -/
  sent : traffic.stats.packetsSent.toNat = queues.sent
  /-- The buffers that were refused. -/
  ringFull : traffic.stats.sendRingFull.toNat = queues.ringFull
  /-- An operation counts at most once. -/
  counted : queues.received + queues.sent + queues.ringFull ≤ steps

/-- One more is counted as long as the counter does not overflow. -/
theorem toNat_add_one
    {counter : UInt64}
    {steps : Nat}
    (le : counter.toNat ≤ steps)
    (bound : steps + 1 < 2 ^ 64) :
    (counter + 1).toNat = counter.toNat + 1 := by
  rw [UInt64.toNat_add]
  exact Nat.mod_eq_of_lt (Nat.lt_of_le_of_lt (Nat.succ_le_succ le) bound)

namespace Agrees

variable {traffic : Traffic} {queues : SessionQueues} {steps : Nat}

/-- An operation need not count. -/
theorem succ (agrees : Agrees traffic queues steps) :
    Agrees traffic queues (steps + 1) :=
  { agrees with counted := Nat.le_succ_of_le agrees.counted }

/-- The event of the packets does not matter. -/
theorem reset (agrees : Agrees traffic queues steps) :
    Agrees { traffic with signals := traffic.signals.reset 0 } queues steps :=
  { agrees with
    isShutDown := (Signal.Bank.isSet_reset 0 1).trans agrees.isShutDown }

/-- The shutdown is known on both sides. -/
theorem shutdown (agrees : Agrees traffic queues steps) :
    Agrees { traffic with signals := traffic.signals.set 1 }
      { queues with isShutDown := true } steps :=
  { agrees with isShutDown := Signal.Bank.isSet_set 1 1 }

/-- A refusal is counted on both sides. -/
theorem refused
    (agrees : Agrees traffic queues steps)
    (bound : steps + 1 < 2 ^ 64) :
    Agrees traffic.refused { queues with ringFull := queues.ringFull + 1 }
      (steps + 1) :=
  { agrees with
    ringFull := by
      have counted := agrees.counted
      have same := agrees.ringFull
      exact (toNat_add_one (by omega) bound).trans (congrArg (· + 1) same)
    counted := Nat.succ_le_succ agrees.counted }

/-- A packet that was sent is counted on both sides. -/
theorem counted_sent
    (agrees : Agrees traffic queues steps)
    (bound : steps + 1 < 2 ^ 64)
    (bytes : Nat) :
    Agrees (traffic.counted bytes) { queues with sent := queues.sent + 1 }
      (steps + 1) :=
  { agrees with
    sent := by
      have counted := agrees.counted
      have same := agrees.sent
      exact (toNat_add_one (by omega) bound).trans (congrArg (· + 1) same)
    counted := by
      have := agrees.counted
      change queues.received + (queues.sent + 1) + queues.ringFull ≤ steps + 1
      omega }

/-! ## What the queues say about the rings -/

/-- The inbound ring is full when the queue has no room. -/
theorem isFull_inbound (agrees : Agrees traffic queues steps) :
    traffic.inbound.isFull = !queues.hasRoom := by
  rw [agrees.inbound.isFull_eq agrees.inboundLayout.toArranged,
    agrees.inboundCapacity, SessionQueues.hasRoom, ← decide_not]
  simp only [Nat.not_lt]

/-- The outbound ring is full when the queue is. -/
theorem isFull_outbound (agrees : Agrees traffic queues steps) :
    traffic.outbound.isFull = queues.isFull := by
  rw [agrees.outbound.isFull_eq agrees.outboundLayout.toArranged,
    agrees.outboundCapacity, SessionQueues.isFull]

/-- The next inbound packet has arrived, or there is none. -/
theorem next_cases (agrees : Agrees traffic queues steps) :
    (traffic.inbound.isDrained = true ∧ queues.next? = none) ∨
      (traffic.inbound.isDrained = false ∧ ∃ content,
        queues.inbound[queues.read]? = some (content, .queued)) := by
  have layout := agrees.inboundLayout
  cases found : queues.inbound[queues.read]? with
  | none =>
      left
      refine ⟨?_, by rw [SessionQueues.next?, found]; rfl⟩
      cases ready : traffic.inbound.isDrained with
      | true => rfl
      | false =>
          obtain ⟨waiting, _⟩ :=
            (PacketRing.isDrained_eq_false_iff layout.toArranged).mp ready
          have beyond := List.getElem?_eq_none_iff.mp found
          have head_eq := agrees.inbound.head_eq layout.toArranged
          have read_eq := agrees.inboundRead
          omega
  | some entry =>
      right
      obtain ⟨lt_head, _, state⟩ := agrees.inbound.slotAt_eq found
      rw [← agrees.inboundRead] at lt_head state
      obtain ⟨content, arrival⟩ := entry
      have pending := layout.pending _ (Nat.le_refl _) lt_head
      have queued : arrival = .queued := by
        rw [state] at pending
        cases arrival <;> simp [Stage.state] at pending ⊢
      subst queued
      exact ⟨(PacketRing.isDrained_eq_false_iff layout.toArranged).mpr
        ⟨lt_head, state⟩, content, rfl⟩

/-- The driver counts the received packets that the host holds. -/
theorem count_inbound (agrees : Agrees traffic queues steps) :
    traffic.inbound.count .delivered = queues.heldInbound.length := by
  rw [agrees.heldInbound]
  refine agrees.inbound.count_eq agrees.inboundLayout.toArranged (by simp) ?_
  intro arrival
  cases arrival <;> simp [Stage.state, Stage.packet?]

/-- The buffers that the host holds are the allocated ones. -/
theorem count_outbound (agrees : Agrees traffic queues steps) :
    traffic.outbound.count .allocated = queues.heldOutbound.length := by
  rw [agrees.heldOutbound]
  refine agrees.outbound.count_eq agrees.outboundLayout.toArranged (by simp) ?_
  intro departure
  cases departure <;> simp [Stage.state, Stage.packet?]

/-- A number that was not given out is that of no held packet. -/
theorem ne_fresh
    (agrees : Agrees traffic queues steps)
    {id : PacketId}
    {packet : HeldPacket}
    (found : traffic.packets.get? id = some packet) :
    id ≠ traffic.lastNumber + 1 :=
  Nat.ne_of_lt (Nat.lt_succ_of_le (agrees.known id packet found))

/-- A held packet of one direction is none of the other. -/
theorem ne_of_directions
    {id other : PacketId}
    {first second : PacketRing}
    {position place : Nat}
    (received : traffic.packets.get? id = some (heldAt .inbound first position))
    (lent : traffic.packets.get? other =
      some (heldAt .outbound second place)) : id ≠ other := by
  rintro rfl
  have same := Option.some.inj (received.symm.trans lent)
  exact Direction.noConfusion (congrArg (·.direction) same)

/-- A new packet is known. -/
theorem known_insert
    (agrees : Agrees traffic queues steps)
    (packet : HeldPacket) :
    ∀ id held, (traffic.packets.insert (traffic.lastNumber + 1) packet).get? id =
      some held → id ≤ traffic.lastNumber + 1 := by
  intro id held found
  rw [Table.get?_insert] at found
  split at found
  case isTrue same => exact Nat.le_of_eq same
  case isFalse => exact Nat.le_succ_of_le (agrees.known id held found)

/-- The packets that are left after one went back are known. -/
theorem known_erase
    (agrees : Agrees traffic queues steps)
    (gone : PacketId) :
    ∀ id held, (traffic.packets.erase gone).get? id = some held →
      id ≤ traffic.lastNumber := by
  intro id held found
  exact agrees.known id held (Table.of_get?_erase found).2

/-- A mirror does not change with a packet that is new. -/
theorem mirrors_insert
    {Value : Type}
    [Stage Value]
    {direction : Direction}
    {ring : PacketRing}
    {queue : List (Bytes × Value)}
    (agrees : Agrees traffic queues steps)
    (mirrors : Mirrors direction traffic.packets ring queue)
    (packet : HeldPacket) :
    Mirrors direction
      (traffic.packets.insert (traffic.lastNumber + 1) packet) ring queue := by
  refine mirrors.of_packets fun entry id position _ _ lent => ?_
  rw [Table.get?_insert, if_neg (agrees.ne_fresh lent), lent]

/-- A received packet that the host holds is in the queue. -/
theorem exists_of_mem_heldInbound
    (agrees : Agrees traffic queues steps)
    {id : PacketId}
    (member : id ∈ queues.heldInbound) :
    ∃ (index : Nat) (content : Bytes),
      queues.inbound[index]? = some (content, .held id) := by
  rw [agrees.heldInbound] at member
  obtain ⟨⟨content, arrival⟩, inside, held⟩ := List.mem_filterMap.mp member
  obtain ⟨index, found⟩ := List.mem_iff_getElem?.mp inside
  cases arrival with
  | queued => cases held
  | held other =>
      obtain rfl := Option.some.inj held
      exact ⟨index, content, found⟩
  | released => cases held

/-- A buffer that the host holds is in the queue. -/
theorem exists_of_mem_heldOutbound
    (agrees : Agrees traffic queues steps)
    {id : PacketId}
    (member : id ∈ queues.heldOutbound) :
    ∃ (index : Nat) (content : Bytes),
      queues.outbound[index]? = some (content, .held id) := by
  rw [agrees.heldOutbound] at member
  obtain ⟨⟨content, departure⟩, inside, held⟩ := List.mem_filterMap.mp member
  obtain ⟨index, found⟩ := List.mem_iff_getElem?.mp inside
  cases departure with
  | held other =>
      obtain rfl := Option.some.inj held
      exact ⟨index, content, found⟩
  | committed => cases held

end Agrees

end Model
end VirtualAdapter

import VirtualAdapter.Proofs.Model.Traffic

/-!
# Sending in a session trial

Buffers are lent, filled and held, and go back to be sent or discarded.
-/

namespace VirtualAdapter
namespace Model

open Host (AdapterId HeldPacket PacketId SessionId)
open Memory (MemoryDriver RunningSession)
open Memory.MemoryDriver (packetAt)
open VirtualAdapter.Ring (PacketRing)
open VirtualAdapter.Ring.PacketRing (Arranged Layout)

namespace Traffic

variable {traffic : Traffic} {capacity : UInt32}

/-- A buffer is lent and held. -/
def allocated (traffic : Traffic) (length : Nat) : Traffic :=
  { traffic with
    outbound := traffic.outbound.grown length
    packets := traffic.packets.insert (traffic.lastNumber + 1)
      (heldAt .outbound (traffic.outbound.grown length) traffic.outbound.head)
    lastNumber := traffic.lastNumber + 1 }

/-- A buffer was refused because the ring was full. -/
def refused (traffic : Traffic) : Traffic :=
  { traffic with stats := traffic.stats.recordRingFull }

/-- A buffer is filled. -/
def written (traffic : Traffic) (position : Nat) (content : Bytes) : Traffic :=
  { traffic with
    outbound := traffic.outbound.changedAt position fun slot =>
      { slot with buffer := content } }

/-- A buffer goes back to be sent. -/
def sent (traffic : Traffic) (id : PacketId) (position : Nat) : Traffic :=
  { traffic with
    outbound := traffic.outbound.changedAt position fun slot =>
      { slot with state := .committed }
    packets := traffic.packets.erase id }

/-- A packet that was sent is counted. -/
def counted (traffic : Traffic) (bytes : Nat) : Traffic :=
  { traffic with stats := traffic.stats.recordSent bytes }

section Send

variable {size : Nat} (valid : validatePacketSize size = .ok size)

include valid

/-- A full ring lends no buffer, and the refusal is counted. -/
theorem allocateSend_full
    (arranged : Arranged traffic.outbound)
    (unshut : traffic.signals.isSet 1 = false)
    (full : traffic.outbound.isFull = true) :
    (Host.allocateSend trialSession size (traffic.host capacity)).value =
        refuse (.resourceExhausted "send ring") ∧
      (Host.allocateSend trialSession size (traffic.host capacity)).state =
        traffic.refused.host capacity := by
  have lent : Driver.allocateSend (traffic.session capacity).handle size
      (traffic.host capacity).driver =
        ⟨refuse (.resourceExhausted "send ring"),
          traffic.driver capacity, []⟩ := by
    change MemoryDriver.allocateSend trialHandle size
      (traffic.driver capacity) = _
    have found : (traffic.driver capacity).sessions.get? trialHandle.number =
        some traffic.entry := rfl
    have alloc : traffic.entry.outbound.alloc size = .error .full :=
      (PacketRing.alloc_eq arranged size).trans (if_pos full)
    simp only [MemoryDriver.allocateSend, valid, found, alloc]
    rfl
  unfold Host.allocateSend
  rw [(whileOpen_open unshut _).1, (whileOpen_open unshut _).2]
  simp only [valid, Action.value_bind, Action.state_bind, Host.value_ask,
    Host.state_ask, lent]
  exact ⟨rfl, rfl⟩

/-- A ring with room lends a buffer, and the host holds it. -/
theorem allocateSend_room
    (arranged : Arranged traffic.outbound)
    (grown : Arranged (traffic.outbound.grown size))
    (unshut : traffic.signals.isSet 1 = false)
    (room : traffic.outbound.isFull = false) :
    (Host.allocateSend trialSession size (traffic.host capacity)).value =
        .ok (traffic.lastNumber + 1) ∧
      (Host.allocateSend trialSession size (traffic.host capacity)).state =
        (traffic.allocated size).host capacity := by
  have lent : Driver.allocateSend (traffic.session capacity).handle size
      (traffic.host capacity).driver =
        ⟨.ok (packetAt trialHandle .outbound (traffic.outbound.grown size)
            traffic.outbound.head),
          { traffic with
            outbound := traffic.outbound.grown size }.driver capacity, []⟩ := by
    change MemoryDriver.allocateSend trialHandle size
      (traffic.driver capacity) = _
    have found : (traffic.driver capacity).sessions.get? trialHandle.number =
        some traffic.entry := rfl
    have alloc : traffic.entry.outbound.alloc size =
        .ok ((traffic.outbound.grown size).handleAt traffic.outbound.head,
          traffic.outbound.grown size) :=
      (PacketRing.alloc_eq arranged size).trans (if_neg (by simp [room]))
    have lend := @MemoryDriver.lend_eq trialHandle _ traffic.outbound.head grown
      .outbound (arranged.tail_le_read.trans arranged.read_le_head)
        (Nat.lt_succ_self _)
    simp only [MemoryDriver.allocateSend, valid, found, alloc, lend]
    rfl
  unfold Host.allocateSend
  rw [(whileOpen_open unshut _).1, (whileOpen_open unshut _).2]
  simp only [valid, Action.value_bind, Action.state_bind, Host.value_ask,
    Host.state_ask, lent]
  exact ⟨rfl, rfl⟩

end Send

section Commit

variable {id : PacketId} {position : Nat}

/-- Filling a buffer that is held changes the ring. -/
theorem state_writePacket
    (arranged : Arranged traffic.outbound)
    {content : Bytes}
    (whole : content.length =
      (traffic.outbound.slotAt position).buffer.length) :
    (Host.writePacket (heldAt .outbound traffic.outbound position) 0 content
      (traffic.host capacity)).state =
      (traffic.written position content).host capacity := by
  have found : (traffic.driver capacity).sessions.get? trialHandle.number =
      some traffic.entry := rfl
  have filled := @MemoryDriver.writePacket_packetAt trialHandle position
    (traffic.driver capacity) traffic.entry found arranged content whole
  change Driver.writePacket (heldAt .outbound traffic.outbound position).raw 0
    content (traffic.host capacity).driver = _ at filled
  simp only [Host.writePacket, Host.state_changeDriver, filled]
  rfl

/-- Sending a buffer that is held commits it. -/
theorem state_sendPacket
    (arranged : Arranged traffic.outbound)
    (tail_le : traffic.outbound.tail ≤ position)
    (lt_head : position < traffic.outbound.head)
    (held : (traffic.outbound.slotAt position).state = .allocated) :
    (Driver.sendPacket (traffic.session capacity).handle
      (heldAt .outbound traffic.outbound position).raw
      (traffic.driver capacity)).state =
      (traffic.sent id position).driver capacity := by
  have found : (traffic.driver capacity).sessions.get? trialHandle.number =
      some traffic.entry := rfl
  have accepted := @MemoryDriver.acceptAllocated_packetAt trialHandle position
    traffic.entry arranged tail_le lt_head held
  change (MemoryDriver.sendPacket trialHandle
    (packetAt trialHandle .outbound traffic.entry.outbound position)
    (traffic.driver capacity)).state = _
  simp only [MemoryDriver.sendPacket, MemoryDriver.handBack, found, accepted]
  rfl

/-- Sending a buffer commits and counts it. -/
theorem state_commitPacket
    (arranged : Arranged traffic.outbound)
    (tail_le : traffic.outbound.tail ≤ position)
    (lt_head : position < traffic.outbound.head)
    (held : (traffic.outbound.slotAt position).state = .allocated) :
    (Host.commitPacket id (heldAt .outbound traffic.outbound position)
      (traffic.session capacity) (traffic.host capacity)).state =
      ((traffic.sent id position).counted
        (traffic.outbound.slotAt position).buffer.length).host capacity := by
  have back := @state_sendPacket traffic capacity id position arranged tail_le
    lt_head held
  have kept : (Host.forgetPacket id (traffic.host capacity)).state.driver =
      traffic.driver capacity := rfl
  simp only [Host.commitPacket, Action.state_bind, Host.state_ask, kept, back]
  rfl

/-- A buffer that was filled is still the one that is held. -/
theorem heldAt_written
    (arranged : Arranged traffic.outbound)
    (tail_le : traffic.outbound.tail ≤ position)
    (lt_head : position < traffic.outbound.head)
    {content : Bytes}
    (whole : content.length =
      (traffic.outbound.slotAt position).buffer.length) :
    heldAt .outbound (traffic.written position content).outbound position =
      heldAt .outbound traffic.outbound position := by
  have lt := lt_head.trans_le arranged.head_le
  exact congrArg (fun raw => (⟨trialSession, .outbound, raw⟩ : HeldPacket))
    (MemoryDriver.packetAt_changedAt .outbound tail_le lt tail_le lt rfl whole)

/-- A buffer that was filled is still allocated. -/
theorem slotAt_written
    (arranged : Arranged traffic.outbound)
    (tail_le : traffic.outbound.tail ≤ position)
    (lt_head : position < traffic.outbound.head)
    (content : Bytes) :
    (traffic.written position content).outbound.slotAt position =
      { traffic.outbound.slotAt position with buffer := content } := by
  have lt := lt_head.trans_le arranged.head_le
  exact (PacketRing.slotAt_changedAt _ tail_le lt tail_le lt).trans
    (if_pos rfl)

/-- Filling a buffer keeps the arrangement. -/
theorem arranged_written
    (arranged : Arranged traffic.outbound)
    (tail_le : traffic.outbound.tail ≤ position)
    (lt_head : position < traffic.outbound.head)
    (held : (traffic.outbound.slotAt position).state = .allocated)
    (content : Bytes) : Arranged (traffic.written position content).outbound :=
  arranged.setSlot tail_le lt_head (fun _ => .inl held) fun before =>
    absurd (arranged.read_le_of_pending tail_le (.inl held))
      (Nat.not_le_of_lt before)

/-- Discarding a buffer commits zeros in its place. -/
theorem state_discardPacket
    (arranged : Arranged traffic.outbound)
    (tail_le : traffic.outbound.tail ≤ position)
    (lt_head : position < traffic.outbound.head)
    (held : (traffic.outbound.slotAt position).state = .allocated) :
    (Host.discardPacket id (heldAt .outbound traffic.outbound position)
      (traffic.session capacity) (traffic.host capacity)).state =
      ((traffic.written position
        (Bytes.zeros (traffic.outbound.slotAt position).buffer.length)).sent id
          position).host capacity := by
  have whole : (Bytes.zeros
      (traffic.outbound.slotAt position).buffer.length).length =
        (traffic.outbound.slotAt position).buffer.length := by
    simp [Bytes.zeros]
  have filled := @state_writePacket traffic capacity position arranged _ whole
  have shown := slotAt_written arranged tail_le lt_head (Bytes.zeros
    (traffic.outbound.slotAt position).buffer.length)
  have back := @state_sendPacket (traffic.written position (Bytes.zeros
    (traffic.outbound.slotAt position).buffer.length)) capacity id position
    (arranged_written arranged tail_le lt_head held _) tail_le lt_head
    (by rw [shown]; exact held)
  rw [heldAt_written arranged tail_le lt_head whole] at back
  have kept : ∀ host : Host MemoryDriver,
      (Host.forgetPacket id host).state =
        { host with packets := host.packets.erase id } := fun _ => rfl
  change (Driver.sendPacket (traffic.session capacity).handle _
    ((traffic.written position _).host capacity).driver).state = _ at back
  have length : (heldAt .outbound traffic.outbound position).raw.length =
      (traffic.outbound.slotAt position).buffer.length := rfl
  simp only [Host.discardPacket, Action.state_bind, Action.state_trace, length,
    filled, kept, Host.state_ask, back]
  rfl

/-- A buffer that is finished is sent. -/
theorem state_finishPacket_outbound
    (arranged : Arranged traffic.outbound)
    (tail_le : traffic.outbound.tail ≤ position)
    (lt_head : position < traffic.outbound.head)
    (held : (traffic.outbound.slotAt position).state = .allocated)
    (found : traffic.packets.get? id =
      some (heldAt .outbound traffic.outbound position)) :
    (Host.finishPacket id (traffic.host capacity)).state =
      ((traffic.sent id position).counted
        (traffic.outbound.slotAt position).buffer.length).host capacity :=
  (state_withPacket found rfl _).trans
    (state_commitPacket arranged tail_le lt_head held)

/-- A buffer that is dropped is discarded. -/
theorem state_dropPacket_outbound
    (arranged : Arranged traffic.outbound)
    (tail_le : traffic.outbound.tail ≤ position)
    (lt_head : position < traffic.outbound.head)
    (held : (traffic.outbound.slotAt position).state = .allocated)
    (found : traffic.packets.get? id =
      some (heldAt .outbound traffic.outbound position)) :
    (Host.dropPacket id (traffic.host capacity)).state =
      ((traffic.written position
        (Bytes.zeros (traffic.outbound.slotAt position).buffer.length)).sent id
          position).host capacity :=
  (state_withPacket found rfl _).trans
    (state_discardPacket arranged tail_le lt_head held)

end Commit

/-- A packet is lent, filled, sent and counted at once. -/
def submitted (traffic : Traffic) (content : Bytes) : Traffic :=
  (((traffic.allocated content.length).written traffic.outbound.head content).sent
    (traffic.lastNumber + 1) traffic.outbound.head).counted content.length

section Submit

variable {content : Bytes}

/-- A buffer is lent as zeros. -/
theorem slotAt_allocated
    (arranged : Arranged traffic.outbound)
    (room : traffic.outbound.isFull = false)
    (size : Nat) :
    (traffic.allocated size).outbound.slotAt traffic.outbound.head =
      ⟨.allocated, (traffic.outbound.slotAt traffic.outbound.head).generation + 1,
        Bytes.zeros size⟩ :=
  PacketRing.slotAt_grown_head arranged
    (PacketRing.lt_of_isFull_eq_false arranged room) size

/-- The buffer that was lent last is held. -/
theorem get?_allocated (size : Nat) :
    (traffic.allocated size).packets.get? (traffic.lastNumber + 1) =
      some (heldAt .outbound (traffic.allocated size).outbound
        traffic.outbound.head) := by
  rw [allocated, Table.get?_insert, if_pos rfl]

/-- Filling the buffer that was lent last. -/
theorem state_fillAllocated
    (layout : Layout traffic.outbound)
    (room : traffic.outbound.isFull = false) :
    (Host.writePacket (heldAt .outbound
        (traffic.allocated content.length).outbound traffic.outbound.head)
      0 content ((traffic.allocated content.length).host capacity)).state =
      ((traffic.allocated content.length).written traffic.outbound.head
        content).host capacity := by
  have space := PacketRing.lt_of_isFull_eq_false layout.toArranged room
  have grown := (layout.grown space content.length).toArranged
  exact @state_writePacket (traffic.allocated content.length) capacity
    traffic.outbound.head grown content
    (by simp [slotAt_allocated layout.toArranged room, Bytes.zeros])

/-- A ring with room takes a packet. -/
theorem trySend_room
    (valid : validatePacketSize content.length = .ok content.length)
    (layout : Layout traffic.outbound)
    (unshut : traffic.signals.isSet 1 = false)
    (room : traffic.outbound.isFull = false) :
    (Host.trySend trialSession content (traffic.host capacity)).value =
        .ok () ∧
      (Host.trySend trialSession content (traffic.host capacity)).state =
        (traffic.submitted content).host capacity := by
  have space := PacketRing.lt_of_isFull_eq_false layout.toArranged room
  have tail_le := layout.tail_le_read.trans layout.read_le_head
  have grown := (layout.grown space content.length).toArranged
  have lt_head : traffic.outbound.head <
      (traffic.allocated content.length).outbound.head := Nat.lt_succ_self _
  have shown := slotAt_allocated layout.toArranged room content.length
  have whole : content.length = ((traffic.allocated
      content.length).outbound.slotAt traffic.outbound.head).buffer.length := by
    simp [shown, Bytes.zeros]
  have held : ((traffic.allocated content.length).outbound.slotAt
      traffic.outbound.head).state = .allocated := by rw [shown]
  have filled := @slotAt_written (traffic.allocated content.length)
    traffic.outbound.head grown tail_le lt_head content
  have same := @heldAt_written (traffic.allocated content.length)
    traffic.outbound.head grown tail_le lt_head content whole
  obtain ⟨value, state⟩ := @allocateSend_room traffic capacity content.length
    valid layout.toArranged grown unshut room
  have arranged := @arranged_written (traffic.allocated content.length)
    traffic.outbound.head grown tail_le lt_head held content
  have commits := @state_commitPacket
    ((traffic.allocated content.length).written traffic.outbound.head content)
    capacity (traffic.lastNumber + 1) traffic.outbound.head arranged tail_le
    lt_head (by rw [filled]; exact held)
  rw [same, filled] at commits
  have sends := @state_withPacket (traffic.allocated content.length) capacity
    (traffic.lastNumber + 1) _ (get?_allocated content.length) rfl
    fun packet session => do
      Host.writePacket packet 0 content
      Host.commitPacket (traffic.lastNumber + 1) packet session
  rw [Action.state_bind, state_fillAllocated layout room] at sends
  simp only [Host.trySend, Action.value_bind, Action.state_bind, value, state,
    Action.value_pure, Action.state_pure, true_and]
  exact sends.trans commits

/-- A full ring takes no packet, and the refusal is counted. -/
theorem trySend_full
    (valid : validatePacketSize content.length = .ok content.length)
    (arranged : Arranged traffic.outbound)
    (unshut : traffic.signals.isSet 1 = false)
    (full : traffic.outbound.isFull = true) :
    (Host.trySend trialSession content (traffic.host capacity)).value =
        refuse (.resourceExhausted "send ring") ∧
      (Host.trySend trialSession content (traffic.host capacity)).state =
        traffic.refused.host capacity := by
  obtain ⟨value, state⟩ := @allocateSend_full traffic capacity content.length
    valid arranged unshut full
  simp only [Host.trySend, Action.value_bind, Action.state_bind, value, state,
    refuse, Action.value_pure, Action.state_pure, and_self]

/-- After the shutdown nothing is sent. -/
theorem trySend_shut (shut : traffic.signals.isSet 1 = true) :
    (Host.trySend trialSession content (traffic.host capacity)).value =
        refuse .sessionEnded ∧
      (Host.trySend trialSession content (traffic.host capacity)).state =
        traffic.host capacity := by
  rw [(isClosed_of_shut shut).trySend]
  exact ⟨rfl, rfl⟩

end Submit

/-! ## The network side -/

/-- The network side has taken out what was sent. -/
def drained (traffic : Traffic) : Traffic :=
  { traffic with
    outbound :=
      (traffic.outbound.drain
        (traffic.outbound.head - traffic.outbound.read)).2 }

/-- Draining takes contents out of the outbound ring. -/
theorem drainOutbound_eq :
    (MemoryDriver.drainOutbound SessionTrial.adapterName
        (traffic.driver capacity)).value =
      (traffic.outbound.drain
        (traffic.outbound.head - traffic.outbound.read)).1 ∧
    (MemoryDriver.drainOutbound SessionTrial.adapterName
        (traffic.driver capacity)).state =
      traffic.drained.driver capacity := by
  have found : (traffic.driver capacity).sessionFor?
      SessionTrial.adapterName = some (3, traffic.entry) := rfl
  simp only [MemoryDriver.drainOutbound, found]
  exact ⟨rfl, rfl⟩

end Traffic
end Model
end VirtualAdapter

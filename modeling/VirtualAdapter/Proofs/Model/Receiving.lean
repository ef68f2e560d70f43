import VirtualAdapter.Proofs.Model.Traffic

/-!
# Receiving in a session trial

Packets of the network side are delivered in turn, held and given back.
-/

namespace VirtualAdapter
namespace Model

open Host (AdapterId HeldPacket PacketId SessionId)
open Memory (MemoryDriver RunningSession)
open Memory.MemoryDriver (packetAt)
open VirtualAdapter.Ring (PacketRing)
open VirtualAdapter.Ring.PacketRing (Arranged Layout)

namespace Traffic

variable {traffic : Traffic} {capacity : UInt32}

/-- The next packet of the network side is delivered and held. -/
def delivered (traffic : Traffic) : Traffic where
  inbound := traffic.inbound.delivering
  outbound := traffic.outbound
  signals :=
    if traffic.inbound.delivering.isDrained then traffic.signals.reset 0
    else traffic.signals
  stats := traffic.stats.recordReceived
    (traffic.inbound.delivering.slotAt traffic.inbound.read).buffer.length
  packets := traffic.packets.insert (traffic.lastNumber + 1)
    (heldAt .inbound traffic.inbound.delivering traffic.inbound.read)
  lastNumber := traffic.lastNumber + 1

/-- A drained ring delivers nothing. -/
theorem tryReceive_drained
    (unshut : traffic.signals.isSet 1 = false)
    (drained : traffic.inbound.isDrained = true) :
    (Host.tryReceive trialSession (traffic.host capacity)).value =
        refuse .wouldBlock ∧
      (Host.tryReceive trialSession (traffic.host capacity)).state =
        { traffic with signals := traffic.signals.reset 0 }.host capacity := by
  have received : Driver.receivePacket trialHandle (traffic.driver capacity) =
      ⟨refuse .wouldBlock,
        { traffic with
          signals := traffic.signals.reset 0 }.driver capacity, []⟩ := by
    change MemoryDriver.receivePacket _ _ = _
    have pop : traffic.entry.inbound.pop = none := by
      rw [PacketRing.pop_eq]
      exact if_pos drained
    have found : (traffic.driver capacity).sessions.get? trialHandle.number =
        some traffic.entry := rfl
    simp only [MemoryDriver.receivePacket, found, pop]
    rfl
  change Driver.receivePacket (traffic.session capacity).handle
    (traffic.host capacity).driver = _ at received
  unfold Host.tryReceive
  rw [(whileOpen_open unshut _).1, (whileOpen_open unshut _).2]
  simp only [Action.value_bind, Action.state_bind, Host.value_ask,
    Host.state_ask, received]
  exact ⟨rfl, rfl⟩

/-- Otherwise the next packet is delivered, counted and held. -/
theorem tryReceive_ready
    (layout : Layout traffic.inbound)
    (unshut : traffic.signals.isSet 1 = false)
    (ready : traffic.inbound.isDrained = false) :
    (Host.tryReceive trialSession (traffic.host capacity)).value =
        .ok (traffic.lastNumber + 1) ∧
      (Host.tryReceive trialSession (traffic.host capacity)).state =
        traffic.delivered.host capacity := by
  have arranged := layout.toArranged
  obtain ⟨waiting, _⟩ := (PacketRing.isDrained_eq_false_iff arranged).mp ready
  have delivering := (layout.delivering waiting).toArranged
  have received : Driver.receivePacket trialHandle (traffic.driver capacity) =
      ⟨.ok (packetAt trialHandle .inbound traffic.inbound.delivering
          traffic.inbound.read),
        { traffic with
          inbound := traffic.inbound.delivering
          signals := traffic.delivered.signals }.driver capacity, []⟩ := by
    change MemoryDriver.receivePacket _ _ = _
    have pop : traffic.entry.inbound.pop =
        some (traffic.inbound.delivering.handleAt traffic.inbound.read,
          traffic.inbound.delivering) := by
      rw [PacketRing.handleAt_delivering arranged waiting arranged.tail_le_read
        (waiting.trans_le arranged.head_le), PacketRing.pop_eq]
      exact if_neg (by simp [entry, ready])
    have found : (traffic.driver capacity).sessions.get? trialHandle.number =
        some traffic.entry := rfl
    have lent := @MemoryDriver.lend_eq trialHandle _ traffic.inbound.read
      delivering .inbound arranged.tail_le_read waiting
    simp only [MemoryDriver.receivePacket, found, pop, lent, delivered]
    cases traffic.inbound.delivering.isDrained <;> rfl
  change Driver.receivePacket (traffic.session capacity).handle
    (traffic.host capacity).driver = _ at received
  unfold Host.tryReceive
  rw [(whileOpen_open unshut _).1, (whileOpen_open unshut _).2]
  simp only [Action.value_bind, Action.state_bind, Host.value_ask,
    Host.state_ask, received]
  exact ⟨rfl, rfl⟩

/-- A received packet goes back to the ring. -/
def released
    (traffic : Traffic)
    (id : PacketId)
    (position : Nat) : Traffic :=
  { traffic with
    inbound := (traffic.inbound.changedAt position fun slot =>
      { slot with state := .free }).reclaim
    packets := traffic.packets.erase id }

section Release

variable {id : PacketId} {position : Nat}

/-- Giving a held packet back changes the ring and the table of packets. -/
theorem state_releaseReceived
    (arranged : Arranged traffic.inbound)
    (tail_le : traffic.inbound.tail ≤ position)
    (lt_head : position < traffic.inbound.head)
    (held : (traffic.inbound.slotAt position).state = .delivered) :
    (Host.releaseReceived id (heldAt .inbound traffic.inbound position)
      (traffic.session capacity) (traffic.host capacity)).state =
      (traffic.released id position).host capacity := by
  have accepted := @MemoryDriver.acceptReceived_packetAt trialHandle position
    traffic.entry arranged tail_le lt_head held
  have found : (traffic.driver capacity).sessions.get? trialHandle.number =
      some traffic.entry := rfl
  have back : Driver.releaseReceived (traffic.session capacity).handle
      (heldAt .inbound traffic.inbound position).raw
      (traffic.driver capacity) =
        ⟨(), (traffic.released id position).driver capacity, []⟩ := by
    change MemoryDriver.releaseReceived trialHandle
      (packetAt trialHandle .inbound traffic.entry.inbound position)
      (traffic.driver capacity) = _
    simp only [MemoryDriver.releaseReceived, MemoryDriver.handBack, found,
      accepted]
    rfl
  have kept : (Host.forgetPacket id (traffic.host capacity)).state.driver =
      traffic.driver capacity := rfl
  simp only [Host.releaseReceived, Action.state_bind, Host.state_ask, kept, back]
  rfl

/-- A received packet that is finished or dropped goes back. -/
theorem state_withPacket_inbound
    (arranged : Arranged traffic.inbound)
    (tail_le : traffic.inbound.tail ≤ position)
    (lt_head : position < traffic.inbound.head)
    (held : (traffic.inbound.slotAt position).state = .delivered)
    (found : traffic.packets.get? id =
      some (heldAt .inbound traffic.inbound position)) :
    (Host.finishPacket id (traffic.host capacity)).state =
        (traffic.released id position).host capacity ∧
      (Host.dropPacket id (traffic.host capacity)).state =
        (traffic.released id position).host capacity := by
  have back := @state_releaseReceived traffic capacity id position arranged
    tail_le lt_head held
  exact ⟨(state_withPacket found rfl _).trans back,
    (state_withPacket found rfl _).trans back⟩

end Release

/-- The packet that was delivered last is held. -/
theorem get?_delivered :
    traffic.delivered.packets.get? (traffic.lastNumber + 1) =
      some (heldAt .inbound traffic.delivered.inbound traffic.inbound.read) := by
  rw [delivered, Table.get?_insert, if_pos rfl]

/-- A delivered packet is held with its content. -/
theorem slotAt_delivered
    (layout : Layout traffic.inbound)
    (ready : traffic.inbound.isDrained = false) :
    traffic.delivered.inbound.slotAt traffic.inbound.read =
      { traffic.inbound.slotAt traffic.inbound.read with
        state := .delivered } := by
  obtain ⟨waiting, _⟩ :=
    (PacketRing.isDrained_eq_false_iff layout.toArranged).mp ready
  exact (PacketRing.slotAt_delivering layout.toArranged waiting
    layout.tail_le_read (waiting.trans_le layout.head_le)).trans (if_pos rfl)

/-- Copying a packet gives it back, also if the buffer is too short. -/
theorem tryReceiveInto_ready
    (layout : Layout traffic.inbound)
    (unshut : traffic.signals.isSet 1 = false)
    (ready : traffic.inbound.isDrained = false)
    (buffer : Bytes) :
    let content := (traffic.inbound.slotAt traffic.inbound.read).buffer
    (Host.tryReceiveInto trialSession buffer (traffic.host capacity)).value =
        (if buffer.length < content.length then
          ⟨refuse (Host.bufferTooSmall buffer.length content.length), buffer⟩
        else ⟨.ok content.length, Bytes.overwrite 0 content buffer⟩) ∧
      (Host.tryReceiveInto trialSession buffer (traffic.host capacity)).state =
        (traffic.delivered.released (traffic.lastNumber + 1)
          traffic.inbound.read).host capacity := by
  obtain ⟨waiting, _⟩ :=
    (PacketRing.isDrained_eq_false_iff layout.toArranged).mp ready
  have delivering := (layout.delivering waiting).toArranged
  have shown := slotAt_delivered layout ready
  obtain ⟨value, state⟩ := @tryReceive_ready traffic capacity layout unshut ready
  have found : (traffic.delivered.host capacity).packets.get?
      (traffic.lastNumber + 1) = _ := get?_delivered
  have content : (traffic.delivered.host capacity).packetBytes
      (heldAt .inbound traffic.delivered.inbound traffic.inbound.read) =
        (traffic.inbound.slotAt traffic.inbound.read).buffer := by
    have := @value_contentOf traffic.delivered capacity _ .inbound
      traffic.inbound.read delivering get?_delivered
    rw [SessionTrial.contentOf, Action.value_inspect, found] at this
    rw [Option.some.inj this, MemoryDriver.ring]
    exact congrArg (·.buffer) shown
  have length : (heldAt .inbound traffic.delivered.inbound
      traffic.inbound.read).raw.length =
        (traffic.inbound.slotAt traffic.inbound.read).buffer.length :=
    congrArg (·.buffer.length) shown
  have back := (@state_withPacket_inbound traffic.delivered capacity
    (traffic.lastNumber + 1) traffic.inbound.read delivering layout.tail_le_read
    waiting (by rw [shown]) get?_delivered).1
  simp only [Host.tryReceiveInto, Host.copyOut, Action.value_bind,
    Action.state_bind, value, state, Host.value_packet?, Host.state_packet?,
    found, Action.value_inspect, Action.state_inspect, content, length, back]
  split <;> exact ⟨rfl, rfl⟩

/-- Copying from a drained ring is refused. -/
theorem tryReceiveInto_drained
    (unshut : traffic.signals.isSet 1 = false)
    (drained : traffic.inbound.isDrained = true)
    (buffer : Bytes) :
    (Host.tryReceiveInto trialSession buffer (traffic.host capacity)).value =
        ⟨refuse .wouldBlock, buffer⟩ ∧
      (Host.tryReceiveInto trialSession buffer (traffic.host capacity)).state =
        { traffic with signals := traffic.signals.reset 0 }.host capacity := by
  obtain ⟨value, state⟩ :=
    @tryReceive_drained traffic capacity unshut drained
  simp only [Host.tryReceiveInto, Host.copyOut, Action.value_bind,
    Action.state_bind, value, state, refuse, Action.value_pure,
    Action.state_pure, and_self]

/-- After the shutdown nothing is copied. -/
theorem tryReceiveInto_shut
    (shut : traffic.signals.isSet 1 = true)
    (buffer : Bytes) :
    (Host.tryReceiveInto trialSession buffer (traffic.host capacity)).value =
        ⟨refuse .sessionEnded, buffer⟩ ∧
      (Host.tryReceiveInto trialSession buffer (traffic.host capacity)).state =
        traffic.host capacity := by
  rw [(isClosed_of_shut shut).tryReceiveInto]
  exact ⟨rfl, rfl⟩

/-! ## The network side -/

/-- The network side has put a packet in. -/
def injected (traffic : Traffic) (content : Bytes) : Traffic :=
  { traffic with
    inbound := traffic.inbound.filled content
    signals := traffic.signals.set 0 }

section Inject

variable {content : Bytes}

/-- A full ring takes no packet of the network side. -/
theorem inject_full
    (valid : validatePacketSize content.length = .ok content.length)
    (arranged : Arranged traffic.inbound)
    (full : traffic.inbound.isFull = true) :
    (MemoryDriver.inject SessionTrial.adapterName content
        (traffic.driver capacity)).value = false ∧
      (MemoryDriver.inject SessionTrial.adapterName content
        (traffic.driver capacity)).state = traffic.driver capacity := by
  have found : (traffic.driver capacity).sessionFor?
      SessionTrial.adapterName = some (3, traffic.entry) := rfl
  have alloc : traffic.entry.inbound.alloc content.length = .error .full :=
    (PacketRing.alloc_eq arranged _).trans (if_pos full)
  simp only [MemoryDriver.inject, valid, found, alloc]
  exact ⟨rfl, rfl⟩

/-- A ring with room takes a packet and sets the event. -/
theorem inject_room
    (valid : validatePacketSize content.length = .ok content.length)
    (layout : Layout traffic.inbound)
    (room : traffic.inbound.isFull = false) :
    (MemoryDriver.inject SessionTrial.adapterName content
        (traffic.driver capacity)).value = true ∧
      (MemoryDriver.inject SessionTrial.adapterName content
        (traffic.driver capacity)).state =
        (traffic.injected content).driver capacity := by
  have space := PacketRing.lt_of_isFull_eq_false layout.toArranged room
  have found : (traffic.driver capacity).sessionFor?
      SessionTrial.adapterName = some (3, traffic.entry) := rfl
  have alloc : traffic.entry.inbound.alloc content.length =
      .ok ((traffic.inbound.grown content.length).handleAt
        traffic.inbound.head, traffic.inbound.grown content.length) :=
    (PacketRing.alloc_eq layout.toArranged _).trans (if_neg (by simp [room]))
  have put : ((traffic.inbound.grown content.length).write
      ((traffic.inbound.grown content.length).handleAt traffic.inbound.head)
      content >>= fun ring => ring.commit
        ((traffic.inbound.grown content.length).handleAt
          traffic.inbound.head)) = .ok (traffic.inbound.filled content) := by
    rw [PacketRing.write_grown layout space]
    exact PacketRing.commit_written layout space content
  simp only [MemoryDriver.inject, valid, found, alloc, put]
  exact ⟨rfl, rfl⟩

end Inject

end Traffic
end Model
end VirtualAdapter

import VirtualAdapter.Proofs.Model.Agreement

/-!
# Moves on both sides

Every move of a packet in a session has its counterpart in the queues, so that
both sides agree afterwards if they did before.
-/

namespace VirtualAdapter
namespace Model

open Host (HeldPacket PacketId)
open VirtualAdapter.Ring (PacketRing Slot SlotState)
open VirtualAdapter.Ring.PacketRing (Arranged Layout)

namespace Agrees

variable {traffic : Traffic} {queues : SessionQueues} {steps : Nat}

/-! ## Receiving -/

/-- What the network side has put in waits in the queue. -/
theorem injected
    (agrees : Agrees traffic queues steps)
    (room : traffic.inbound.isFull = false)
    (content : Bytes) :
    Agrees (traffic.injected content)
      { queues with inbound := queues.inbound ++ [(content, .queued)] }
      steps := by
  have layout := agrees.inboundLayout
  have space := PacketRing.lt_of_isFull_eq_false layout.toArranged room
  exact { agrees with
    inboundLayout := layout.filled space content
    inboundCapacity :=
      (PacketRing.capacity_filled content).trans agrees.inboundCapacity
    inbound := agrees.inbound.append layout.toArranged
      (PacketRing.capacity_filled content) rfl
      (PacketRing.contents_filled layout space content)
      (fun _ => PacketRing.slotAt_filled_of_lt layout space content)
      fun _ held => absurd held (by simp [packet?, Stage.packet?])
    isShutDown := (Signal.Bank.isSet_set 0 1).trans agrees.isShutDown
    heldInbound := by
      have none : heldIn (queues.inbound ++ [(content, Arrival.queued)]) =
          heldIn queues.inbound := by
        simp [heldIn, packet?, Stage.packet?]
      exact agrees.heldInbound.trans none.symm }

/-- Packets that were not delivered are not held. -/
theorem packet?_eq_none_of_read_le
    (agrees : Agrees traffic queues steps)
    {index : Nat}
    {entry : Bytes × Arrival}
    (found : queues.inbound[index]? = some entry)
    (beyond : queues.read ≤ index) : packet? entry = none := by
  obtain ⟨lt_head, _, state⟩ := agrees.inbound.slotAt_eq found
  have read_le : traffic.inbound.read ≤ traffic.inbound.tail + index := by
    rw [agrees.inboundRead]
    omega
  have pending := agrees.inboundLayout.pending _ read_le lt_head
  obtain ⟨content, arrival⟩ := entry
  rw [state] at pending
  cases arrival with
  | queued => rfl
  | held id => simp [Stage.state] at pending
  | released => rfl

/-- A delivered packet is held on both sides. -/
theorem delivered
    (agrees : Agrees traffic queues steps)
    (bound : steps + 1 < 2 ^ 64)
    {content : Bytes}
    (found : queues.inbound[queues.read]? = some (content, .queued)) :
    Agrees traffic.delivered
      { queues.deliver (.held (traffic.lastNumber + 1)) with
        heldInbound := queues.heldInbound ++ [traffic.lastNumber + 1] }
      (steps + 1) := by
  have layout := agrees.inboundLayout
  have read_eq := agrees.inboundRead
  obtain ⟨waiting, buffer, _⟩ := agrees.inbound.slotAt_eq found
  have modified : queues.inbound.modify queues.read
      (fun entry => (entry.1, Arrival.held (traffic.lastNumber + 1))) =
        queues.inbound.set queues.read
          (content, .held (traffic.lastNumber + 1)) :=
    modify_eq_set found _
  have inbound : Mirrors .inbound traffic.delivered.packets
      traffic.delivered.inbound (queues.inbound.set queues.read
        (content, .held (traffic.lastNumber + 1))) := by
    have changed := @Mirrors.changedAt _ _ _ _ _ _
      (agrees.mirrors_insert agrees.inbound (heldAt .inbound
        traffic.delivered.inbound traffic.inbound.read)) layout.toArranged
      queues.read _ (content, .held (traffic.lastNumber + 1)) found
      (fun slot => { slot with state := .delivered }) (Prod.ext buffer rfl) ?_
    · -- Moving the read position changes neither contents nor packets.
      rw [← read_eq] at changed
      exact ⟨changed.contents_eq, changed.lent⟩
    · intro id held
      obtain rfl := Option.some.inj held
      rw [← read_eq, Table.get?_insert, if_pos rfl]
      rfl
  have signals : traffic.delivered.signals.isSet 1 =
      traffic.signals.isSet 1 := by
    rw [Traffic.delivered]
    split
    · exact Signal.Bank.isSet_reset 0 1
    · rfl
  rw [← read_eq] at waiting
  exact
    { inboundLayout := layout.delivering waiting
      outboundLayout := agrees.outboundLayout
      inboundCapacity :=
        PacketRing.capacity_delivering.trans agrees.inboundCapacity
      outboundCapacity := agrees.outboundCapacity
      inbound := by
        change Mirrors _ _ _ (queues.inbound.modify queues.read _)
        rw [modified]
        exact inbound
      outbound := agrees.mirrors_insert agrees.outbound _
      inboundRead := congrArg (· + 1) read_eq
      outboundRead := agrees.outboundRead
      heldInbound := by
        change _ = heldIn (queues.inbound.modify queues.read _)
        rw [modified, heldIn_set found rfl rfl fun place other there behind =>
          agrees.packet?_eq_none_of_read_le there (Nat.le_of_lt behind),
          agrees.heldInbound]
      heldOutbound := agrees.heldOutbound
      known := agrees.known_insert _
      isShutDown := signals.trans agrees.isShutDown
      received := by
        have counted := agrees.counted
        have same := agrees.received
        exact (toNat_add_one (by omega) bound).trans (congrArg (· + 1) same)
      sent := agrees.sent
      ringFull := agrees.ringFull
      counted := by
        have := agrees.counted
        change queues.received + 1 + queues.sent + queues.ringFull ≤ steps + 1
        omega }

/-- Freed slots are reclaimed together with released entries. -/
theorem mirrors_reclaim
    {packets : Table PacketId HeldPacket}
    {ring : PacketRing}
    {queue : List (Bytes × Arrival)}
    {read : Nat}
    (mirrors : Mirrors .inbound packets ring queue)
    (arranged : Arranged ring)
    (read_eq : ring.read = ring.tail + read) :
    Mirrors .inbound packets ring.reclaim
        (queue.drop (SessionQueues.reclaimable read queue)) ∧
      ring.reclaim.tail =
        ring.tail + SessionQueues.reclaimable read queue := by
  have distance : ring.read - ring.tail = read := by omega
  have read_le : read ≤ queue.length := by
    have head_eq := mirrors.head_eq arranged
    have read_le := arranged.read_le_head
    omega
  have same := @Mirrors.reclaimable_eq ring queue read ring.tail
    fun index lt => by
      have found := List.getElem?_eq_getElem (lt.trans_le read_le)
      exact ⟨_, found, (mirrors.slotAt_eq found).2.2⟩
  have tail_eq : ring.reclaim.tail =
      ring.tail + SessionQueues.reclaimable read queue := by
    rw [same, ← distance]
    rfl
  refine ⟨mirrors.drop rfl tail_eq ?_ fun _ _ _ => rfl, tail_eq⟩
  rw [PacketRing.contents_reclaim, distance, same]

/-- A received packet goes back on both sides. -/
theorem released
    (agrees : Agrees traffic queues steps)
    {index : Nat}
    {content : Bytes}
    {id : PacketId}
    (found : queues.inbound[index]? = some (content, .held id)) :
    Agrees (traffic.released id (traffic.inbound.tail + index))
      (queues.letGo id) steps := by
  have layout := agrees.inboundLayout
  have lent := agrees.inbound.lent index _ id found rfl
  obtain ⟨lt_head, buffer, state⟩ := agrees.inbound.slotAt_eq found
  have lt_read := layout.lt_read_of_delivered lt_head state
  -- Until the tail moves on, the ring is arranged but need not have a layout.
  have arranged : Arranged (traffic.inbound.changedAt
      (traffic.inbound.tail + index) fun slot =>
        { slot with state := .free }) :=
    layout.toArranged.setSlot (Nat.le_add_right _ _) lt_head
      (fun beyond => absurd lt_read (Nat.not_lt.mpr beyond)) fun _ => .inr rfl
  have settles := SessionQueues.settles_release id
  have freed := @Settles.mirrors _ _ _ _ _ _ _ _ settles agrees.inbound
    layout.toArranged index _ found rfl
    (fun slot => { slot with state := .free })
    (Prod.ext buffer (by rw [SessionQueues.releaseEntry, shown, if_pos rfl]; rfl))
  obtain ⟨reclaimed, tail_eq⟩ :=
    mirrors_reclaim freed arranged agrees.inboundRead
  exact
    { inboundLayout :=
        layout.reclaim_changedAt (Nat.le_add_right _ _) lt_read rfl
      outboundLayout := agrees.outboundLayout
      inboundCapacity :=
        (@PacketRing.capacity_changedAt traffic.inbound _ fun slot =>
          { slot with state := .free }).trans agrees.inboundCapacity
      outboundCapacity := agrees.outboundCapacity
      inbound := reclaimed
      outbound := agrees.outbound.of_packets fun _ _ _ _ _ sent =>
        ((Table.get?_erase _ _ _).trans
          (if_neg (ne_of_directions lent sent).symm)).trans sent
      inboundRead := by
        have read_eq := agrees.inboundRead
        have count_le := SessionQueues.reclaimable_le queues.read
          (queues.inbound.map (SessionQueues.releaseEntry id))
        have tail : (traffic.released id
            (traffic.inbound.tail + index)).inbound.tail = _ := tail_eq
        have moved : (queues.letGo id).read = queues.read -
            SessionQueues.reclaimable queues.read
              (queues.inbound.map (SessionQueues.releaseEntry id)) := rfl
        rw [tail, moved]
        change traffic.inbound.read = traffic.inbound.tail + _ + _
        omega
      outboundRead := agrees.outboundRead
      heldInbound := by
        change queues.heldInbound.filter _ = heldIn (List.drop _ _)
        rw [heldIn_drop fun entry member => ?_, agrees.heldInbound]
        · exact settles.heldIn_map.symm
        · have gone := SessionQueues.released_of_mem_take member
          rw [packet?, gone]
          rfl
      heldOutbound := agrees.heldOutbound
      known := agrees.known_erase id
      isShutDown := agrees.isShutDown
      received := agrees.received
      sent := agrees.sent
      ringFull := agrees.ringFull
      counted := agrees.counted }

/-- Dropping a received packet lets go of it on both sides. -/
theorem dropPacket_inbound
    (agrees : Agrees traffic queues steps)
    (capacity : UInt32)
    {id : PacketId}
    (member : id ∈ queues.heldInbound) :
    ∃ next : Traffic,
      (Host.dropPacket id (traffic.host capacity)).state = next.host capacity ∧
        Agrees next (queues.letGo id) steps := by
  obtain ⟨index, content, found⟩ := agrees.exists_of_mem_heldInbound member
  obtain ⟨lt_head, _, state⟩ := agrees.inbound.slotAt_eq found
  exact ⟨_, (Traffic.state_withPacket_inbound agrees.inboundLayout.toArranged
    (Nat.le_add_right _ _) lt_head state
    (agrees.inbound.lent index _ id found rfl)).2, agrees.released found⟩

/-- A packet that is held and let go of at once is released. -/
theorem letGo_deliver
    (agrees : Agrees traffic queues steps) :
    { queues.deliver (.held (traffic.lastNumber + 1)) with
      heldInbound :=
        queues.heldInbound ++ [traffic.lastNumber + 1] }.letGo
          (traffic.lastNumber + 1) = (queues.deliver .released).reclaim := by
  have fresh : ∀ entry ∈ queues.inbound,
      packet? entry ≠ some (traffic.lastNumber + 1) := by
    intro entry member held
    obtain ⟨index, found⟩ := List.mem_iff_getElem?.mp member
    exact agrees.ne_fresh (agrees.inbound.lent index entry _ found held) rfl
  have unheld : traffic.lastNumber + 1 ∉ queues.heldInbound := by
    rw [agrees.heldInbound]
    intro member
    obtain ⟨entry, inside, held⟩ := List.mem_filterMap.mp member
    exact fresh entry inside held
  have entries : (queues.inbound.modify queues.read fun entry =>
      (entry.1, Arrival.held (traffic.lastNumber + 1))).map
        (SessionQueues.releaseEntry (traffic.lastNumber + 1)) =
      queues.inbound.modify queues.read fun entry =>
        (entry.1, Arrival.released) := by
    refine List.ext_getElem? fun index => ?_
    rw [List.getElem?_map, List.getElem?_modify, List.getElem?_modify]
    cases found : queues.inbound[index]? with
    | none => rfl
    | some entry =>
        by_cases same : queues.read = index
        · simp [same, SessionQueues.releaseEntry]
        · have kept := (SessionQueues.settles_release _).others entry
            (fresh entry (List.mem_of_getElem? found))
          simp [same, kept]
  have held : (queues.heldInbound ++ [traffic.lastNumber + 1]).filter
      (· ≠ traffic.lastNumber + 1) = queues.heldInbound := by
    rw [List.filter_append, List.filter_eq_self.mpr]
    · simp
    · intro id member
      have apart : id ≠ traffic.lastNumber + 1 := by
        rintro rfl
        exact unheld member
      simpa using apart
  change SessionQueues.reclaim { queues with
    inbound := (queues.inbound.modify queues.read _).map
      (SessionQueues.releaseEntry (traffic.lastNumber + 1))
    read := _, received := _
    heldInbound := (queues.heldInbound ++ _).filter _ } = _
  rw [entries, held]
  rfl

/-! ## Sending -/

/-- A buffer that was lent and filled is held on both sides. -/
theorem allocated
    (agrees : Agrees traffic queues steps)
    (room : traffic.outbound.isFull = false)
    (content : Bytes) :
    Agrees
      ((traffic.allocated content.length).written traffic.outbound.head content)
      { queues with
        outbound :=
          queues.outbound ++ [(content, .held (traffic.lastNumber + 1))]
        heldOutbound := queues.heldOutbound ++ [traffic.lastNumber + 1] }
      steps := by
  have layout := agrees.outboundLayout
  have space := PacketRing.lt_of_isFull_eq_false layout.toArranged room
  have same : heldAt .outbound (traffic.outbound.written content)
      traffic.outbound.head = heldAt .outbound
        (traffic.outbound.grown content.length) traffic.outbound.head :=
    @Traffic.heldAt_written (traffic.allocated content.length)
      traffic.outbound.head (layout.grown space content.length).toArranged
      (layout.tail_le_read.trans layout.read_le_head) (Nat.lt_succ_self _)
      content (by
        have shown := PacketRing.slotAt_grown_head layout.toArranged space
          content.length
        exact ((congrArg (·.buffer.length) shown).trans
          List.length_replicate).symm)
  exact { agrees with
    outboundLayout := layout.written space content
    outboundCapacity :=
      (PacketRing.capacity_written content).trans agrees.outboundCapacity
    inbound := agrees.mirrors_insert agrees.inbound _
    outbound := by
      refine (agrees.mirrors_insert agrees.outbound _).append layout.toArranged
        (PacketRing.capacity_written content) rfl
        (PacketRing.contents_written layout space content)
        (fun _ => PacketRing.slotAt_written_of_lt layout space content) ?_
      intro id held
      obtain rfl := Option.some.inj held
      rw [Table.get?_insert, if_pos rfl]
      exact congrArg some same.symm
    heldOutbound := by
      have last : heldIn (queues.outbound ++
          [(content, Departure.held (traffic.lastNumber + 1))]) =
            heldIn queues.outbound ++ [traffic.lastNumber + 1] := by
        simp [heldIn, packet?, Stage.packet?]
      rw [last, ← agrees.heldOutbound]
    known := agrees.known_insert _ }

/-- A packet that was submitted waits in the queue and is counted. -/
theorem submitted
    (agrees : Agrees traffic queues steps)
    (bound : steps + 1 < 2 ^ 64)
    (room : traffic.outbound.isFull = false)
    (content : Bytes) :
    Agrees (traffic.submitted content)
      { queues with
        sent := queues.sent + 1
        outbound := queues.outbound ++ [(content, .committed)] }
      (steps + 1) := by
  have layout := agrees.outboundLayout
  have space := PacketRing.lt_of_isFull_eq_false layout.toArranged room
  have packets : ∀ id packet, traffic.packets.get? id = some packet →
      ((traffic.packets.insert (traffic.lastNumber + 1)
        (heldAt .outbound (traffic.outbound.grown content.length)
          traffic.outbound.head)).erase (traffic.lastNumber + 1)).get? id =
        some packet := by
    intro id packet found
    have apart := agrees.ne_fresh found
    rw [Table.get?_erase, if_neg apart, Table.get?_insert, if_neg apart, found]
  have submitted : Agrees
      { traffic with
        outbound := traffic.outbound.filled content
        packets := (traffic.packets.insert (traffic.lastNumber + 1)
          (heldAt .outbound (traffic.outbound.grown content.length)
            traffic.outbound.head)).erase (traffic.lastNumber + 1)
        lastNumber := traffic.lastNumber + 1 }
      { queues with
        outbound := queues.outbound ++ [(content, .committed)] } steps :=
    { agrees with
      outboundLayout := layout.filled space content
      outboundCapacity :=
        (PacketRing.capacity_filled content).trans agrees.outboundCapacity
      inbound := agrees.inbound.of_packets fun _ id _ _ _ => packets id _
      outbound := by
        have kept : Mirrors .outbound _ traffic.outbound queues.outbound :=
          agrees.outbound.of_packets fun _ id _ _ _ => packets id _
        exact kept.append layout.toArranged
          (PacketRing.capacity_filled content) rfl
          (PacketRing.contents_filled layout space content)
          (fun _ => PacketRing.slotAt_filled_of_lt layout space content)
          fun _ held => absurd held (by simp [packet?, Stage.packet?])
      heldOutbound := by
        have none : heldIn (queues.outbound ++
            [(content, Departure.committed)]) = heldIn queues.outbound := by
          simp [heldIn, packet?, Stage.packet?]
        exact agrees.heldOutbound.trans none.symm
      known := by
        intro id packet found
        exact agrees.known_insert _ id packet (Table.of_get?_erase found).2 }
  exact submitted.counted_sent bound content.length

/-- A buffer that goes back waits in the queue. -/
theorem committed
    (agrees : Agrees traffic queues steps)
    {index : Nat}
    {content : Bytes}
    {id : PacketId}
    (found : queues.outbound[index]? = some (content, .held id))
    (change : Bytes → Bytes) :
    Agrees
      { traffic with
        outbound := traffic.outbound.changedAt (traffic.outbound.tail + index)
          fun slot =>
            { slot with buffer := change slot.buffer, state := .committed }
        packets := traffic.packets.erase id }
      (queues.commit id change) steps := by
  have layout := agrees.outboundLayout
  have lent := agrees.outbound.lent index _ id found rfl
  obtain ⟨lt_head, buffer, state⟩ := agrees.outbound.slotAt_eq found
  have settles := SessionQueues.settles_commit id change
  have committed := @Settles.mirrors _ _ _ _ _ _ _ _ settles agrees.outbound
    layout.toArranged index _ found rfl
    (fun slot => { slot with buffer := change slot.buffer, state := .committed })
    (by
      rw [SessionQueues.commitEntry, if_pos rfl]
      exact Prod.ext (congrArg change buffer) rfl)
  exact { agrees with
    outboundLayout := @PacketRing.Layout.changedAt _ layout _
      (fun slot =>
        { slot with buffer := change slot.buffer, state := .committed })
      (layout.toArranged.read_le_of_pending (Nat.le_add_right _ _)
        (.inl state)) lt_head (.inr rfl)
    outboundCapacity :=
      (@PacketRing.capacity_changedAt traffic.outbound _ fun slot =>
        { slot with buffer := change slot.buffer, state := .committed }).trans
          agrees.outboundCapacity
    inbound := agrees.inbound.of_packets fun _ _ _ _ _ received =>
      ((Table.get?_erase _ _ _).trans
        (if_neg (ne_of_directions received lent))).trans received
    outbound := committed
    heldOutbound := by
      change queues.heldOutbound.filter _ = _
      rw [agrees.heldOutbound]
      exact settles.heldIn_map.symm
    known := agrees.known_erase id }

/-- Finishing a buffer sends and counts it on both sides. -/
theorem finishPacket_outbound
    (agrees : Agrees traffic queues steps)
    (bound : steps + 1 < 2 ^ 64)
    (capacity : UInt32)
    {id : PacketId}
    (member : id ∈ queues.heldOutbound) :
    ∃ next : Traffic,
      (Host.finishPacket id (traffic.host capacity)).state =
          next.host capacity ∧
        Agrees next
          { queues.commit id (fun content => content) with
            sent := queues.sent + 1 }
          (steps + 1) := by
  obtain ⟨index, content, found⟩ := agrees.exists_of_mem_heldOutbound member
  obtain ⟨lt_head, _, state⟩ := agrees.outbound.slotAt_eq found
  have committed := agrees.committed found fun content => content
  exact ⟨_, Traffic.state_finishPacket_outbound agrees.outboundLayout.toArranged
    (Nat.le_add_right _ _) lt_head state
    (agrees.outbound.lent index _ id found rfl),
    committed.counted_sent bound _⟩

/-- Dropping a buffer sends zeros of its length on both sides. -/
theorem dropPacket_outbound
    (agrees : Agrees traffic queues steps)
    (capacity : UInt32)
    {id : PacketId}
    (member : id ∈ queues.heldOutbound) :
    ∃ next : Traffic,
      (Host.dropPacket id (traffic.host capacity)).state = next.host capacity ∧
        Agrees next
          (queues.commit id fun content => Bytes.zeros content.length)
          steps := by
  obtain ⟨index, content, found⟩ := agrees.exists_of_mem_heldOutbound member
  obtain ⟨lt_head, _, state⟩ := agrees.outbound.slotAt_eq found
  have arranged := agrees.outboundLayout.toArranged
  have dropped := @Traffic.state_dropPacket_outbound traffic capacity id
    (traffic.outbound.tail + index) arranged (Nat.le_add_right _ _) lt_head
    state (agrees.outbound.lent index _ id found rfl)
  have twice := PacketRing.changedAt_changedAt arranged.nonempty
    (traffic.outbound.tail + index)
    (fun slot => { slot with buffer := Bytes.zeros (traffic.outbound.slotAt
      (traffic.outbound.tail + index)).buffer.length })
    fun slot => { slot with state := .committed }
  refine ⟨_, dropped, ?_⟩
  rw [Traffic.sent, Traffic.written, twice]
  exact agrees.committed found fun content => Bytes.zeros content.length

/-- What was taken out is gone on both sides. -/
theorem drained
    (agrees : Agrees traffic queues steps) :
    Agrees traffic.drained
      { queues with
        outbound := queues.outbound.drop queues.drainable.length } steps := by
  obtain ⟨_, drained⟩ := PacketRing.drain_eq agrees.outboundLayout
    agrees.outboundRead rfl
  have count : traffic.outbound.drainable.length =
      queues.drainable.length := by
    rw [agrees.outbound.drainable_eq, List.length_map]
    rfl
  rw [count] at drained
  exact { agrees with
    outboundLayout := drained.layout
    outboundCapacity := drained.capacity_eq.trans agrees.outboundCapacity
    outbound := agrees.outbound.drop drained.capacity_eq drained.tail_eq
      drained.contents_eq fun position tail_le lt_head =>
        drained.slotAt_eq position tail_le (drained.head_eq.symm ▸ lt_head)
    outboundRead := drained.read_eq
    heldOutbound := by
      rw [heldIn_drop fun entry member => ?_, agrees.heldOutbound]
      have front := List.prefix_iff_eq_take.mp
        (List.takeWhile_prefix (l := queues.outbound)
          fun entry => decide (entry.2 = Departure.committed))
      rw [SessionQueues.drainable, ← front] at member
      have committed := of_decide_eq_true
        (List.all_eq_true.mp List.all_takeWhile entry member)
      rw [packet?, committed]
      rfl }

end Agrees

end Model
end VirtualAdapter

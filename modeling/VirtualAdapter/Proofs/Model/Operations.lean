import VirtualAdapter.Proofs.Model.Moves

/-!
# Operations of a session trial

Every operation on a session comes out as the queues expect and keeps both
sides in agreement.
-/

namespace VirtualAdapter
namespace Model

open Host (AdapterId PacketId SessionId)
open Memory (MemoryDriver)
open VirtualAdapter.Ring (PacketRing)

/-- An operation passes and leaves both sides in agreement. -/
def Keeps
    (capacity : UInt32)
    (steps : Nat)
    (reply : Reply (Host MemoryDriver) (Except Finding SessionQueues)) : Prop :=
  ∃ traffic queues, reply.value = .ok queues ∧
    reply.state = Traffic.host traffic capacity ∧ Agrees traffic queues steps

/-- Packets of a trial have a size that is accepted. -/
theorem validatePacketSize_packet (number : UInt16) (fill : UInt8) :
    validatePacketSize (packet number fill).length =
      .ok (packet number fill).length := by
  have bound := Nat.mod_lt number.toNat (show 0 < 1500 by decide)
  have length : (packet number fill).length = 1 + number.toNat % 1500 :=
    List.length_replicate
  refine if_neg fun refused => ?_
  rcases Bool.or_eq_true_iff.mp refused with empty | large
  · have := of_decide_eq_true empty
    omega
  · have : 0xFFFF < (packet number fill).length := of_decide_eq_true large
    omega

section Steps

variable
  {traffic : Traffic}
  {queues : SessionQueues}
  {steps : Nat}
  {capacity : UInt32}

/-- An operation goes on with what a call has answered and left. -/
theorem keeps_bind
    {Value : Type}
    {action : Action (Host MemoryDriver) Value}
    {continuation : Value → SessionStep}
    {value : Value}
    {host next : Host MemoryDriver}
    (answers : (action host).value = value)
    (leaves : (action host).state = next)
    (rest : Keeps capacity steps (continuation value next)) :
    Keeps capacity steps ((action >>= continuation) host) := by
  subst answers leaves
  exact rest

theorem state_contentOf (id : PacketId) (host : Host MemoryDriver) :
    (SessionTrial.contentOf id host).state = host := rfl

/-- An operation ends with queues that agree. -/
theorem keeps_pure (agrees : Agrees traffic queues steps) :
    Keeps capacity steps
      ((pure (.ok queues) : SessionStep) (traffic.host capacity)) :=
  ⟨traffic, queues, rfl, rfl, agrees⟩

/-- After the shutdown a refusal is expected. -/
theorem withRoom_shut
    {Value : Type}
    {call : String}
    (shut : queues.isShutDown = true)
    (continuation : Value → SessionStep) :
    SessionTrial.withRoom call queues (refuse .sessionEnded) continuation =
      pure (.ok queues) := by
  rw [SessionTrial.withRoom, if_pos shut]
  rfl

/-- On a full ring a refusal is expected and counted. -/
theorem withRoom_full
    {Value : Type}
    {call what : String}
    (unshut : queues.isShutDown = false)
    (full : queues.isFull = true)
    (continuation : Value → SessionStep) :
    SessionTrial.withRoom call queues (refuse (.resourceExhausted what))
        continuation =
      pure (.ok { queues with ringFull := queues.ringFull + 1 }) := by
  rw [SessionTrial.withRoom, if_neg (by simp [unshut]), if_pos full]
  rfl

/-- With room the call is expected to succeed. -/
theorem withRoom_ok
    {Value : Type}
    {call : String}
    {value : Value}
    (unshut : queues.isShutDown = false)
    (room : queues.isFull = false)
    (continuation : Value → SessionStep) :
    SessionTrial.withRoom call queues (.ok value) continuation =
      continuation value := by
  rw [SessionTrial.withRoom, if_neg (by simp [unshut]),
    if_neg (by simp [room])]

end Steps

namespace Agrees

variable
  {traffic : Traffic}
  {queues : SessionQueues}
  {steps : Nat}
  (agrees : Agrees traffic queues steps)
  (capacity : UInt32)

/-! ## The network side -/

include agrees in
/-- A packet is put in when the queue has room. -/
theorem keeps_inject
    {content : Bytes}
    (valid : validatePacketSize content.length = .ok content.length) :
    Keeps capacity (steps + 1)
      (SessionTrial.inject queues content (traffic.host capacity)) := by
  have layout := agrees.inboundLayout
  cases room : traffic.inbound.isFull with
  | true =>
      obtain ⟨value, state⟩ := @Traffic.inject_full traffic capacity content
        valid layout.toArranged room
      have hasRoom : queues.hasRoom = false := by
        simpa [room] using agrees.isFull_inbound
      refine keeps_bind value (congrArg (fun driver =>
        { traffic.host capacity with driver }) state) ?_
      rw [if_neg (by simp [hasRoom]), if_neg Bool.false_ne_true]
      exact keeps_pure agrees.succ
  | false =>
      obtain ⟨value, state⟩ := @Traffic.inject_room traffic capacity content
        valid layout room
      have hasRoom : queues.hasRoom = true := by
        simpa [room] using agrees.isFull_inbound
      refine keeps_bind value (congrArg (fun driver =>
        { traffic.host capacity with driver }) state) ?_
      rw [if_neg (by simp [hasRoom]), if_pos rfl]
      exact keeps_pure (agrees.injected room content).succ

include agrees in
/-- What can be drained is what the queue expects. -/
theorem keeps_drain :
    Keeps capacity (steps + 1)
      (SessionTrial.drain queues (traffic.host capacity)) := by
  obtain ⟨value, state⟩ := @Traffic.drainOutbound_eq traffic capacity
  obtain ⟨contents, _⟩ := PacketRing.drain_eq agrees.outboundLayout
    agrees.outboundRead rfl
  have drained : (traffic.outbound.drain
      (traffic.outbound.head - traffic.outbound.read)).1 =
        queues.drainable.map (·.1) := by
    rw [contents, agrees.outbound.drainable_eq, List.map_map]
    rfl
  rw [drained] at value
  refine keeps_bind value (congrArg (fun driver =>
    { traffic.host capacity with driver }) state) ?_
  rw [if_neg (not_not_intro rfl)]
  exact keeps_pure agrees.drained.succ

/-! ## Receiving -/

include agrees in
/-- The bytes at the read position are those of the next entry. -/
theorem buffer_next
    {content : Bytes}
    (found : queues.inbound[queues.read]? = some (content, .queued)) :
    (traffic.inbound.slotAt traffic.inbound.read).buffer = content := by
  rw [agrees.inboundRead]
  exact (agrees.inbound.slotAt_eq found).2.1

include agrees in
/-- A packet that was just delivered shows the next entry. -/
theorem contentOf_delivered
    (ready : traffic.inbound.isDrained = false)
    {content : Bytes}
    (found : queues.inbound[queues.read]? = some (content, .queued)) :
    (SessionTrial.contentOf (traffic.lastNumber + 1)
      (traffic.delivered.host capacity)).value = some content := by
  have layout := agrees.inboundLayout
  obtain ⟨waiting, _⟩ :=
    (PacketRing.isDrained_eq_false_iff layout.toArranged).mp ready
  have shown := Traffic.slotAt_delivered layout ready
  have value := @Traffic.value_contentOf traffic.delivered capacity _ .inbound
    traffic.inbound.read (layout.delivering waiting).toArranged
    Traffic.get?_delivered
  rw [value]
  exact congrArg some
    ((congrArg (·.buffer) shown).trans (agrees.buffer_next found))

include agrees in
/-- The next packet is received with its content, unless there is none. -/
theorem keeps_receive (bound : steps + 1 < 2 ^ 64) :
    Keeps capacity (steps + 1)
      (SessionTrial.receive trialSession queues (traffic.host capacity)) := by
  cases shut : queues.isShutDown with
  | true =>
      obtain ⟨value, state⟩ := @Traffic.whileOpen_shut traffic capacity
        PacketId (agrees.isShutDown.trans shut) _
      refine keeps_bind value state ?_
      rw [if_pos shut]
      exact keeps_pure agrees.succ
  | false =>
      have unshut := agrees.isShutDown.trans shut
      rcases agrees.next_cases with ⟨drained, none⟩ | ⟨ready, content, found⟩
      · obtain ⟨value, state⟩ :=
          @Traffic.tryReceive_drained traffic capacity unshut drained
        refine keeps_bind value state ?_
        rw [if_neg (by simp [shut]), none]
        exact keeps_pure agrees.reset.succ
      · obtain ⟨value, state⟩ := @Traffic.tryReceive_ready traffic capacity
          agrees.inboundLayout unshut ready
        have next : queues.next? = some content := by
          rw [SessionQueues.next?, found]
          rfl
        have shown := agrees.contentOf_delivered capacity ready found
        refine keeps_bind value state ?_
        rw [if_neg (by simp [shut]), next]
        refine keeps_bind shown (state_contentOf _ _) ?_
        rw [if_neg (not_not_intro rfl)]
        exact keeps_pure (agrees.delivered bound found)

include agrees in
/-- A received packet that is held can be let go of. -/
theorem keeps_releaseHeld (pick : UInt8) :
    Keeps capacity (steps + 1)
      (SessionTrial.releaseHeld queues pick (traffic.host capacity)) := by
  unfold SessionTrial.releaseHeld
  cases chosen : choose pick queues.heldInbound with
  | none => exact keeps_pure agrees.succ
  | some id =>
      have member := List.mem_of_getElem? chosen
      obtain ⟨next, state, released⟩ :=
        agrees.dropPacket_inbound capacity member
      obtain ⟨index, content, found⟩ := agrees.exists_of_mem_heldInbound member
      have present : (queues.inbound.any fun entry =>
          decide (entry.2 = .held id)) = true :=
        List.any_eq_true.mpr
          ⟨_, List.mem_of_getElem? found, decide_eq_true rfl⟩
      refine keeps_bind rfl state ?_
      rw [if_pos present]
      exact keeps_pure released.succ

include agrees in
/-- A packet is copied if the buffer is long enough, and given back in any
case. -/
theorem keeps_receiveInto
    (bound : steps + 1 < 2 ^ 64)
    (length : Nat) :
    Keeps capacity (steps + 1)
      (SessionTrial.receiveInto trialSession queues length
        (traffic.host capacity)) := by
  cases shut : queues.isShutDown with
  | true =>
      obtain ⟨value, state⟩ := @Traffic.tryReceiveInto_shut traffic capacity
        (agrees.isShutDown.trans shut) (Bytes.zeros length)
      refine keeps_bind value state ?_
      rw [if_pos shut]
      exact keeps_pure agrees.succ
  | false =>
      have unshut := agrees.isShutDown.trans shut
      rcases agrees.next_cases with ⟨drained, none⟩ | ⟨ready, content, found⟩
      · obtain ⟨value, state⟩ := @Traffic.tryReceiveInto_drained traffic
          capacity unshut drained (Bytes.zeros length)
        refine keeps_bind value state ?_
        rw [if_neg (by simp [shut]), none]
        exact keeps_pure agrees.reset.succ
      · obtain ⟨value, state⟩ := @Traffic.tryReceiveInto_ready traffic capacity
          agrees.inboundLayout unshut ready (Bytes.zeros length)
        have room : (Bytes.zeros length).length = length :=
          List.length_replicate
        have next : queues.next? = some content := by
          rw [SessionQueues.next?, found]
          rfl
        have held : (queues.deliver
            (.held (traffic.lastNumber + 1))).inbound[queues.read]? =
              some (content, .held (traffic.lastNumber + 1)) := by
          simp [SessionQueues.deliver, found]
        have after := (agrees.delivered bound found).released held
        rw [agrees.letGo_deliver] at after
        have position : traffic.delivered.inbound.tail + queues.read =
          traffic.inbound.read := agrees.inboundRead.symm
        rw [position] at after
        rw [agrees.buffer_next found, room] at value
        refine keeps_bind value state ?_
        rw [if_neg (by simp [shut]), next]
        by_cases short : length < content.length
        · simp only [if_pos short]
          exact keeps_pure after
        · have copied := @Bytes.take_overwrite_zero content
            (Bytes.zeros length) (by rw [room]; exact Nat.le_of_not_lt short)
          simp only [if_neg short, copied]
          rw [if_neg (not_not_intro rfl)]
          exact keeps_pure after

/-! ## Sending -/

include agrees in
/-- A call that needs room in the outbound ring is refused after the shutdown
and on a full ring, and goes on otherwise. -/
theorem keeps_withRoom
    (bound : steps + 1 < 2 ^ 64)
    {Value : Type}
    {call : String}
    {action : Action (Host MemoryDriver) (Outcome Value)}
    {continuation : Value → SessionStep}
    (ended : traffic.signals.isSet 1 = true →
      (action (traffic.host capacity)).value = refuse .sessionEnded ∧
        (action (traffic.host capacity)).state = traffic.host capacity)
    (exhausted : traffic.signals.isSet 1 = false →
      traffic.outbound.isFull = true →
        (action (traffic.host capacity)).value =
            refuse (.resourceExhausted "send ring") ∧
          (action (traffic.host capacity)).state =
            traffic.refused.host capacity)
    (served : traffic.signals.isSet 1 = false →
      traffic.outbound.isFull = false →
        ∃ value next, (action (traffic.host capacity)).value = .ok value ∧
          (action (traffic.host capacity)).state = next ∧
          Keeps capacity (steps + 1) (continuation value next)) :
    Keeps capacity (steps + 1)
      ((action >>= fun outcome =>
        SessionTrial.withRoom call queues outcome continuation)
          (traffic.host capacity)) := by
  cases shut : queues.isShutDown with
  | true =>
      obtain ⟨value, state⟩ := ended (agrees.isShutDown.trans shut)
      refine keeps_bind value state ?_
      rw [withRoom_shut shut]
      exact keeps_pure agrees.succ
  | false =>
      have unshut := agrees.isShutDown.trans shut
      cases full : queues.isFull with
      | true =>
          obtain ⟨value, state⟩ :=
            exhausted unshut (agrees.isFull_outbound.trans full)
          refine keeps_bind value state ?_
          rw [withRoom_full shut full]
          exact keeps_pure (agrees.refused bound)
      | false =>
          obtain ⟨answer, next, value, state, rest⟩ :=
            served unshut (agrees.isFull_outbound.trans full)
          refine keeps_bind value state ?_
          rw [withRoom_ok shut full]
          exact rest

section Send

variable
  (bound : steps + 1 < 2 ^ 64)
  {content : Bytes}
  (valid : validatePacketSize content.length = .ok content.length)

include agrees bound valid

/-- A packet is sent if the queue has room. -/
theorem keeps_send :
    Keeps capacity (steps + 1)
      (SessionTrial.send trialSession queues content
        (traffic.host capacity)) := by
  have layout := agrees.outboundLayout
  refine agrees.keeps_withRoom capacity bound Traffic.trySend_shut
    (Traffic.trySend_full valid layout.toArranged) fun unshut room => ?_
  obtain ⟨value, state⟩ := @Traffic.trySend_room traffic capacity content valid
    layout unshut room
  exact ⟨(), _, value, state,
    keeps_pure (agrees.submitted bound room content)⟩

/-- A buffer of zeros is lent and filled if the queue has room. -/
theorem keeps_allocate :
    Keeps capacity (steps + 1)
      (SessionTrial.allocate trialSession queues content
        (traffic.host capacity)) := by
  have layout := agrees.outboundLayout
  refine agrees.keeps_withRoom capacity bound
    (fun shut => Traffic.whileOpen_shut shut _)
    (Traffic.allocateSend_full valid layout.toArranged) fun unshut room => ?_
  have space := PacketRing.lt_of_isFull_eq_false layout.toArranged room
  have grown := (layout.grown space content.length).toArranged
  obtain ⟨value, state⟩ := @Traffic.allocateSend_room traffic capacity
    content.length valid layout.toArranged grown unshut room
  have zeros := @Traffic.value_contentOf (traffic.allocated content.length)
    capacity _ .outbound traffic.outbound.head grown
    (Traffic.get?_allocated content.length)
  have shown := Traffic.slotAt_allocated layout.toArranged room content.length
  have fills := @Traffic.state_withPacket (traffic.allocated content.length)
    capacity _ _ (Traffic.get?_allocated content.length) rfl
    fun held _ => Host.writePacket held 0 content
  rw [Traffic.state_fillAllocated layout room] at fills
  refine ⟨_, _, value, state, ?_⟩
  refine keeps_bind (zeros.trans (congrArg (fun slot => some slot.buffer) shown))
    (state_contentOf _ _) ?_
  rw [if_neg (not_not_intro rfl)]
  exact keeps_bind rfl fills (keeps_pure (agrees.allocated room content).succ)

end Send

include agrees in
/-- A buffer that is held can be let go of in any way that commits it. -/
theorem keeps_settleHeld
    (pick : UInt8)
    {action : PacketId → Action (Host MemoryDriver) Unit}
    {after : SessionQueues → PacketId → SessionQueues}
    (settles : ∀ id ∈ queues.heldOutbound, ∃ next : Traffic,
      (action id (traffic.host capacity)).state = next.host capacity ∧
        Agrees next (after queues id) (steps + 1)) :
    Keeps capacity (steps + 1)
      (SessionTrial.settleHeld queues pick action after
        (traffic.host capacity)) := by
  unfold SessionTrial.settleHeld
  cases chosen : choose pick queues.heldOutbound with
  | none => exact keeps_pure agrees.succ
  | some id =>
      have member := List.mem_of_getElem? chosen
      obtain ⟨next, state, settled⟩ := settles id member
      obtain ⟨index, content, found⟩ :=
        agrees.exists_of_mem_heldOutbound member
      have present : (queues.outbound.any fun entry =>
          decide (entry.2 = .held id)) = true :=
        List.any_eq_true.mpr
          ⟨_, List.mem_of_getElem? found, decide_eq_true rfl⟩
      change Keeps capacity (steps + 1)
        ((if _ then _ else _ : SessionStep) (traffic.host capacity))
      rw [if_pos present]
      exact keeps_bind rfl state (keeps_pure settled)

include agrees in
/-- Every operation passes and leaves both sides in agreement. -/
theorem keeps_apply
    (bound : steps + 1 < 2 ^ 64)
    (operation : SessionOperation) :
    Keeps capacity (steps + 1)
      (SessionTrial.apply trialSession queues operation
        (traffic.host capacity)) := by
  cases operation with
  | inject length fill =>
      exact agrees.keeps_inject capacity (validatePacketSize_packet length fill)
  | receive => exact agrees.keeps_receive capacity bound
  | releaseHeld pick => exact agrees.keeps_releaseHeld capacity pick
  | receiveInto length => exact agrees.keeps_receiveInto capacity bound _
  | send length fill =>
      exact agrees.keeps_send capacity bound
        (validatePacketSize_packet length fill)
  | allocate length fill =>
      exact agrees.keeps_allocate capacity bound
        (validatePacketSize_packet length fill)
  | sendHeld pick =>
      exact agrees.keeps_settleHeld capacity pick fun _ member =>
        agrees.finishPacket_outbound bound capacity member
  | dropHeld pick =>
      refine agrees.keeps_settleHeld capacity pick fun _ member => ?_
      obtain ⟨next, state, dropped⟩ :=
        agrees.dropPacket_outbound capacity member
      exact ⟨next, state, dropped.succ⟩
  | drain => exact agrees.keeps_drain capacity
  | shutdown =>
      exact keeps_bind rfl Traffic.state_shutdown
        (keeps_pure agrees.shutdown.succ)

end Agrees

end Model
end VirtualAdapter

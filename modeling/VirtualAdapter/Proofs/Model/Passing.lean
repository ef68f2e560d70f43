import Mathlib.Tactic.IntervalCases
import VirtualAdapter.Proofs.Model.Operations

/-!
# Session trials pass

The counts agree after every operation of a trial, and at its end nothing is
left of the session or of its adapter.
-/

namespace VirtualAdapter
namespace Model

open Host (AdapterId PacketId SessionId)
open Memory (MemoryDriver)
open VirtualAdapter.Ring (PacketRing)

variable
  {traffic : Traffic}
  {queues : SessionQueues}
  {steps : Nat}

/-! ## Every operation -/

/-- Sides that agree have the same counts. -/
theorem compare_eq_ok
    (agrees : Agrees traffic queues steps)
    (capacity : UInt32) :
    SessionTrial.compare trialSession queues (traffic.host capacity) =
      .ok () := by
  have outstanding : (traffic.host capacity).driver.outstandingPackets =
      queues.heldInbound.length := agrees.count_inbound
  have same : ∀ what count, expectCount what count count = .ok () :=
    fun _ _ => if_pos rfl
  have stats : (((traffic.host capacity).sessions.get? trialSession).map
      (·.stats)).getD {} = traffic.stats := rfl
  simp only [SessionTrial.compare, stats, outstanding, agrees.received,
    agrees.sent, agrees.ringFull, same]
  rfl

/-- An operation passes, and so does the comparison after it. -/
theorem step_eq_ok
    (agrees : Agrees traffic queues steps)
    (bound : steps + 1 < 2 ^ 64)
    (capacity : UInt32)
    (operation : SessionOperation) :
    ∃ next after,
      SessionTrial.step trialSession operation
          (traffic.host capacity, queues) =
        .ok (Traffic.host next capacity, after) ∧
      Agrees next after (steps + 1) := by
  obtain ⟨next, after, value, state, kept⟩ :=
    agrees.keeps_apply capacity bound operation
  refine ⟨next, after, ?_, kept⟩
  simp only [SessionTrial.step, value, state]
  change (SessionTrial.compare trialSession after
    (next.host capacity)).bind _ = _
  rw [compare_eq_ok kept]
  rfl

/-- Operations pass one after the other. -/
theorem runAll_eq_ok
    (agrees : Agrees traffic queues steps)
    (capacity : UInt32)
    (operations : List SessionOperation)
    (bound : steps + operations.length < 2 ^ 64)
    (number : Nat) :
    ∃ next after,
      runAll (SessionTrial.step trialSession) number operations
          (traffic.host capacity, queues) =
        .ok (Traffic.host next capacity, after) ∧
      Agrees next after (steps + operations.length) := by
  induction operations generalizing traffic queues steps number with
  | nil => exact ⟨traffic, queues, rfl, agrees⟩
  | cons operation rest hypothesis =>
      rw [List.length_cons] at bound
      obtain ⟨middle, between, first, kept⟩ :=
        step_eq_ok agrees (by omega) capacity operation
      obtain ⟨next, after, others, agreed⟩ :=
        hypothesis kept (by omega) (number + 1)
      refine ⟨next, after, ?_, ?_⟩
      · rw [runAll, first]
        exact others
      · rw [List.length_cons, Nat.add_comm rest.length, ← Nat.add_assoc]
        exact agreed

/-! ## The end -/

/-- The host holds a packet once. -/
theorem nodup_heldIn
    {Value : Type}
    [Stage Value]
    {direction : Direction}
    {packets : Table PacketId Host.HeldPacket}
    {ring : PacketRing}
    {queue : List (Bytes × Value)}
    (mirrors : Mirrors direction packets ring queue)
    (arranged : ring.Arranged) : (heldIn queue).Nodup := by
  refine List.pairwise_filterMap.mpr (List.pairwise_iff_getElem.mpr ?_)
  intro first second inside insideAgain lt id held other again same
  subst same
  have := mirrors.index_eq arranged (List.getElem?_eq_getElem inside)
    (List.getElem?_eq_getElem insideAgain) held again
  omega

theorem filter_ne_cons
    {id : PacketId}
    {rest : List PacketId}
    (nodup : (id :: rest).Nodup) :
    (id :: rest).filter (· ≠ id) = rest := by
  have absent := (List.nodup_cons.mp nodup).1
  rw [List.filter_cons_of_neg (by simp), List.filter_eq_self]
  intro other member
  have apart : other ≠ id := by
    rintro rfl
    exact absent member
  simpa using apart

/-- Packets can be let go of one after the other. -/
theorem dropAll_eq
    {Left : Traffic → List PacketId → Prop}
    {capacity : UInt32}
    (drop : ∀ traffic id rest, Left traffic (id :: rest) →
      ∃ next, (Host.dropPacket id (traffic.host capacity)).state =
          Traffic.host next capacity ∧ Left next rest)
    {ids : List PacketId}
    (left : Left traffic ids) :
    ∃ next, (SessionTrial.dropAll ids (traffic.host capacity)).state =
        Traffic.host next capacity ∧ Left next [] := by
  induction ids generalizing traffic with
  | nil => exact ⟨traffic, rfl, left⟩
  | cons id rest hypothesis =>
      obtain ⟨middle, state, others⟩ := drop traffic id rest left
      obtain ⟨next, end_, none⟩ := hypothesis others
      refine ⟨next, ?_, none⟩
      rw [SessionTrial.dropAll, Action.state_bind, state]
      exact end_

/-- A session that holds some packets of either kind. -/
def Holds
    (steps : Nat)
    (received lent : List PacketId)
    (traffic : Traffic) : Prop :=
  ∃ queues, Agrees traffic queues steps ∧ queues.heldInbound = received ∧
    queues.heldOutbound = lent

theorem Holds.dropReceived
    {id : PacketId}
    {rest lent : List PacketId}
    (holds : Holds steps (id :: rest) lent traffic)
    (capacity : UInt32) :
    ∃ next, (Host.dropPacket id (traffic.host capacity)).state =
        Traffic.host next capacity ∧ Holds steps rest lent next := by
  obtain ⟨queues, agrees, received, rfl⟩ := holds
  have nodup := nodup_heldIn agrees.inbound agrees.inboundLayout.toArranged
  rw [← agrees.heldInbound, received] at nodup
  obtain ⟨next, state, kept⟩ := agrees.dropPacket_inbound capacity
    (received ▸ List.mem_cons_self)
  refine ⟨next, state, queues.letGo id, kept, ?_, rfl⟩
  change queues.heldInbound.filter _ = rest
  rw [received]
  exact filter_ne_cons nodup

theorem Holds.dropLent
    {id : PacketId}
    {received rest : List PacketId}
    (holds : Holds steps received (id :: rest) traffic)
    (capacity : UInt32) :
    ∃ next, (Host.dropPacket id (traffic.host capacity)).state =
        Traffic.host next capacity ∧ Holds steps received rest next := by
  obtain ⟨queues, agrees, rfl, lent⟩ := holds
  have nodup := nodup_heldIn agrees.outbound agrees.outboundLayout.toArranged
  rw [← agrees.heldOutbound, lent] at nodup
  obtain ⟨next, state, kept⟩ := agrees.dropPacket_outbound capacity
    (lent ▸ List.mem_cons_self)
  refine ⟨next, state, _, kept, rfl, ?_⟩
  change queues.heldOutbound.filter _ = rest
  rw [lent]
  exact filter_ne_cons nodup

/-- A session without packets ends, and its adapter goes, without a
violation. -/
theorem compareEnd_ended
    (traffic : Traffic)
    (capacity : UInt32)
    (inbound : traffic.inbound.count .delivered = 0)
    (outbound : traffic.outbound.count .allocated = 0) :
    SessionTrial.compareEnd
      (Host.dropAdapter trialAdapter (Host.endSession trialSession
        (traffic.host capacity)).state).state.driver = .ok () := by
  have ends := @Host.state_endSession (traffic.host capacity) trialSession
    (traffic.session capacity) _ traffic.entry rfl rfl rfl inbound outbound
  rw [ends]
  rfl

/-- At the end of a trial nothing is left. -/
theorem compareEnd_tearDown
    (agrees : Agrees traffic queues steps)
    (capacity : UInt32) :
    SessionTrial.compareEnd (SessionTrial.tearDown trialAdapter trialSession
      queues (traffic.host capacity)).state.driver = .ok () := by
  obtain ⟨middle, first, holds⟩ := @dropAll_eq traffic
    (fun traffic ids => Holds steps ids queues.heldOutbound traffic) capacity
    (fun _ _ _ holds => holds.dropReceived capacity) queues.heldInbound
    ⟨queues, agrees, rfl, rfl⟩
  obtain ⟨last, second, after, ended, noneInbound, noneOutbound⟩ :=
    @dropAll_eq middle (fun traffic ids => Holds steps [] ids traffic) capacity
      (fun _ _ _ holds => holds.dropLent capacity) queues.heldOutbound holds
  have inbound := ended.count_inbound
  have outbound := ended.count_outbound
  rw [noneInbound] at inbound
  rw [noneOutbound] at outbound
  rw [SessionTrial.tearDown, Action.state_bind, first, Action.state_bind,
    second, Action.state_bind]
  exact compareEnd_ended last capacity inbound outbound

/-! ## The start -/

/-- A new session agrees with empty queues. -/
theorem agrees_fresh
    {capacity : UInt32}
    (positive : 0 < capacity.toNat) :
    Agrees (Traffic.fresh capacity) { capacity := capacity.toNat } 0 := by
  have layout := PacketRing.layout_ofCapacity positive
  have slots : (PacketRing.ofCapacity capacity).capacity = capacity.toNat :=
    Array.size_replicate
  exact
    { inboundLayout := layout
      outboundLayout := layout
      inboundCapacity := slots
      outboundCapacity := slots
      inbound := ⟨rfl, fun _ _ _ found => by cases found⟩
      outbound := ⟨rfl, fun _ _ _ found => by cases found⟩
      inboundRead := rfl
      outboundRead := rfl
      heldInbound := rfl
      heldOutbound := rfl
      known := fun _ _ found => by cases found
      isShutDown := rfl
      received := rfl
      sent := rfl
      ringFull := rfl
      counted := Nat.le_refl 0 }

/-- The capacities of trials. -/
theorem capacityFor_mem (asked : UInt32) :
    capacityFor asked ∈ ([4, 8, 16, 32, 64] : List UInt32) := by
  obtain ⟨exponent, power⟩ :=
    Nat.isPowerOfTwo_nextPowerOfTwo asked.toNat
  rw [capacityFor, power]
  rcases Nat.lt_or_ge exponent 6 with small | large
  · interval_cases exponent <;> decide
  · have bound : 2 ^ 6 ≤ 2 ^ exponent := Nat.pow_le_pow_right (by decide) large
    have clamped : min (max (2 ^ exponent) minCapacity) maxCapacity = 64 := by
      unfold minCapacity maxCapacity
      omega
    rw [clamped]
    decide

theorem capacityFor_pos (asked : UInt32) : 0 < (capacityFor asked).toNat := by
  have member := capacityFor_mem asked
  simp only [List.mem_cons, List.not_mem_nil, or_false] at member
  rcases member with same | same | same | same | same <;> rw [same] <;> decide

/-- The capacity of a trial is one that the driver accepts. -/
theorem validate_capacityFor (asked : UInt32) :
    CapacityBounds.inMemory.validate (capacityFor asked) =
      .ok (capacityFor asked) := by
  have member := capacityFor_mem asked
  simp only [List.mem_cons, List.not_mem_nil, or_false] at member
  rcases member with same | same | same | same | same <;> rw [same] <;> rfl

/-- A trial of any operations finds no difference, as long as no counter can
overflow: the session agrees with the queues after every operation. -/
theorem trySession_eq_ok
    (asked : UInt32)
    (operations : List SessionOperation)
    (countable : operations.length < 2 ^ 64) :
    trySession asked operations = .ok () ∧
      ∀ done, done <+: operations → ∃ traffic queues,
        runAll (SessionTrial.step trialSession) 0 done
            ((SessionTrial.setUp (capacityFor asked) { driver := {} }).state,
              { capacity := (capacityFor asked).toNat }) =
          .ok (Traffic.host traffic (capacityFor asked), queues) ∧
        Agrees traffic queues done.length := by
  obtain ⟨value, state⟩ := Traffic.setUp_eq (validate_capacityFor asked)
  have passes : ∀ done, done <+: operations → ∃ traffic queues,
      runAll (SessionTrial.step trialSession) 0 done
          ((SessionTrial.setUp (capacityFor asked) { driver := {} }).state,
            { capacity := (capacityFor asked).toNat }) =
        .ok (Traffic.host traffic (capacityFor asked), queues) ∧
      Agrees traffic queues done.length := by
    intro done earlier
    have fewer := earlier.length_le
    obtain ⟨traffic, queues, passes, agrees⟩ := runAll_eq_ok
      (agrees_fresh (capacityFor_pos asked)) (capacityFor asked) done (by omega) 0
    rw [Nat.zero_add] at agrees
    rw [state]
    exact ⟨traffic, queues, passes, agrees⟩
  obtain ⟨traffic, queues, passed, agrees⟩ := passes operations (List.prefix_refl _)
  refine ⟨?_, passes⟩
  have ends := compareEnd_tearDown agrees (capacityFor asked)
  simp only [trySession, value, bind, Except.bind, passed, ends]
  rfl

/-- A trial with every kind of operation. -/
theorem trySession_eq_ok_of_every_kind :
    [SessionOperation.inject 4 7, .inject 900 1, .receive, .receiveInto 1,
      .allocate 2 9, .allocate 40 3, .send 1 1, .sendHeld 1, .dropHeld 0,
      .releaseHeld 3, .drain, .shutdown, .receive].length < 2 ^ 64 ∧
    trySession 5
      [.inject 4 7, .inject 900 1, .receive, .receiveInto 1, .allocate 2 9,
        .allocate 40 3, .send 1 1, .sendHeld 1, .dropHeld 0, .releaseHeld 3,
        .drain, .shutdown, .receive] = .ok () :=
  ⟨by decide, (trySession_eq_ok 5 _ (by decide)).1⟩

end Model
end VirtualAdapter

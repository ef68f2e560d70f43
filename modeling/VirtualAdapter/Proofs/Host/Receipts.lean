import VirtualAdapter.Host.AsyncSession
import VirtualAdapter.Proofs.Host.Pumping

/-!
# Packets that are received and given back

Whoever receives a packet on a session gives it back before the next one is
received.  So between two packets the session has counted what came back, and
what did not is in the ring; a look at the ring either changes none of this, or
takes the packet that has waited longest.
-/

namespace VirtualAdapter
namespace Host

open VirtualAdapter.Action (bind_apply pure_apply)
open Memory (MemoryDriver)

/-! ## A look for a packet -/

section Look

variable
  {id : SessionId}
  {session : Session}
  {stats : SessionStats}
  {host : Host MemoryDriver}
  (kept : host.sessions.get? id = some { session with stats })

include kept

/-- A session that was shut down is over. -/
theorem tryReceive_of_shut
    (shut : host.driver.signals.isSet session.shutdownEvent.number = true) :
    (tryReceive id host).value = refuse .sessionEnded ∧
      (tryReceive id host).state = host := by
  have closed : (isShutDown { session with stats } host).value = true := shut
  rw [tryReceive, whileOpen_of_shut _ kept closed]
  exact ⟨rfl, rfl⟩

/-- A session that is open asks the driver. -/
theorem tryReceive_of_open
    (unshut : host.driver.signals.isSet session.shutdownEvent.number = false)
    {answer : Outcome RawPacket}
    {driver : MemoryDriver}
    (asked : MemoryDriver.receivePacket session.handle host.driver =
      ⟨answer, driver, []⟩) :
    (∀ failure, answer = .error failure →
      (tryReceive id host).value = .error failure ∧
        (tryReceive id host).state = { host with driver }) ∧
    ∀ raw, answer = .ok raw →
      (tryReceive id host).value = .ok (host.lastNumber + 1) ∧
        (tryReceive id host).state =
          { host with
            driver
            sessions := host.sessions.update id fun kept =>
              { kept with stats := kept.stats.recordReceived raw.length }
            packets := host.packets.insert (host.lastNumber + 1)
              { session := id, direction := .inbound, raw }
            lastNumber := host.lastNumber + 1 } := by
  change Driver.receivePacket session.handle host.driver = _ at asked
  have opened : (isShutDown { session with stats } host).value = false := unshut
  have same : (isShutDown { session with stats } host).state = host := rfl
  rw [tryReceive, whileOpen_of_open _ kept opened, same]
  simp only [bind_apply, value_ask, state_ask, asked]
  constructor
  · rintro failure rfl
    exact ⟨rfl, rfl⟩
  · rintro raw rfl
    exact ⟨rfl, rfl⟩

end Look

namespace Pumping

open VirtualAdapter.Action (bind_apply pure_apply)
open Memory (MemoryDriver RunningSession)
open Memory.MemoryDriver (packetAt)
open Signal (Bank Nanoseconds Wait)
open VirtualAdapter.Ring.PacketRing (Queued)

variable
  {name : String}
  {id : SessionId}
  {session : Session}
  {host : Host MemoryDriver}
  {entry : RunningSession}
  {stats : SessionStats}
  {accepted : List Bytes}
  {back : Nat}

/-! ## Giving a packet back -/

/-- The session after a received packet came back. -/
def returned (entry : RunningSession) (position : Nat) : RunningSession :=
  { entry with
    inbound := (entry.inbound.changedAt position fun slot =>
      { slot with state := .free }).reclaim }

namespace Attends

/-- A held packet shows what was put in. -/
theorem packetBytes_heldAt
    {out : Nat}
    {content : Bytes}
    (attends : Attends name id session host.sessions host.driver entry stats)
    (queued : Queued entry.inbound accepted back out)
    (shown : accepted[back]? = some content) :
    host.packetBytes (heldAt id session entry.inbound back) = content :=
  (@MemoryDriver.readPacket_packetAt session.handle host.driver entry .inbound
    attends.runs queued.toArranged back).trans
      (queued.buffer_eq _ _ (Nat.le_refl _) shown)

variable
  (attends : Attends name id session host.sessions host.driver entry stats)
  (queued : Queued entry.inbound accepted back 1)

include attends queued

/-- The driver takes the packet back that is out. -/
theorem releaseReceived_eq :
    MemoryDriver.releaseReceived session.handle
        (packetAt session.handle .inbound entry.inbound back) host.driver =
      ⟨(), host.driver.setSession session.handle.number (returned entry back),
        []⟩ := by
  have read_le := queued.read_le_head
  rw [queued.read_eq] at read_le
  have accepts := @MemoryDriver.acceptReceived_packetAt session.handle back entry
    queued.toArranged (Nat.le_of_eq queued.tail_eq) (Nat.lt_of_succ_le read_le)
    (queued.lent _ (Nat.le_refl _) (Nat.lt_succ_self _))
  simp only [MemoryDriver.releaseReceived, MemoryDriver.handBack, attends.runs,
    accepts]
  rfl

/-- The host forgets the packet and gives it back. -/
theorem state_finishPacket
    {packet : PacketId}
    (held : host.packets.get? packet =
      some (heldAt id session entry.inbound back)) :
    (finishPacket packet host).state =
      { host with
        packets := host.packets.erase packet
        driver := host.driver.setSession session.handle.number
          (returned entry back) } := by
  simp only [finishPacket, withPacket, Action.state_bind, value_packet?,
    state_packet?, held, heldAt, value_session?, state_session?, attends.kept,
    releaseReceived, state_ask, forgetPacket, Action.state_change]
  exact congrArg (fun driver => { host with
    packets := host.packets.erase packet, driver })
      (congrArg Reply.state (attends.releaseReceived_eq queued))

/-- A future takes the bytes of a packet and gives it back. -/
theorem consume_eq
    {packet : PacketId}
    {content : Bytes}
    (held : host.packets.get? packet =
      some (heldAt id session entry.inbound back))
    (shown : accepted[back]? = some content) :
    (ReceiveFuture.consume packet host).value = content ∧
      (ReceiveFuture.consume packet host).state =
        { host with
          packets := host.packets.erase packet
          driver := host.driver.setSession session.handle.number
            (returned entry back) } := by
  simp only [ReceiveFuture.consume, Action.value_bind, Action.state_bind,
    value_packet?, state_packet?, held, Action.value_inspect,
    Action.state_inspect, Action.value_pure, Action.state_pure]
  exact ⟨attends.packetBytes_heldAt queued shown,
    attends.state_finishPacket queued held⟩

end Attends

/-! ## Nothing is received -/

/-- Between two states of a host no packet was moved: only time has passed, and
events were set or waited for. -/
structure Unmoved (before after : Host MemoryDriver) : Prop where
  /-- Nothing was counted. -/
  sessions_eq : after.sessions = before.sessions
  /-- Nothing was borrowed or given back. -/
  packets_eq : after.packets = before.packets
  /-- No number was given out. -/
  lastNumber_eq : after.lastNumber = before.lastNumber
  /-- Only the events of the driver were turned. -/
  driver_eq : ∃ signals : Bank, after.driver = { before.driver with signals }

namespace Unmoved

theorem refl (host : Host MemoryDriver) : Unmoved host host :=
  ⟨rfl, rfl, rfl, _, rfl⟩

theorem trans
    {before between after : Host MemoryDriver}
    (first : Unmoved before between)
    (second : Unmoved between after) : Unmoved before after := by
  obtain ⟨_, earlier⟩ := first.driver_eq
  obtain ⟨signals, later⟩ := second.driver_eq
  exact ⟨second.sessions_eq.trans first.sessions_eq,
    second.packets_eq.trans first.packets_eq,
    second.lastNumber_eq.trans first.lastNumber_eq,
    signals, later.trans (by rw [earlier])⟩

theorem withSignals (host : Host MemoryDriver) (signals : Bank) :
    Unmoved host { host with driver := { host.driver with signals } } :=
  ⟨rfl, rfl, rfl, signals, rfl⟩

end Unmoved

/-- An action that moves no packet. -/
def Unmoving {Value : Type} (action : Action (Host MemoryDriver) Value) : Prop :=
  ∀ host, Unmoved host (action host).state

namespace Unmoving

variable
  {Value Other : Type}
  {action : Action (Host MemoryDriver) Value}
  {continuation : Value → Action (Host MemoryDriver) Other}

theorem still (same : ∀ host, (action host).state = host) : Unmoving action :=
  fun host => by rw [same host]; exact .refl host

theorem answer {value : Value} :
    Unmoving (pure value : Action (Host MemoryDriver) Value) :=
  still fun _ => rfl

theorem bind
    (first : Unmoving action)
    (second : ∀ value, Unmoving (continuation value)) :
    Unmoving (action >>= continuation) :=
  fun host => (first host).trans (second _ _)

theorem passTime (moment : Nanoseconds) : Unmoving (passTime moment) :=
  fun _ => ⟨rfl, rfl, rfl, _, rfl⟩

theorem askBeginWait
    (own cancel : EventHandle)
    (interrupt : Option EventHandle)
    (timeout : Option Nanoseconds)
    (start : Nanoseconds) :
    Unmoving (ask (Driver.beginWait own cancel interrupt timeout start)) := by
  intro host
  show Unmoved host { host with
    driver := host.driver.serve (.beginWait own cancel interrupt timeout start) }
  rcases host.driver.serve_beginWait own cancel interrupt timeout start with
    begun | broken
  · rw [begun]
    exact .withSignals host _
  · rw [broken]
    exact .refl host

theorem beginUntil (terms : WaitTerms) : Unmoving (beginUntil terms) := by
  unfold Host.beginUntil
  refine (still fun _ => rfl).bind fun found => ?_
  split
  · exact answer
  · refine (still fun _ => rfl).bind fun present => ?_
    split
    · exact answer
    · refine ((still fun _ => rfl).bind fun start =>
        askBeginWait _ _ _ _ start).bind fun start => ?_
      split <;> exact answer

theorem stepUntil (wait : Wait) : Unmoving (stepUntil wait) := by
  have steps : Unmoving (stepWait wait) := by
    intro host
    unfold stepWait
    split
    · exact .refl host
    · exact .withSignals host _
  exact steps.bind fun _ => answer

/-- A wait for packets moves none. -/
theorem waitReadable (call : WaitReadable) : Unmoving call.step := by
  unfold WaitReadable.step
  split
  · have looks : Unmoving (whileOpen call.terms.session fun _ =>
        return .ok () : Action (Host MemoryDriver) (Outcome Unit)) := by
      refine (still fun _ => rfl).bind fun found => ?_
      split
      · exact answer
      · refine (still fun _ => rfl).bind fun shut => ?_
        split <;> exact answer
    refine looks.bind fun outcome => ?_
    split
    · exact answer
    · split <;> exact answer
  · exact (beginUntil _).bind fun _ => answer
  · exact (stepUntil _).bind fun _ => answer

end Unmoving

/-! ## Between two packets -/

/-- While nothing is out, the session has counted what came back, and what did
not is in the ring. -/
structure Receipts
    (name : String)
    (id : SessionId)
    (session : Session)
    (host : Host MemoryDriver)
    (accepted : List Bytes)
    (back : Nat)
    (entry : RunningSession)
    (stats : SessionStats) : Prop
    extends Attends name id session host.sessions host.driver entry stats where
  /-- What did not come back is in the ring. -/
  queued : Queued entry.inbound accepted back 0
  /-- The session has counted the others. -/
  received_eq : stats.packetsReceived = UInt64.ofNat back
  /-- The host holds no packet that was received on the session. -/
  unheld : ∀ packet held, host.packets.get? packet = some held →
    held.session = id → held.direction ≠ .inbound
  /-- New packets get new numbers. -/
  numbered : Numbered host

namespace Receipts

variable (receipts : Receipts name id session host accepted back entry stats)

include receipts

theorem unmoved
    {after : Host MemoryDriver}
    (unmoved : Unmoved host after) :
    Receipts name id session after accepted back entry stats := by
  obtain ⟨signals, driver_eq⟩ := unmoved.driver_eq
  have sessions_eq := unmoved.sessions_eq
  have packets_eq := unmoved.packets_eq
  exact {
    toAttends := by
      rw [sessions_eq, driver_eq]
      exact receipts.toAttends.withSignals signals
    queued := receipts.queued
    received_eq := receipts.received_eq
    unheld := by
      rw [packets_eq]
      exact receipts.unheld
    numbered := by
      rw [Numbered, packets_eq, unmoved.lastNumber_eq]
      exact receipts.numbered }

/-- The driver has put the session in another state. -/
theorem placed
    {more : List Bytes}
    (changed : RunningSession)
    (event_eq : changed.readEvent = entry.readEvent)
    (queued : Queued changed.inbound more back 0)
    (signals : Bank) :
    Receipts name id session
      { host with
        driver := host.driver.placed session.handle.number changed signals }
      more back changed stats where
  toAttends := receipts.toAttends.placed event_eq signals
  queued := queued
  received_eq := receipts.received_eq
  unheld := receipts.unheld
  numbered := receipts.numbered

end Receipts

/-- While a packet is out, the session has counted it, and the host holds it. -/
structure Borrowed
    (name : String)
    (id : SessionId)
    (session : Session)
    (host : Host MemoryDriver)
    (accepted : List Bytes)
    (back : Nat)
    (packet : PacketId)
    (entry : RunningSession)
    (stats : SessionStats) : Prop
    extends Attends name id session host.sessions host.driver entry stats where
  /-- It is out, and what was put in after it is in the ring. -/
  queued : Queued entry.inbound accepted back 1
  /-- The session has counted it and those before it. -/
  received_eq : stats.packetsReceived = UInt64.ofNat (back + 1)
  /-- The host holds it. -/
  held : host.packets.get? packet = some (heldAt id session entry.inbound back)
  /-- The host holds no other packet that was received on the session. -/
  only : ∀ other held, host.packets.get? other = some held →
    held.session = id → held.direction = .inbound → other = packet
  /-- New packets get new numbers. -/
  numbered : Numbered host

/-- The bytes of the packet are known, and it goes back. -/
theorem Borrowed.consumed
    {packet : PacketId}
    {content : Bytes}
    (borrowed : Borrowed name id session host accepted back packet entry stats)
    (shown : accepted[back]? = some content) :
    (ReceiveFuture.consume packet host).value = content ∧
      Receipts name id session (ReceiveFuture.consume packet host).state accepted
        (back + 1) (returned entry back) stats := by
  obtain ⟨value, state⟩ := borrowed.consume_eq borrowed.queued borrowed.held shown
  have placed := @Attends.placed _ _ _ _ _ _ _ borrowed.toAttends
    (returned entry back) rfl host.driver.signals
  refine ⟨value, ?_⟩
  rw [state]
  exact {
    toAttends := placed
    queued := borrowed.queued.released
    received_eq := borrowed.received_eq
    unheld := fun other held found mine inbound => by
      -- The only packet that was held is the one that went back.
      obtain ⟨differs, before⟩ := Table.of_get?_erase found
      exact differs (borrowed.only other held before mine inbound)
    numbered := fun other held found =>
      borrowed.numbered other held (Table.of_get?_erase found).2 }

namespace Receipts

variable (receipts : Receipts name id session host accepted back entry stats)

include receipts

/-- A session that was shut down is over. -/
theorem tryReceive_of_shut
    (shut : host.driver.signals.isSet session.shutdownEvent.number = true) :
    (tryReceive id host).value = refuse .sessionEnded ∧
      (tryReceive id host).state = host :=
  Host.tryReceive_of_shut receipts.kept shut

section Open

variable
  (unshut : host.driver.signals.isSet session.shutdownEvent.number = false)

include unshut

/-- A session that is open asks the driver. -/
theorem tryReceive_of_open
    {answer : Outcome RawPacket}
    {driver : MemoryDriver}
    (asked : MemoryDriver.receivePacket session.handle host.driver =
      ⟨answer, driver, []⟩) :
    (∀ failure, answer = .error failure →
      (tryReceive id host).value = .error failure ∧
        (tryReceive id host).state = { host with driver }) ∧
    ∀ raw, answer = .ok raw →
      (tryReceive id host).value = .ok (host.lastNumber + 1) ∧
        (tryReceive id host).state =
          { host with
            driver
            sessions := host.sessions.update id fun kept =>
              { kept with stats := kept.stats.recordReceived raw.length }
            packets := host.packets.insert (host.lastNumber + 1)
              { session := id, direction := .inbound, raw }
            lastNumber := host.lastNumber + 1 } :=
  Host.tryReceive_of_open receipts.kept unshut asked

/-- A session whose device was taken away is over. -/
theorem tryReceive_of_failed (failed : entry.failed = true) :
    (tryReceive id host).value = refuse .sessionEnded ∧
      (tryReceive id host).state = host :=
  (receipts.tryReceive_of_open unshut
    (MemoryDriver.receivePacket_of_failed receipts.runs failed)).1 _ rfl

variable (healthy : entry.failed = false)

include healthy

/-- A session for which nothing waits resets its event. -/
theorem tryReceive_of_drained (drained : entry.inbound.isDrained = true) :
    (tryReceive id host).value = refuse .wouldBlock ∧
      Unmoved host (tryReceive id host).state := by
  obtain ⟨value, state⟩ := (receipts.tryReceive_of_open unshut
    (MemoryDriver.receivePacket_of_drained receipts.runs healthy drained)).1 _ rfl
  exact ⟨value, state ▸ .withSignals host _⟩

/-- A session lends the packet that has waited longest. -/
theorem tryReceive_of_waiting (waiting : entry.inbound.isDrained = false) :
    (tryReceive id host).value = .ok (host.lastNumber + 1) ∧
      ∃ later, Borrowed name id session (tryReceive id host).state accepted back
        (host.lastNumber + 1) { entry with inbound := entry.inbound.delivering }
        later := by
  obtain ⟨value, state⟩ := (receipts.tryReceive_of_open unshut
    (MemoryDriver.receivePacket_waiting receipts.runs receipts.queued.toReady
      healthy waiting)).2 _ rfl
  rw [state]
  refine ⟨value, stats.recordReceived _, {
    toAttends := (receipts.toAttends.placed (by rfl) _).counted
      (·.recordReceived _)
    queued := receipts.queued.delivering waiting
    received_eq := ?_
    held := ?_
    only := fun other held found mine inbound => ?_
    numbered := fun other held found => ?_ }⟩
  · change stats.packetsReceived + 1 = _
    rw [receipts.received_eq, UInt64.ofNat_add]
    rfl
  · rw [Table.get?_insert, if_pos rfl, heldAt, receipts.queued.read_eq]
    rfl
  · rw [Table.get?_insert] at found
    split at found
    case isTrue new => exact new
    case isFalse => exact absurd inbound (receipts.unheld other held found mine)
  · rw [Table.get?_insert] at found
    split at found
    case isTrue new => exact Nat.le_of_eq new
    case isFalse =>
      exact Nat.le_succ_of_le (receipts.numbered other held found)

end Open

end Receipts

/-! ## Futures that look for a packet -/

/-- What a look for a packet comes to. -/
inductive Looked
    (name : String)
    (id : SessionId)
    (session : Session)
    (host : Host MemoryDriver)
    (accepted : List Bytes)
    (back : Nat)
    (entry : RunningSession)
    (future : ReceiveFuture) :
    Progress ReceiveFuture (Outcome Bytes) → Host MemoryDriver → Prop
  /-- The session is over. -/
  | refused
      (cause : host.driver.signals.isSet session.shutdownEvent.number = true ∨
        entry.failed = true) :
      Looked name id session host accepted back entry future
        (.finished (refuse .sessionEnded)) host
  /-- Everything has come back. -/
  | nothing {after : Host MemoryDriver}
      (exhausted : accepted.length ≤ back)
      (unmoved : Unmoved host after) :
      Looked name id session host accepted back entry future
        (.running { future with point := .checkingTime }) after
  /-- The packet that has waited longest was taken and has come back. -/
  | received
      {content : Bytes}
      {after : Host MemoryDriver}
      {changed : RunningSession}
      {later : SessionStats}
      (shown : accepted[back]? = some content)
      (receipts : Receipts name id session after accepted (back + 1) changed
        later) :
      Looked name id session host accepted back entry future
        (.finished (.ok content)) after

/-- A future that looks takes the next packet and gives it back, or changes
nothing. -/
theorem Receipts.looked
    (receipts : Receipts name id session host accepted back entry stats)
    {future : ReceiveFuture}
    (own : future.session = id)
    (looking : future.point = .looking) :
    Looked name id session host accepted back entry future
      (future.step host).value (future.step host).state := by
  subst own
  simp only [ReceiveFuture.step, looking, bind_apply]
  cases shut : host.driver.signals.isSet session.shutdownEvent.number with
  | true =>
      obtain ⟨value, state⟩ := receipts.tryReceive_of_shut shut
      simp only [value, state, refuse, pure_apply]
      exact .refused (.inl shut)
  | false =>
      cases failed : entry.failed with
      | true =>
          obtain ⟨value, state⟩ := receipts.tryReceive_of_failed shut failed
          simp only [value, state, refuse, pure_apply]
          exact .refused (.inr failed)
      | false =>
          cases drained : entry.inbound.isDrained with
          | true =>
              obtain ⟨value, unmoved⟩ :=
                receipts.tryReceive_of_drained shut failed drained
              simp only [value, refuse, pure_apply]
              refine .nothing (Nat.le_of_not_lt fun waits => ?_) unmoved
              have waiting := receipts.queued.isDrained_eq_false_iff.mpr waits
              cases drained.symm.trans waiting
          | false =>
              obtain ⟨value, later, borrowed⟩ :=
                receipts.tryReceive_of_waiting shut failed drained
              have shown := List.getElem?_eq_getElem
                (receipts.queued.isDrained_eq_false_iff.mp drained)
              obtain ⟨content, back⟩ := borrowed.consumed shown
              simp only [value, bind_apply, content, pure_apply]
              exact .received shown back

end Pumping
end Host
end VirtualAdapter

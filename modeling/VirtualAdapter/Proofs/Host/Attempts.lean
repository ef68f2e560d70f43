import VirtualAdapter.Proofs.Host.Errands
import VirtualAdapter.Proofs.Host.Retries

/-!
# One try to send

A try asks the driver for a buffer, fills it and hands it back.  Where the ring
has room it ends with the packet behind all others; where it has none, or the
session takes no packet, the rings stay as they are.
-/

namespace VirtualAdapter
namespace Memory
namespace MemoryDriver

open VirtualAdapter.Ring (PacketRing)
open VirtualAdapter.Ring.PacketRing (Layout)

section Allocate

variable
  {driver : MemoryDriver}
  {number size : Nat}
  {entry : RunningSession}
  (valid : validatePacketSize size = .ok size)
  (found : driver.sessions.get? number = some entry)

include valid found

/-- A session that has failed lends no buffer. -/
theorem allocateSend_of_failed (failed : entry.failed = true) :
    allocateSend ⟨number⟩ size driver = ⟨refuse .sessionEnded, driver, []⟩ := by
  simp only [allocateSend, valid, found, failed, if_true]

variable
  (layout : Layout entry.outbound)
  (healthy : entry.failed = false)

include layout healthy

/-- A full ring lends no buffer. -/
theorem allocateSend_of_full (full : entry.outbound.isFull = true) :
    allocateSend ⟨number⟩ size driver =
      ⟨refuse (.resourceExhausted "send ring"), driver, []⟩ := by
  simp only [allocateSend, valid, found, healthy, Bool.false_eq_true, if_false,
    PacketRing.alloc_eq layout.toArranged, full, if_true]
  rfl

/-- A ring with room lends a zeroed buffer. -/
theorem allocateSend_of_room (room : entry.outbound.isFull = false) :
    allocateSend ⟨number⟩ size driver =
      ⟨.ok (packetAt ⟨number⟩ .outbound (entry.outbound.grown size)
          entry.outbound.head),
        driver.setSession number
          { entry with outbound := entry.outbound.grown size }, []⟩ := by
  rcases allocateSend_cases found layout size with
    ⟨failure, refused⟩ | ⟨_, lent⟩
  · simp only [allocateSend, valid, found, healthy, Bool.false_eq_true, if_false,
      PacketRing.alloc_eq layout.toArranged, room] at refused
    have space := PacketRing.lt_of_isFull_eq_false layout.toArranged room
    rw [@lend_eq ⟨number⟩ _ _ (layout.grown space size).toArranged .outbound
      (layout.tail_le_read.trans layout.read_le_head) (Nat.lt_succ_self _)]
      at refused
    cases congrArg Reply.value refused
  · exact lent

end Allocate

/-! ## The buffer that was lent last -/

/-- The packet for the buffer that a ring lends next. -/
def lentNext (session : SessionHandle) (ring : PacketRing) (size : Nat) : RawPacket :=
  packetAt session .outbound (ring.grown size) ring.head

section Submit

variable
  {driver : MemoryDriver}
  {session : SessionHandle}
  {entry : RunningSession}
  (layout : Layout entry.outbound)
  (room : entry.outbound.isFull = false)

include layout room

theorem length_lentNext (session : SessionHandle) (size : Nat) :
    (lentNext session entry.outbound size).length = size := by
  have space := PacketRing.lt_of_isFull_eq_false layout.toArranged room
  have shown := PacketRing.slotAt_grown_head layout.toArranged space size
  exact (congrArg (·.buffer.length) shown).trans List.length_replicate

variable {content : Bytes}

/-- Filling the buffer changes the ring. -/
theorem writePacket_lentNext
    (found : driver.sessions.get? session.number =
      some { entry with outbound := entry.outbound.grown content.length }) :
    writePacket (lentNext session entry.outbound content.length) 0 content driver =
      driver.setSession session.number
        { entry with outbound := entry.outbound.written content } := by
  have space := PacketRing.lt_of_isFull_eq_false layout.toArranged room
  have grown := (layout.grown space content.length).toArranged
  exact @writePacket_packetAt session entry.outbound.head driver
    { entry with outbound := entry.outbound.grown content.length } found grown
    content (length_lentNext layout room session content.length).symm

/-- The buffer goes back when it was filled. -/
theorem sendPacket_lentNext
    (found : driver.sessions.get? session.number =
      some { entry with outbound := entry.outbound.written content }) :
    (sendPacket session (lentNext session entry.outbound content.length)
        driver).state =
      driver.setSession session.number
        { entry with outbound := entry.outbound.filled content } := by
  have space := PacketRing.lt_of_isFull_eq_false layout.toArranged room
  have tail_le := layout.tail_le_read.trans layout.read_le_head
  have grown := (layout.grown space content.length).toArranged
  have lt_head : entry.outbound.head <
      (entry.outbound.grown content.length).head := Nat.lt_succ_self _
  have inside := lt_head.trans_le grown.head_le
  have same : packetAt session .outbound (entry.outbound.written content)
        entry.outbound.head =
      lentNext session entry.outbound content.length :=
    packetAt_changedAt .outbound tail_le inside tail_le inside rfl
      (length_lentNext layout room session content.length).symm
  have accepts := @acceptAllocated_packetAt session entry.outbound.head
    { entry with outbound := entry.outbound.written content }
    (layout.written space content).toArranged tail_le lt_head
    (by rw [PacketRing.slotAt_written_head layout space])
  simp only [sendPacket, handBack, found, ← same, accepts]
  rfl

end Submit

end MemoryDriver
end Memory

namespace Host

open VirtualAdapter.Action (bind_apply)
open Memory (MemoryDriver RunningSession)
open VirtualAdapter.Ring (PacketRing)

variable
  {id : SessionId}
  {session : Session}
  {host : Host MemoryDriver}
  {entry : RunningSession}
  {stats : SessionStats}
  {content : Bytes}

/-! ## The try -/

namespace Serves

variable (serves : Serves id session host entry stats)

include serves

theorem allocateSend_of_shut
    (shut : host.driver.signals.isSet session.shutdownEvent.number = true)
    (size : Nat) :
    allocateSend id size host = ⟨refuse .sessionEnded, host, []⟩ := by
  have closed : (isShutDown { session with stats } host).value = true := shut
  rw [allocateSend, whileOpen_of_shut _ serves.kept closed]
  rfl

theorem allocateSend_of_invalid
    {size : Nat}
    {error : Error}
    (unshut : host.driver.signals.isSet session.shutdownEvent.number = false)
    (invalid : validatePacketSize size = .error error) :
    (allocateSend id size host).value = refuse error ∧
      (allocateSend id size host).state = host := by
  have opened : (isShutDown { session with stats } host).value = false := unshut
  rw [allocateSend, whileOpen_of_open _ serves.kept opened]
  simp only [invalid]
  exact ⟨rfl, rfl⟩

section Open

variable
  {size : Nat}
  (unshut : host.driver.signals.isSet session.shutdownEvent.number = false)
  (valid : validatePacketSize size = .ok size)

include unshut valid

/-- A session that is open asks the driver. -/
theorem allocateSend_of_open
    {answer : Outcome RawPacket}
    {driver : MemoryDriver}
    (asked : MemoryDriver.allocateSend session.handle size host.driver =
      ⟨answer, driver, []⟩) :
    (∀ failure, answer = .error failure →
      (allocateSend id size host).value = .error failure ∧
        (allocateSend id size host).state =
          (noteRefusal id size failure { host with driver }).state) ∧
    ∀ raw, answer = .ok raw →
      (allocateSend id size host).value = .ok (host.lastNumber + 1) ∧
        (allocateSend id size host).state =
          { host with
            driver
            packets := host.packets.insert (host.lastNumber + 1)
              { session := id, direction := .outbound, raw }
            lastNumber := host.lastNumber + 1 } := by
  change Driver.allocateSend session.handle size host.driver = _ at asked
  have opened : (isShutDown { session with stats } host).value = false := unshut
  have same : (isShutDown { session with stats } host).state = host := rfl
  rw [allocateSend, whileOpen_of_open _ serves.kept opened, same]
  simp only [valid, bind_apply, value_ask, state_ask, asked]
  constructor
  · rintro failure rfl
    exact ⟨rfl, rfl⟩
  · rintro raw rfl
    exact ⟨rfl, rfl⟩

end Open

end Serves

/-- A buffer that a host keeps is filled, sent and counted. -/
theorem state_submit
    {packet : PacketId}
    {held : HeldPacket}
    {owner : Session}
    {filling sent : MemoryDriver}
    (found : host.packets.get? packet = some held)
    (owned : host.sessions.get? held.session = some owner)
    (fills : Driver.writePacket held.raw 0 content host.driver = filling)
    (sends : (Driver.sendPacket owner.handle held.raw filling).state = sent) :
    (withPacket packet (fun held session => do
      writePacket held 0 content
      commitPacket packet held session) host).state =
    (count held.session (·.recordSent held.raw.length)
      { host with driver := sent, packets := host.packets.erase packet }).state := by
  simp only [withPacket, Action.state_bind, value_packet?, state_packet?, found,
    value_session?, state_session?, owned, writePacket, state_changeDriver, fills,
    commitPacket, forgetPacket, Action.state_change, state_ask, sends,
    Action.state_trace]

/-- A host that keeps the buffer which its driver has just lent. -/
def keeping
    (host : Host MemoryDriver)
    (id : SessionId)
    (session : Session)
    (entry : RunningSession)
    (size : Nat) : Host MemoryDriver :=
  { host with
    driver := host.driver.setSession session.handle.number
      { entry with outbound := entry.outbound.grown size }
    packets := host.packets.insert (host.lastNumber + 1)
      { session := id
        direction := .outbound
        raw := MemoryDriver.lentNext session.handle entry.outbound size }
    lastNumber := host.lastNumber + 1 }

/-- The buffer is filled, sent and counted, and the host keeps no new one. -/
theorem Serves.submitted
    (serves : Serves id session host entry stats)
    (room : entry.outbound.isFull = false)
    (content : Bytes) :
    let after := (withPacket (host.lastNumber + 1) (fun held session => do
      writePacket held 0 content
      commitPacket (host.lastNumber + 1) held session)
        (host.keeping id session entry content.length)).state
    Serves id session after
        { entry with outbound := entry.outbound.filled content }
        (stats.recordSent content.length) ∧
      ∀ packet held, after.packets.get? packet = some held →
        host.packets.get? packet = some held := by
  have layout := serves.sound.outbound
  have space := PacketRing.lt_of_isFull_eq_false layout.toArranged room
  let filling := (host.keeping id session entry content.length).driver.setSession
    session.handle.number { entry with outbound := entry.outbound.written content }
  have fills := @MemoryDriver.writePacket_lentNext
    (host.keeping id session entry content.length).driver session.handle entry
    layout room content ((Table.get?_insert _ _ _ _).trans (if_pos rfl))
  have sends := @MemoryDriver.sendPacket_lentNext filling session.handle entry
    layout room content ((Table.get?_insert _ _ _ _).trans (if_pos rfl))
  have state := @state_submit (host.keeping id session entry content.length) content
    (host.lastNumber + 1) _ _ _ _ ((Table.get?_insert _ _ _ _).trans (if_pos rfl))
    serves.kept fills sends
  have length := MemoryDriver.length_lentNext layout room session.handle
    content.length
  intro after
  rw [show after = _ from state, length]
  have placed : Serves id session
      { host.keeping id session entry content.length with
        driver := filling.setSession session.handle.number
          { entry with outbound := entry.outbound.filled content }
        packets := (host.keeping id session entry content.length).packets.erase
          (host.lastNumber + 1) }
      { entry with outbound := entry.outbound.filled content } stats := {
    kept := serves.kept
    runs := (Table.get?_insert _ _ _ _).trans (if_pos rfl)
    sound := serves.sound.withOutbound (layout.filled space content)
      serves.sound.passed ((serves.sound.counted .outbound).filled content) }
  refine ⟨placed.counted (·.recordSent content.length), fun other held found => ?_⟩
  obtain ⟨differs, before⟩ := Table.of_get?_erase found
  rw [keeping, Table.get?_insert, if_neg differs] at before
  exact before

/-- What a try to send comes to. -/
inductive Attempted
    (id : SessionId)
    (session : Session)
    (host : Host MemoryDriver)
    (entry : RunningSession)
    (stats : SessionStats)
    (content : Bytes) : Outcome Unit → Host MemoryDriver → Prop
  /-- The packet was put into the ring and counted. -/
  | sent {after : Host MemoryDriver}
      (room : entry.outbound.isFull = false)
      (serves : Serves id session after
        { entry with outbound := entry.outbound.filled content }
        (stats.recordSent content.length))
      (unheld : ∀ packet held, after.packets.get? packet = some held →
        host.packets.get? packet = some held) :
      Attempted id session host entry stats content (.ok ()) after
  /-- The ring was full, and only that was counted. -/
  | full {after : Host MemoryDriver}
      (full : entry.outbound.isFull = true)
      (serves : Serves id session after entry stats.recordRingFull)
      (packets_eq : after.packets = host.packets) :
      Attempted id session host entry stats content
        (refuse (.resourceExhausted "send ring")) after
  /-- The session is over, or no packet can have this size. -/
  | refused {error : Error}
      (plain : error = .sessionEnded ∨ ∃ message, error = .invalidArgument message) :
      Attempted id session host entry stats content (refuse error) host

/-- A packet size that is granted is the one that was asked for. -/
theorem validatePacketSize_cases (size : Nat) :
    validatePacketSize size = .ok size ∨
      ∃ message, validatePacketSize size = .error (.invalidArgument message) := by
  unfold validatePacketSize
  split
  case isTrue => exact .inr ⟨_, rfl⟩
  case isFalse => exact .inl rfl

/-- A try that no buffer is lent to ends as the call for the buffer does. -/
theorem trySend_of_error
    {failure : Failure}
    (refused : (allocateSend id content.length host).value = .error failure) :
    (trySend id content host).value = .error failure ∧
      (trySend id content host).state =
        (allocateSend id content.length host).state := by
  simp only [trySend, Action.value_bind, Action.state_bind, refused]
  exact ⟨rfl, rfl⟩

namespace Serves

variable (serves : Serves id session host entry stats)

include serves

/-- A try to send puts the packet into the ring, or leaves the rings as they
are. -/
theorem attempted (content : Bytes) :
    Attempted id session host entry stats content
      (trySend id content host).value (trySend id content host).state := by
  have layout := serves.sound.outbound
  have refused {error : Error}
      (plain : error = .sessionEnded ∨ ∃ message, error = .invalidArgument message)
      (value : (allocateSend id content.length host).value = refuse error)
      (state : (allocateSend id content.length host).state = host) :
      Attempted id session host entry stats content
        (trySend id content host).value (trySend id content host).state := by
    obtain ⟨answer, after⟩ := trySend_of_error value
    rw [answer, after, state]
    exact .refused plain
  cases shut : host.driver.signals.isSet session.shutdownEvent.number with
  | true =>
      have closed := serves.allocateSend_of_shut shut content.length
      exact refused (.inl rfl) (congrArg Reply.value closed)
        (congrArg Reply.state closed)
  | false =>
      rcases validatePacketSize_cases content.length with
        valid | ⟨message, invalid⟩
      · cases failed : entry.failed with
        | true =>
            obtain ⟨value, state⟩ := (serves.allocateSend_of_open shut valid
              (MemoryDriver.allocateSend_of_failed valid serves.runs failed)).1 _ rfl
            exact refused (.inl rfl) value state
        | false =>
            cases full : entry.outbound.isFull with
            | true =>
                obtain ⟨value, state⟩ := (serves.allocateSend_of_open shut valid
                  (MemoryDriver.allocateSend_of_full valid serves.runs layout
                    failed full)).1 _ rfl
                obtain ⟨answer, after⟩ := trySend_of_error value
                rw [answer, after, state]
                exact .full full (serves.counted (·.recordRingFull)) rfl
            | false =>
                obtain ⟨value, state⟩ := (serves.allocateSend_of_open shut valid
                  (MemoryDriver.allocateSend_of_room valid serves.runs layout
                    failed full)).2 _ rfl
                simp only [trySend, Action.value_bind, Action.state_bind, value,
                  state, Action.value_pure, Action.state_pure]
                obtain ⟨served, unheld⟩ := serves.submitted full content
                exact .sent full served unheld
      · obtain ⟨value, state⟩ := serves.allocateSend_of_invalid shut invalid
        exact refused (.inr ⟨message, rfl⟩) value state

/-- A try is answered that the ring is full only if it is. -/
theorem isFull_of_findsFull (full : FindsFull id content host) :
    entry.outbound.isFull = true := by
  obtain ⟨what, value⟩ := full
  have answer := serves.attempted content
  rw [value] at answer
  generalize (trySend id content host).state = after at answer
  generalize same : (.error (.refused (.resourceExhausted what)) : Outcome Unit) =
    outcome at answer
  cases answer with
  | sent => cases same
  | full full => exact full
  | refused plain => rcases plain with rfl | ⟨_, rfl⟩ <;> cases same

/-- No try is answered that it was interrupted. -/
theorem trySend_ne_interrupted (content : Bytes) :
    (trySend id content host).value ≠ refuse .interrupted := by
  have answer := serves.attempted content
  generalize (trySend id content host).value = value at answer ⊢
  generalize (trySend id content host).state = after at answer
  rintro rfl
  cases answer with
  | refused plain => rcases plain with same | ⟨_, same⟩ <;> cases same

end Serves

end Host
end VirtualAdapter

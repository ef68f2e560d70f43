import VirtualAdapter.Proofs.Host.PumpWaiting
import VirtualAdapter.Proofs.Memory.Turns
import VirtualAdapter.Proofs.Ring.Queued

/-!
# A session that is pumped

A thread pumps a session while the network side puts packets in and may take
the device away, and while somebody may shut the session down.  Whatever the
order in which these happen, the handler is given what was put in, in this
order and each packet once; what it was not given stays in the ring.
-/

namespace VirtualAdapter
namespace Host

open VirtualAdapter.Action (bind_apply pure_apply)
open Memory (MemoryDriver RunningSession)
open Memory.MemoryDriver (packetAt)
open Signal (Bank SignalId)
open VirtualAdapter.Ring (PacketRing)
open VirtualAdapter.Ring.PacketRing (Queued Ready)

/-! ## Schedules -/

/-- Something that happens while a session is pumped. -/
inductive PumpMove
  /-- The thread that pumps makes one access. -/
  | pump
  /-- The network side puts a packet in. -/
  | inject (content : Bytes)
  /-- The network side takes the device away. -/
  | fail
  /-- The session is shut down. -/
  | shutdown
  deriving DecidableEq

/-- A session that is pumped. -/
structure Pumping where
  /-- The host with its driver. -/
  host : Host MemoryDriver
  /-- The thread that pumps. -/
  thread : PumpThread
  /-- What the driver has accepted from the network side, first ones first. -/
  accepted : List Bytes := []

/-- The thread after a step. -/
def threadAfter : Progress PumpThread PumpThread → PumpThread
  | .running thread | .asleep thread _ | .finished thread => thread

namespace PumpThread

/-- How many calls of the handler can start before the shutdown is looked at
again. -/
def ahead (thread : PumpThread) : Nat :=
  match thread.midway with
  | .receiving | .received _ => 1
  | .handled _ _ _ => 0
  | .between =>
      match thread.pump.phase with
      | .handing _ => 1
      | _ => 0

theorem ahead_le_one (thread : PumpThread) : thread.ahead ≤ 1 := by
  unfold ahead
  split
  case h_4 => split <;> decide
  all_goals decide

end PumpThread

namespace Pumping

/-- A pump that was just put on a session. -/
def ofSession (host : Host MemoryDriver) (id : SessionId) : Pumping where
  host
  thread := .ofPump (.ofSession id)

/-- What becomes of it by a move. -/
def play
    (handler : Handler MemoryDriver)
    (name : String)
    (pumping : Pumping) : PumpMove → Pumping
  | .pump =>
      let reply := pumping.thread.step handler pumping.host
      { pumping with host := reply.state, thread := threadAfter reply.value }
  | .inject content =>
      let reply := ask (MemoryDriver.inject name content) pumping.host
      { pumping with
        host := reply.state
        accepted :=
          if reply.value then pumping.accepted ++ [content]
          else pumping.accepted }
  | .fail =>
      let reply := ask (MemoryDriver.failSession name) pumping.host
      { pumping with host := reply.state }
  | .shutdown =>
      let reply := Host.shutdown pumping.thread.pump.session pumping.host
      { pumping with host := reply.state }

/-- What becomes of it by a schedule, first moves first. -/
def playAll
    (handler : Handler MemoryDriver)
    (name : String)
    (pumping : Pumping)
    (moves : List PumpMove) : Pumping :=
  moves.foldl (play handler name) pumping

theorem playAll_append
    (handler : Handler MemoryDriver)
    (name : String)
    (pumping : Pumping)
    (earlier later : List PumpMove) :
    pumping.playAll handler name (earlier ++ later) =
      (pumping.playAll handler name earlier).playAll handler name later :=
  List.foldl_append

/-- The shutdown of a session took effect. -/
def isShut (pumping : Pumping) (session : Session) : Bool :=
  pumping.host.driver.signals.isSet session.shutdownEvent.number

/-! ## What holds all the time -/

/-- The host and the driver have a session, and a name leads to no other. -/
structure Attends
    (name : String)
    (id : SessionId)
    (session : Session)
    (sessions : Table SessionId Session)
    (driver : MemoryDriver)
    (entry : RunningSession)
    (stats : SessionStats) : Prop where
  /-- The host has only counted since. -/
  kept : sessions.get? id = some { session with stats }
  /-- The driver has the session. -/
  runs : driver.sessions.get? session.handle.number = some entry
  /-- The name leads to it, if anywhere. -/
  leads : ∀ number found, driver.sessionFor? name = some (number, found) →
    number = session.handle.number
  /-- The host knows its event. -/
  event_eq : entry.readEvent = session.readEvent.number

/-- Every packet that the host holds has a number that was given out. -/
def Numbered (host : Host MemoryDriver) : Prop :=
  ∀ packet held, host.packets.get? packet = some held →
    packet ≤ host.lastNumber

/-- What is received on a session, and its events, are left alone between two
states of a host.  Sending and counting what was sent are not. -/
structure Spares
    (name : String)
    (id : SessionId)
    (session : Session)
    (before after : Host MemoryDriver) : Prop where
  /-- The session stays, and nothing else is counted as received. -/
  kept : ∀ stats, before.sessions.get? id = some { session with stats } →
    ∃ later : SessionStats,
      after.sessions.get? id = some { session with stats := later } ∧
        later.packetsReceived = stats.packetsReceived
  /-- Its ring of received packets stays as it is. -/
  runs : ∀ entry : RunningSession,
    before.driver.sessions.get? session.handle.number = some entry →
      ∃ outbound, after.driver.sessions.get? session.handle.number =
        some { entry with outbound }
  /-- The name leads nowhere else. -/
  leads : ∀ number found,
    after.driver.sessionFor? name = some (number, found) →
      ∃ earlier, before.driver.sessionFor? name = some (number, earlier)
  /-- Its read event is neither set nor reset. -/
  isSet_readEvent : after.driver.signals.isSet session.readEvent.number =
    before.driver.signals.isSet session.readEvent.number
  /-- It is not shut down. -/
  isSet_shutdownEvent : after.driver.signals.isSet session.shutdownEvent.number =
    before.driver.signals.isSet session.shutdownEvent.number
  /-- The packets received on it are held as before. -/
  packets : ∀ packet held, held.session = id → held.direction = .inbound →
    (after.packets.get? packet = some held ↔
      before.packets.get? packet = some held)
  /-- New packets get new numbers. -/
  numbered : Numbered after

/-- A handler that comes back from every call and does not receive on the
session itself.  What else a program does to the session during a call are moves
between its start and its end. -/
def Harmless
    (name : String)
    (id : SessionId)
    (session : Session)
    (handler : Handler MemoryDriver) : Prop :=
  ∀ content host, Numbered host →
    (handler content host).value = .ok () ∧
      Spares name id session host (handler content host).state

/-- A received packet as the host holds it. -/
def heldAt
    (id : SessionId)
    (session : Session)
    (ring : PacketRing)
    (position : Nat) : HeldPacket where
  session := id
  direction := .inbound
  raw := packetAt session.handle .inbound ring position

/-- Where a thread that pumps can be, how many packets are out and which ones
are held there. -/
inductive Stage
    (id : SessionId)
    (session : Session)
    (signals : Bank)
    (entry : RunningSession)
    (packets : Table PacketId HeldPacket)
    (accepted : List Bytes) :
    PumpThread → (out : Nat) → (mine : List PacketId) → Prop
  | waiting {pump : ReadPump} {call : WaitReadable}
      (phase : pump.phase = .waiting call)
      (awaits : Awaits id session signals call) :
      Stage id session signals entry packets accepted { pump } 0 []
  | taking {pump : ReadPump} (phase : pump.phase = .taking) :
      Stage id session signals entry packets accepted { pump } 0 []
  | receiving {pump : ReadPump} (phase : pump.phase = .taking) :
      Stage id session signals entry packets accepted
        { pump, midway := .receiving } 0 []
  | received {pump : ReadPump} {raw : RawPacket}
      (phase : pump.phase = .taking)
      (lent : raw = packetAt session.handle .inbound entry.inbound
        pump.delivered) :
      Stage id session signals entry packets accepted
        { pump, midway := .received raw } 1 []
  | handing {pump : ReadPump} {packet : PacketId}
      (phase : pump.phase = .handing packet)
      (held : packets.get? packet =
        some (heldAt id session entry.inbound pump.delivered)) :
      Stage id session signals entry packets accepted { pump } 1 [packet]
  | handled {pump : ReadPump} {packet : PacketId} {content : Bytes}
      (phase : pump.phase = .handing packet)
      (held : packets.get? packet =
        some (heldAt id session entry.inbound pump.delivered))
      (shown : accepted[pump.delivered]? = some content) :
      Stage id session signals entry packets accepted
        { pump, midway := .handled packet content (.ok ()) } 1 [packet]
  | finished {pump : ReadPump}
      (phase : pump.phase = .finished .stopped)
      (cause : signals.isSet session.shutdownEvent.number = true ∨
        entry.failed = true) :
      Stage id session signals entry packets accepted { pump } 0 []

/-- The handler was given the first contents that were accepted, the others are
in the ring, and everything is counted. -/
structure Sound
    (name : String)
    (id : SessionId)
    (session : Session)
    (pumping : Pumping)
    (entry : RunningSession)
    (stats : SessionStats)
    (out : Nat)
    (mine : List PacketId) : Prop
    extends Attends name id session pumping.host.sessions pumping.host.driver
      entry stats where
  /-- The pump is that of the session. -/
  own : pumping.thread.pump.session = id
  /-- What was not given back is in the ring. -/
  queued : Queued entry.inbound pumping.accepted pumping.thread.pump.delivered out
  /-- The handler was given the others. -/
  seen_eq : pumping.thread.pump.seen =
    pumping.accepted.take pumping.thread.pump.delivered
  /-- The session has counted what the host has held. -/
  received_eq : stats.packetsReceived =
    UInt64.ofNat (pumping.thread.pump.delivered + mine.length)
  /-- The host holds no other packet that was received on the session. -/
  held : ∀ packet held, pumping.host.packets.get? packet = some held →
    held.session = id → held.direction = .inbound → packet ∈ mine
  /-- New packets get new numbers. -/
  numbered : Numbered pumping.host
  /-- The event tells whether asking the driver would block. -/
  tells : pumping.host.driver.signals.isSet session.readEvent.number = true ↔
    entry.failed = true ∨
      pumping.thread.pump.delivered + out < pumping.accepted.length
  /-- The thread is in order. -/
  stage : Stage id session pumping.host.driver.signals entry
    pumping.host.packets pumping.accepted pumping.thread out mine

/-- What moves do to the end of a session. -/
structure Follows
    (session : Session)
    (moves : List PumpMove)
    (before : Pumping)
    (entry : RunningSession)
    (after : Pumping)
    (changed : RunningSession) : Prop where
  /-- A shutdown is final. -/
  shut_stays : before.isShut session = true → after.isShut session = true
  /-- A session is shut down by its shutdown only. -/
  shut_new : after.isShut session = true →
    before.isShut session = true ∨ .shutdown ∈ moves
  /-- Only the network side takes the device away. -/
  failed_new : changed.failed = true → entry.failed = true ∨ .fail ∈ moves
  /-- After the shutdown no call starts but the one that was ahead. -/
  calls_le : before.isShut session = true →
    after.thread.seen.length + after.thread.ahead ≤
      before.thread.seen.length + before.thread.ahead

/-- Moves lead from a state in order to another one. -/
def Leads
    (name : String)
    (id : SessionId)
    (session : Session)
    (moves : List PumpMove)
    (before : Pumping)
    (entry : RunningSession)
    (after : Pumping) : Prop :=
  ∃ changed stats out mine,
    Sound name id session after changed stats out mine ∧
      Follows session moves before entry after changed

variable
  {name : String}
  {id : SessionId}
  {session : Session}
  {sessions : Table SessionId Session}
  {driver : MemoryDriver}
  {entry : RunningSession}
  {stats : SessionStats}
  {pumping : Pumping}
  {out : Nat}
  {mine : List PacketId}
  {handler : Handler MemoryDriver}

/-! ## What every access keeps -/

/-- Putting the session of a name in another state leads the name nowhere
else. -/
theorem exists_sessionFor?_of_placed
    {number other : Nat}
    {changed after : RunningSession}
    {signals : Bank}
    (runs : driver.sessions.get? number = some entry)
    (found : (driver.placed number changed signals).sessionFor? name =
      some (other, after)) :
    ∃ earlier, driver.sessionFor? name = some (other, earlier) := by
  unfold MemoryDriver.sessionFor? at found ⊢
  simp only [Option.bind_eq_bind, Option.bind_eq_some_iff, Option.pure_def,
    Option.some.injEq, Prod.mk.injEq] at found ⊢
  obtain ⟨place, named, device, registered, owner, owns, present, running, rfl,
    rfl⟩ := found
  have before : ∃ earlier, driver.sessions.get? owner = some earlier := by
    change (driver.sessions.insert number changed).get? owner = _ at running
    rw [Table.get?_insert] at running
    split at running
    case isTrue same => exact ⟨entry, same ▸ runs⟩
    case isFalse => exact ⟨present, running⟩
  obtain ⟨earlier, running⟩ := before
  exact ⟨earlier, place, named, device, registered, owner, owns, earlier,
    running, rfl, rfl⟩

namespace Attends

theorem placed
    (attends : Attends name id session sessions driver entry stats)
    {changed : RunningSession}
    (event_eq : changed.readEvent = entry.readEvent)
    (signals : Bank) :
    Attends name id session sessions
      (driver.placed session.handle.number changed signals) changed stats where
  kept := attends.kept
  runs := (Table.get?_insert _ _ _ _).trans (if_pos rfl)
  leads := fun number found leads => by
    obtain ⟨earlier, before⟩ := exists_sessionFor?_of_placed attends.runs leads
    exact attends.leads number earlier before
  event_eq := event_eq.trans attends.event_eq

theorem withSignals
    (attends : Attends name id session sessions driver entry stats)
    (signals : Bank) :
    Attends name id session sessions { driver with signals } entry stats :=
  ⟨attends.kept, attends.runs, attends.leads, attends.event_eq⟩

/-- The host counts something. -/
theorem counted
    (attends : Attends name id session sessions driver entry stats)
    (step : SessionStats → SessionStats) :
    Attends name id session
      (sessions.update id fun kept => { kept with stats := step kept.stats })
      driver entry (step stats) :=
  { attends with
    kept := by rw [Table.get?_update, if_pos rfl, attends.kept]; rfl }

/-- Somebody spares the session. -/
theorem spared
    {before after : Host MemoryDriver}
    (attends : Attends name id session before.sessions before.driver entry stats)
    (spares : Spares name id session before after) :
    ∃ (outbound : PacketRing) (later : SessionStats),
      later.packetsReceived = stats.packetsReceived ∧
        Attends name id session after.sessions after.driver
          { entry with outbound } later := by
  obtain ⟨later, kept, received⟩ := spares.kept stats attends.kept
  obtain ⟨outbound, runs⟩ := spares.runs entry attends.runs
  refine ⟨outbound, later, received, kept, runs, fun number found leads => ?_,
    attends.event_eq⟩
  obtain ⟨earlier, before⟩ := spares.leads number found leads
  exact attends.leads number earlier before

/-! ## What the others do -/

/-- A name that leads anywhere leads to the session. -/
theorem sessionFor?_cases
    (attends : Attends name id session sessions driver entry stats) :
    driver.sessionFor? name = none ∨
      driver.sessionFor? name = some (session.handle.number, entry) := by
  cases leads : driver.sessionFor? name with
  | none => exact .inl rfl
  | some pair =>
      obtain ⟨number, found⟩ := pair
      obtain rfl := attends.leads number found leads
      obtain rfl := Option.some.inj
        ((MemoryDriver.get?_of_sessionFor? leads).symm.trans attends.runs)
      exact .inr rfl

/-- The network side puts a packet in, or nothing happens. -/
theorem inject_cases
    (attends : Attends name id session sessions driver entry stats)
    (ready : Ready entry.inbound)
    (content : Bytes) :
    (MemoryDriver.inject name content driver).value = false ∧
      (MemoryDriver.inject name content driver).state = driver ∨
    entry.inbound.head < entry.inbound.tail + entry.inbound.capacity ∧
      (MemoryDriver.inject name content driver).value = true ∧
      (MemoryDriver.inject name content driver).state =
        driver.placed session.handle.number
          { entry with inbound := entry.inbound.filled content }
          (driver.signals.set entry.readEvent) := by
  rcases attends.sessionFor?_cases with nowhere | leads
  · have refused : MemoryDriver.inject name content driver =
        ⟨false, driver, []⟩ := by
      unfold MemoryDriver.inject
      rw [nowhere]
      split <;> trivial
    exact .inl ⟨by rw [refused], by rw [refused]⟩
  · exact MemoryDriver.inject_cases ready content leads

/-- The network side takes the device away, or nothing happens. -/
theorem failSession_cases
    (attends : Attends name id session sessions driver entry stats) :
    (MemoryDriver.failSession name driver).state = driver ∨
    (MemoryDriver.failSession name driver).state =
      driver.placed session.handle.number { entry with failed := true }
        (driver.signals.set entry.readEvent) := by
  rcases attends.sessionFor?_cases with nowhere | leads
  · left
    simp only [MemoryDriver.failSession, nowhere]
  · right
    simp only [MemoryDriver.failSession, leads]
    rfl

/-- A shutdown sets its event. -/
theorem state_shutdown
    {host : Host MemoryDriver}
    (attends : Attends name id session host.sessions host.driver entry stats) :
    (Host.shutdown id host).state =
      { host with
        driver := { host.driver with
          signals := host.driver.signals.set session.shutdownEvent.number } } := by
  simp only [Host.shutdown, bind_apply, value_session?, state_session?,
    attends.kept]
  rfl

end Attends

namespace Stage

variable
  {signals : Bank}
  {packets : Table PacketId HeldPacket}
  {accepted : List Bytes}
  {thread : PumpThread}

/-- What happens elsewhere leaves a thread where it is. -/
theorem of_elsewhere
    (stage : Stage id session signals entry packets accepted thread out mine)
    (event : SignalId)
    {changed : RunningSession}
    {more : List Bytes}
    (failed : entry.failed = true → changed.failed = true)
    (same : out = 1 → packetAt session.handle .inbound changed.inbound
        thread.pump.delivered =
      packetAt session.handle .inbound entry.inbound thread.pump.delivered)
    (longer : accepted <+: more) :
    Stage id session (signals.set event) changed packets more thread out mine := by
  cases stage with
  | waiting phase awaits => exact .waiting phase (awaits.set event)
  | taking phase => exact .taking phase
  | receiving phase => exact .receiving phase
  | received phase lent => exact .received phase (lent.trans (same rfl).symm)
  | handing phase held =>
      refine .handing phase (held.trans ?_)
      rw [heldAt, heldAt, same rfl]
  | handled phase held shown =>
      refine .handled phase (held.trans ?_) ?_
      · rw [heldAt, heldAt, same rfl]
      · obtain ⟨rest, rfl⟩ := longer
        have inside := (List.getElem?_eq_some_iff.mp shown).1
        exact (List.getElem?_append_left inside).trans shown
  | finished phase cause =>
      refine .finished phase (cause.imp (fun shut => ?_) failed)
      rw [Bank.isSet_set, shut]
      exact ite_self _

/-- Between two calls the pump knows what the handler was given. -/
theorem seen_eq
    (stage : Stage id session signals entry packets accepted thread 0 []) :
    thread.seen = thread.pump.seen := by
  cases stage <;> rfl

/-- Between two steps no call is ahead while nothing is out. -/
theorem ahead_eq_zero
    (stage : Stage id session signals entry packets accepted thread 0 [])
    (between : thread.midway = .between) : thread.ahead = 0 := by
  cases stage with
  | waiting phase | taking phase | finished phase =>
      simp only [PumpThread.ahead, phase]
  | receiving => cases between

end Stage

/-! ## What happens elsewhere -/

namespace Sound

variable (sound : Sound name id session pumping entry stats out mine)

include sound

theorem delivered_le :
    pumping.thread.pump.delivered ≤ pumping.accepted.length :=
  sound.queued.back_le

/-- A move that changes nothing. -/
theorem leads_of_same (moves : List PumpMove) :
    Leads name id session moves pumping entry pumping :=
  ⟨entry, stats, out, mine, sound, fun shut => shut, .inl, .inl,
    fun _ => Nat.le_refl _⟩

/-- Somebody else has put the session in another state and set an event. -/
theorem elsewhere
    {move : PumpMove}
    {changed : RunningSession}
    {event : SignalId}
    {more : List Bytes}
    (longer : pumping.accepted <+: more)
    (event_eq : changed.readEvent = entry.readEvent)
    (queued : Queued changed.inbound more pumping.thread.pump.delivered out)
    (same : out = 1 → packetAt session.handle .inbound changed.inbound
        pumping.thread.pump.delivered =
      packetAt session.handle .inbound entry.inbound
        pumping.thread.pump.delivered)
    (failed : entry.failed = true → changed.failed = true)
    (failed_new : changed.failed = true → entry.failed = true ∨ .fail ∈ [move])
    (shut_new : session.shutdownEvent.number = event → .shutdown ∈ [move])
    (tells : (pumping.host.driver.signals.set event).isSet
        session.readEvent.number = true ↔
      changed.failed = true ∨
        pumping.thread.pump.delivered + out < more.length) :
    Leads name id session [move] pumping entry
      { host := { pumping.host with
          driver := pumping.host.driver.placed session.handle.number changed
            (pumping.host.driver.signals.set event) }
        thread := pumping.thread
        accepted := more } := by
  have isSet : (pumping.host.driver.signals.set event).isSet
      session.shutdownEvent.number =
        if session.shutdownEvent.number = event then true
        else pumping.isShut session := Bank.isSet_set _ _
  refine ⟨changed, stats, out, mine, { sound.toAttends.placed event_eq _ with
    own := sound.own
    queued
    seen_eq := ?_
    received_eq := sound.received_eq
    held := sound.held
    numbered := sound.numbered
    tells
    stage := sound.stage.of_elsewhere event failed same longer },
    fun shut => ?_, fun shut => ?_, failed_new, fun _ => Nat.le_refl _⟩
  · obtain ⟨rest, rfl⟩ := longer
    exact sound.seen_eq.trans
      (List.take_append_of_le_length sound.delivered_le).symm
  · rw [shut, ite_self] at isSet
    exact isSet
  · -- Only a shutdown sets this event.
    by_cases own : session.shutdownEvent.number = event
    · exact .inr (shut_new own)
    · exact .inl ((isSet.trans (if_neg own)).symm.trans shut)

/-- What is put in leaves the packet that is out as it is. -/
theorem packetAt_filled
    (room : entry.inbound.head < entry.inbound.tail + entry.inbound.capacity)
    (content : Bytes)
    (one : out = 1) :
    packetAt session.handle .inbound (entry.inbound.filled content)
        pumping.thread.pump.delivered =
      packetAt session.handle .inbound entry.inbound
        pumping.thread.pump.delivered := by
  have queued := sound.queued
  have read_le := queued.read_le_head
  have read_eq := queued.read_eq
  have kept := PacketRing.slotAt_filled_of_lt queued.toLayout room content
    (Nat.le_of_eq queued.tail_eq) (by omega)
  exact MemoryDriver.packetAt_congr .inbound (PacketRing.capacity_filled _)
    (by rw [kept]) (by rw [kept])

/-- A shutdown sets its event. -/
theorem play_shutdown_eq :
    pumping.play handler name .shutdown =
      { pumping with
        host := { pumping.host with
          driver := { pumping.host.driver with
            signals := pumping.host.driver.signals.set
              session.shutdownEvent.number } } } := by
  simp only [play, sound.own, sound.state_shutdown]

theorem isShut_play_shutdown :
    (pumping.play handler name .shutdown).isShut session = true := by
  rw [sound.play_shutdown_eq, isShut, Bank.isSet_set, if_pos rfl]

variable (apart : session.shutdownEvent.number ≠ session.readEvent.number)

include apart

theorem play_inject (content : Bytes) :
    Leads name id session [.inject content] pumping entry
      (pumping.play handler name (.inject content)) := by
  rcases sound.inject_cases sound.queued.toReady content with
    ⟨value, state⟩ | ⟨room, value, state⟩
  · have same : pumping.play handler name (.inject content) = pumping := by
      simp only [play, value_ask, state_ask, value, state, Bool.false_eq_true,
        if_false]
    rw [same]
    exact sound.leads_of_same _
  · have played : pumping.play handler name (.inject content) =
        { host := { pumping.host with
            driver := pumping.host.driver.placed session.handle.number
              { entry with inbound := entry.inbound.filled content }
              (pumping.host.driver.signals.set entry.readEvent) }
          thread := pumping.thread
          accepted := pumping.accepted ++ [content] } := by
      simp only [play, value_ask, state_ask, value, state, if_true]
    have read_le := sound.queued.read_le_head
    rw [sound.queued.read_eq, sound.queued.head_eq] at read_le
    rw [played]
    refine sound.elsewhere (List.prefix_append _ _) rfl
      (sound.queued.filled room content)
      (fun one => sound.packetAt_filled room content one)
      (fun failed => failed) .inl (fun own => ?_) (iff_of_true ?_ (.inr ?_))
    · exact absurd (own.trans sound.event_eq) apart
    · rw [Bank.isSet_set, if_pos sound.event_eq.symm]
    · rw [List.length_append]
      exact Nat.lt_succ_of_le read_le

theorem play_fail :
    Leads name id session [.fail] pumping entry
      (pumping.play handler name .fail) := by
  rcases sound.failSession_cases with state | state
  · have same : pumping.play handler name .fail = pumping := by
      simp only [play, state_ask, state]
    rw [same]
    exact sound.leads_of_same _
  · have played : pumping.play handler name .fail =
        { pumping with
          host := { pumping.host with
            driver := pumping.host.driver.placed session.handle.number
              { entry with failed := true }
              (pumping.host.driver.signals.set entry.readEvent) } } := by
      simp only [play, state_ask, state]
    rw [played]
    refine sound.elsewhere (List.prefix_refl _) rfl sound.queued (fun _ => rfl)
      (fun _ => rfl) (fun _ => .inr List.mem_cons_self) (fun own => ?_)
      (iff_of_true ?_ (.inl rfl))
    · exact absurd (own.trans sound.event_eq) apart
    · rw [Bank.isSet_set, if_pos sound.event_eq.symm]

theorem play_shutdown :
    Leads name id session [.shutdown] pumping entry
      (pumping.play handler name .shutdown) := by
  have same : pumping.host.driver.sessions.insert session.handle.number entry =
      pumping.host.driver.sessions := Table.insert_of_present sound.runs
  have placed := @elsewhere _ _ _ _ _ _ _ _ sound .shutdown entry
    session.shutdownEvent.number _ (List.prefix_refl _) rfl sound.queued
    (fun _ => rfl) (fun failed => failed) .inl (fun _ => List.mem_cons_self)
    (by rw [Bank.isSet_set, if_neg apart.symm]; exact sound.tells)
  rw [MemoryDriver.placed, same] at placed
  rw [sound.play_shutdown_eq]
  exact placed

end Sound

end Pumping
end Host
end VirtualAdapter

import VirtualAdapter.Proofs.Host.Courses
import VirtualAdapter.Proofs.Host.Errands
import VirtualAdapter.Proofs.Host.Polling

/-!
# Calls that take one packet

A call that receives looks once or several times, and others act between its
looks.  The look that finds a packet takes the oldest one and counts it; the call
lends it, copies it or reads it, and gives it back unless it lends it.  A call
that ends in another way has taken nothing.
-/

namespace VirtualAdapter
namespace Host

open Memory (MemoryDriver Request RunningSession)
open Memory.MemoryDriver (packetAt)
open Pumping (Unmoved Unmoving heldAt returned)
open Signal (Nanoseconds isNameable)
open VirtualAdapter.Ring (PacketRing)

variable
  {id : SessionId}
  {session : Session}
  {host : Host MemoryDriver}
  {entry : RunningSession}
  {stats : SessionStats}

/-! ## One look -/

/-- What a look for a packet comes to. -/
inductive Fetched
    (id : SessionId)
    (session : Session)
    (host : Host MemoryDriver)
    (entry : RunningSession)
    (stats : SessionStats) : Outcome PacketId → Host MemoryDriver → Prop
  /-- The oldest packet is lent and counted. -/
  | lent {after : Host MemoryDriver}
      (waits : entry.inbound.read < entry.inbound.head)
      (serves : Serves id session after
        { entry with inbound := entry.inbound.delivering }
        (stats.recordReceived
          (entry.inbound.slotAt entry.inbound.read).buffer.length))
      (packets_eq : after.packets = host.packets.insert (host.lastNumber + 1)
        (heldAt id session entry.inbound.delivering entry.inbound.read)) :
      Fetched id session host entry stats (.ok (host.lastNumber + 1)) after
  /-- There is none, or the session is over. -/
  | refused {error : Error} {after : Host MemoryDriver}
      (plain : error = .wouldBlock ∨ error = .sessionEnded)
      (unmoved : Unmoved host after) :
      Fetched id session host entry stats (refuse error) after

namespace Serves

variable (serves : Serves id session host entry stats)

include serves

/-- A look takes the oldest packet, or it moves none. -/
theorem fetched :
    Fetched id session host entry stats (tryReceive id host).value
      (tryReceive id host).state := by
  cases shut : host.driver.signals.isSet session.shutdownEvent.number with
  | true =>
      obtain ⟨value, state⟩ := tryReceive_of_shut serves.kept shut
      rw [value, state]
      exact .refused (.inr rfl) (.refl host)
  | false =>
      have asks {answer : Outcome RawPacket} {driver : MemoryDriver} :=
        @tryReceive_of_open id session stats host serves.kept shut answer driver
      cases failed : entry.failed with
      | true =>
          obtain ⟨value, state⟩ :=
            (asks (MemoryDriver.receivePacket_of_failed serves.runs failed)).1 _ rfl
          rw [value, state]
          exact .refused (.inr rfl) (.refl host)
      | false =>
          cases drained : entry.inbound.isDrained with
          | true =>
              obtain ⟨value, state⟩ := (asks (MemoryDriver.receivePacket_of_drained
                serves.runs failed drained)).1 _ rfl
              rw [value, state]
              exact .refused (.inl rfl) (.withSignals host _)
          | false =>
              have ready := serves.sound.inbound
              have behind := ready.isDrained_eq_false_iff.mp drained
              have shown := PacketRing.slotAt_delivering ready.toArranged behind
                ready.tail_le_read (behind.trans_le ready.head_le)
              rw [if_pos rfl] at shown
              have length : (packetAt session.handle .inbound
                  entry.inbound.delivering entry.inbound.read).length =
                    (entry.inbound.slotAt entry.inbound.read).buffer.length :=
                congrArg (·.buffer.length) shown
              obtain ⟨value, state⟩ := (asks (MemoryDriver.receivePacket_waiting
                serves.runs ready failed drained)).2 _ rfl
              rw [value, state, length]
              have placed := serves.placed (serves.sound.withInbound
                (ready.delivering behind) ((serves.sound.counted .inbound).of_coeval
                  (.delivering _))) (if entry.inbound.delivering.isDrained then
                    host.driver.signals.reset entry.readEvent
                  else host.driver.signals)
              have counted := placed.counted (·.recordReceived
                (entry.inbound.slotAt entry.inbound.read).buffer.length)
              exact .lent behind ⟨counted.kept, counted.runs, counted.sound⟩ rfl

/-- A look that would block has moved nothing. -/
theorem unmoved_of_blocked
    (blocked : (tryReceive id host).value = refuse .wouldBlock) :
    Unmoved host (tryReceive id host).state := by
  have fetched := serves.fetched
  rw [blocked] at fetched
  generalize (tryReceive id host).state = after at fetched ⊢
  generalize same : (refuse .wouldBlock : Outcome PacketId) = outcome at fetched
  cases fetched with
  | lent => cases same
  | refused _ unmoved => exact unmoved

/-! ## Giving a packet back -/

theorem packetBytes_heldAt (position : Nat) :
    host.packetBytes (heldAt id session entry.inbound position) =
      (entry.inbound.slotAt position).buffer :=
  @MemoryDriver.readPacket_packetAt session.handle host.driver entry .inbound
    serves.runs serves.sound.inbound.toArranged position

/-- A packet that is out goes back to the ring, and the host forgets it. -/
theorem givenBack
    {packet : PacketId}
    {position : Nat}
    (tail_le : entry.inbound.tail ≤ position)
    (lt_head : position < entry.inbound.head)
    (lent : (entry.inbound.slotAt position).state = .delivered)
    (held : host.packets.get? packet =
      some (heldAt id session entry.inbound position)) :
    Serves id session (finishPacket packet host).state (returned entry position)
        stats ∧
      (finishPacket packet host).state.packets = host.packets.erase packet := by
  have accepts := @MemoryDriver.acceptReceived_packetAt session.handle position
    entry serves.sound.inbound.toArranged tail_le lt_head lent
  have released : (MemoryDriver.releaseReceived session.handle
      (packetAt session.handle .inbound entry.inbound position)
        host.driver).state =
      host.driver.setSession session.handle.number (returned entry position) := by
    simp only [MemoryDriver.releaseReceived, MemoryDriver.handBack, serves.runs,
      accepts]
    rfl
  have state : (finishPacket packet host).state =
      { host with
        packets := host.packets.erase packet
        driver := host.driver.setSession session.handle.number
          (returned entry position) } := by
    simp only [finishPacket, withPacket, Action.state_bind, value_packet?,
      state_packet?, held, heldAt, value_session?, state_session?, serves.kept,
      releaseReceived, state_ask, forgetPacket, Action.state_change]
    exact congrArg (fun driver => { host with
      packets := host.packets.erase packet, driver }) released
  rw [state]
  have ready := serves.sound.inbound
  have released := (PacketRing.release_eq_ok_iff ready.toArranged).mpr
    ⟨position, PacketRing.names_handleAt ready.toArranged tail_le lt_head, lent, rfl⟩
  have sound : MemoryDriver.Sound (returned entry position) :=
    serves.sound.withInbound (ready.release released).1
      ((serves.sound.counted .inbound).of_coeval
        ((Ring.PacketRing.Coeval.changedAt rfl).trans (.reclaim _)))
  exact ⟨⟨serves.kept, (Table.get?_insert _ _ _ _).trans (if_pos rfl), sound⟩, rfl⟩

end Serves

/-! ## What is done with a packet -/

/-- How a call hands over what it receives. -/
inductive Manner
  /-- The packet is lent. -/
  | lend
  /-- It is copied into a buffer and given back. -/
  | copy (buffer : Bytes)
  /-- Its bytes are read, and it is given back. -/
  | read

/-- How a call that receives hands it over. -/
def Entry.manner? : Entry → Option Manner
  | tryReceive | receive _ | receiveInterruptible _ _ => some .lend
  | receiveInto buffer | tryReceiveInto buffer => some (.copy buffer)
  | receiveAsync | receiveAsyncWithin _ => some .read
  | _ => none

namespace Manner

/-- What a call does with what its last look came to. -/
def finish : Manner → Outcome PacketId → Action (Host MemoryDriver) BlockingResult
  | lend, outcome => return .received outcome
  | copy buffer, outcome => do return .copied (← copyOut outcome buffer)
  | read, .ok packet => do
      return .consumed (.ok (← ReceiveFuture.consume packet))
  | read, .error failure => return .consumed (.error failure)

/-- How a call says that it has received nothing; a buffer stays as it is. -/
def refusal (failure : Failure) : Manner → BlockingResult
  | lend => .received (.error failure)
  | copy buffer => .copied ⟨.error failure, buffer⟩
  | read => .consumed (.error failure)

theorem finish_error
    (manner : Manner)
    (failure : Failure)
    (host : Host MemoryDriver) :
    manner.finish (.error failure) host = ⟨manner.refusal failure, host, []⟩ := by
  cases manner <;> rfl

end Manner

/-- How a call has handed over the oldest packet of a ring, and what became of
the ring. -/
inductive HandedOver
    (id : SessionId)
    (session : Session)
    (packets : Table PacketId HeldPacket)
    (ring : PacketRing)
    (content : Bytes)
    (host : Host MemoryDriver) : Manner → BlockingResult → PacketRing → Prop
  /-- The caller holds it, with its bytes. -/
  | lent {packet : PacketId}
      (packets_eq : host.packets =
        packets.insert packet (heldAt id session ring.delivering ring.read))
      (bytes : host.packetBytes (heldAt id session ring.delivering ring.read) =
        content) :
      HandedOver id session packets ring content host .lend
        (.received (.ok packet)) ring.delivering
  /-- The buffer starts with it and is as before after it. -/
  | copied {buffer : Bytes}
      (fits : content.length ≤ buffer.length)
      (unheld : ∀ packet held, host.packets.get? packet = some held →
        packets.get? packet = some held) :
      HandedOver id session packets ring content host (.copy buffer)
        (.copied ⟨.ok content.length, content ++ buffer.drop content.length⟩)
        ring.passed
  /-- The buffer is too short for it and stays as it is. -/
  | tooShort {buffer : Bytes}
      (short : buffer.length < content.length)
      (unheld : ∀ packet held, host.packets.get? packet = some held →
        packets.get? packet = some held) :
      HandedOver id session packets ring content host (.copy buffer)
        (.copied ⟨refuse (bufferTooSmall buffer.length content.length), buffer⟩)
        ring.passed
  /-- Its bytes are known. -/
  | read
      (unheld : ∀ packet held, host.packets.get? packet = some held →
        packets.get? packet = some held) :
      HandedOver id session packets ring content host .read
        (.consumed (.ok content)) ring.passed

/-- The oldest packet of a ring that was just lent is handed over. -/
theorem handedOver
    {packets : Table PacketId HeldPacket}
    {packet : PacketId}
    (ready : PacketRing.Ready entry.inbound)
    (waits : entry.inbound.read < entry.inbound.head)
    (serves : Serves id session host
      { entry with inbound := entry.inbound.delivering } stats)
    (packets_eq : host.packets = packets.insert packet
      (heldAt id session entry.inbound.delivering entry.inbound.read))
    (manner : Manner) :
    ∃ later,
      HandedOver id session packets entry.inbound
        (entry.inbound.slotAt entry.inbound.read).buffer
        (manner.finish (.ok packet) host).state manner
        (manner.finish (.ok packet) host).value later ∧
      Serves id session (manner.finish (.ok packet) host).state
        { entry with inbound := later } stats := by
  have shown := PacketRing.slotAt_delivering ready.toArranged waits
    ready.tail_le_read (waits.trans_le ready.head_le)
  rw [if_pos rfl] at shown
  have bytes := (serves.packetBytes_heldAt entry.inbound.read).trans
    (congrArg (·.buffer) shown)
  have length : (heldAt id session entry.inbound.delivering
      entry.inbound.read).raw.length =
        (entry.inbound.slotAt entry.inbound.read).buffer.length :=
    congrArg (·.buffer.length) shown
  have held : host.packets.get? packet = some
      (heldAt id session entry.inbound.delivering entry.inbound.read) := by
    rw [packets_eq, Table.get?_insert, if_pos rfl]
  obtain ⟨back, erased⟩ := serves.givenBack ready.tail_le_read waits
    (by rw [shown]) held
  have unheld : ∀ other found,
      (finishPacket packet host).state.packets.get? other = some found →
        packets.get? other = some found := by
    intro other found present
    rw [erased] at present
    obtain ⟨differs, before⟩ := Table.of_get?_erase present
    rw [packets_eq, Table.get?_insert, if_neg differs] at before
    exact before
  generalize (entry.inbound.slotAt entry.inbound.read).buffer = content
    at bytes length ⊢
  cases manner with
  | lend => exact ⟨_, .lent packets_eq bytes, serves⟩
  | read =>
      have value : (ReceiveFuture.consume packet host).value = content := by
        simp only [ReceiveFuture.consume, Action.value_bind, value_packet?,
          state_packet?, held, Action.value_inspect, Action.value_pure]
        exact bytes
      have state : (ReceiveFuture.consume packet host).state =
          (finishPacket packet host).state := by
        simp only [ReceiveFuture.consume, Action.state_bind, value_packet?,
          state_packet?, held, Action.state_inspect, Action.state_pure]
      change ∃ later, HandedOver id session packets entry.inbound content
          (ReceiveFuture.consume packet host).state .read
          (.consumed (.ok (ReceiveFuture.consume packet host).value)) later ∧
        Serves id session (ReceiveFuture.consume packet host).state
          { entry with inbound := later } stats
      rw [value, state]
      exact ⟨_, .read unheld, back⟩
  | copy buffer =>
      have value : (copyOut (.ok packet) buffer host).value =
          if buffer.length < content.length then
            ⟨refuse (bufferTooSmall buffer.length content.length), buffer⟩
          else ⟨.ok content.length, Bytes.overwrite 0 content buffer⟩ := by
        simp only [copyOut, Action.value_bind, value_packet?, state_packet?, held,
          Action.value_inspect, Action.state_inspect, bytes, length]
        split <;> rfl
      have state : (copyOut (.ok packet) buffer host).state =
          (finishPacket packet host).state := by
        simp only [copyOut, Action.state_bind, value_packet?, state_packet?, held,
          Action.state_inspect]
        split <;> rfl
      change ∃ later, HandedOver id session packets entry.inbound content
          (copyOut (.ok packet) buffer host).state (.copy buffer)
          (.copied (copyOut (.ok packet) buffer host).value) later ∧
        Serves id session (copyOut (.ok packet) buffer host).state
          { entry with inbound := later } stats
      rw [value, state]
      refine ⟨_, ?_, back⟩
      split
      case isTrue short => exact .tooShort short unheld
      case isFalse fits =>
        have fits := Nat.le_of_not_lt fits
        have same : Bytes.overwrite 0 content buffer =
            content ++ buffer.drop content.length := by
          simp [Bytes.overwrite, List.take_of_length_le fits]
        rw [same]
        exact .copied fits unheld

/-- The oldest packet is gone then, and only that one. -/
theorem HandedOver.undelivered_eq_cons
    {packets : Table PacketId HeldPacket}
    {ring later : PacketRing}
    {content : Bytes}
    {manner : Manner}
    {result : BlockingResult}
    (handedOver : HandedOver id session packets ring content host manner result
      later)
    (ready : PacketRing.Ready ring)
    (waits : ring.read < ring.head) :
    ring.undelivered = (ring.slotAt ring.read).buffer :: later.undelivered := by
  cases handedOver with
  | lent => exact ready.undelivered_eq_cons waits
  | copied | tooShort | read => exact ready.undelivered_eq_cons_passed waits

/-! ## Calls that receive -/

/-- Why a call receives nothing. -/
def Fruitless (error : Error) : Prop :=
  error = .wouldBlock ∨ error = .sessionEnded ∨ error = .timedOut ∨
    error = .interrupted

/-- A receiver breaks off exactly if the clock cannot name its deadline. -/
structure Receive.HeedsClock (timely : Bool) (call : Receive) : Prop where
  nameable_eq : isNameable call.terms.deadline = timely
  breaks_iff : call.phase = .breaking ↔ timely = false

/-- A receiving future does so, and no thread that waits for it does. -/
structure ReceiveFuture.HeedsClock
    (timely : Bool)
    (future : ReceiveFuture) : Prop where
  nameable_eq : isNameable future.deadline = timely
  breaks_iff : future.point = .breaking ↔ timely = false
  waits : ∀ call, future.point = .waiting call →
    isNameable call.terms.deadline = true

section HeedsClock

variable {timely : Bool}

theorem Receive.HeedsClock.onwards
    {call next : Receive}
    (heeds : call.HeedsClock timely)
    (goes : call.phase ≠ .breaking)
    (terms_eq : next.terms = call.terms)
    (goes_on : next.phase ≠ .breaking) : next.HeedsClock timely where
  nameable_eq := terms_eq ▸ heeds.nameable_eq
  breaks_iff := ⟨fun broken => absurd broken goes_on,
    fun untimely => absurd (heeds.breaks_iff.mpr untimely) goes⟩

theorem Receive.HeedsClock.nameable
    {call : Receive}
    (heeds : call.HeedsClock timely)
    (goes : call.phase ≠ .breaking) : isNameable call.terms.deadline = true := by
  rw [heeds.nameable_eq, ← Bool.not_eq_false, ← heeds.breaks_iff]
  exact goes

theorem ReceiveFuture.HeedsClock.onwards
    {future : ReceiveFuture}
    {point : ReceivePoint}
    (heeds : future.HeedsClock timely)
    (goes : future.point ≠ .breaking)
    (goes_on : point ≠ .breaking)
    (waits : ∀ call, point = .waiting call →
      isNameable call.terms.deadline = true) :
    { future with point }.HeedsClock timely where
  nameable_eq := heeds.nameable_eq
  breaks_iff := ⟨fun broken => absurd broken goes_on,
    fun untimely => absurd (heeds.breaks_iff.mpr untimely) goes⟩
  waits := waits

/-- It heeds the clock while it looks. -/
theorem ReceiveFuture.HeedsClock.look
    {future : ReceiveFuture}
    (heeds : future.HeedsClock timely)
    (goes : future.point ≠ .breaking) :
    { future with point := .looking }.HeedsClock timely :=
  heeds.onwards goes nofun nofun

/-- It does so when it looks at the time. -/
theorem ReceiveFuture.HeedsClock.checkTime
    {future : ReceiveFuture}
    (heeds : future.HeedsClock timely)
    (goes : future.point ≠ .breaking) :
    { future with point := .checkingTime }.HeedsClock timely :=
  heeds.onwards goes nofun nofun

/-- It does so while a thread waits for it up to a deadline that can be named. -/
theorem ReceiveFuture.HeedsClock.wait
    {future : ReceiveFuture}
    (heeds : future.HeedsClock timely)
    (goes : future.point ≠ .breaking)
    {call : WaitReadable}
    (nameable : isNameable call.terms.deadline = true) :
    (future.waitingOn call).HeedsClock timely :=
  heeds.onwards goes nofun fun _ same => ReceivePoint.waiting.inj same ▸ nameable

theorem ReceiveFuture.HeedsClock.nameable
    {future : ReceiveFuture}
    (heeds : future.HeedsClock timely)
    (goes : future.point ≠ .breaking) : isNameable future.deadline = true := by
  rw [heeds.nameable_eq, ← Bool.not_eq_false, ← heeds.breaks_iff]
  exact goes

/-- A receiver that was just made heeds the clock. -/
theorem heedsClock_receive
    (interrupt : Option EventHandle)
    (timeout : Option Nanoseconds)
    (host : Host MemoryDriver) :
    (receive id interrupt timeout host).value.HeedsClock
      (isNameable (timeout.map (host.clock + ·))) where
  nameable_eq := rfl
  breaks_iff := by
    change ReceivePhase.first (timeout.map (host.clock + ·)) = _ ↔ _
    unfold ReceivePhase.first
    cases isNameable (timeout.map (host.clock + ·)) with
    | true => exact ⟨nofun, nofun⟩
    | false => exact ⟨fun _ => rfl, fun _ => rfl⟩

/-- A receiving future that was just made heeds the clock. -/
theorem heedsClock_receiveAsync
    (timeout : Option Nanoseconds)
    (host : Host MemoryDriver) :
    (receiveAsync id timeout host).value.HeedsClock
      (isNameable (timeout.map (host.clock + ·))) where
  nameable_eq := rfl
  breaks_iff := by
    change ReceivePoint.first (timeout.map (host.clock + ·)) = _ ↔ _
    unfold ReceivePoint.first
    cases isNameable (timeout.map (host.clock + ·)) with
    | true => exact ⟨nofun, nofun⟩
    | false => exact ⟨fun _ => rfl, fun _ => rfl⟩
  waits := by
    change ∀ call, ReceivePoint.first (timeout.map (host.clock + ·)) = _ → _
    unfold ReceivePoint.first
    split <;> exact fun _ waits => (nomatch waits)

end HeedsClock

/-- Where a call that receives can be; it is timely unless the clock could not
name its deadline. -/
inductive Receives (id : SessionId) (timely : Bool) : Manner → Blocking → Prop
  | lend {call : Receive}
      (own : call.terms.session = id)
      (heeds : call.HeedsClock timely) :
      Receives id timely .lend (.receive call)
  | copy {call : Receive} {buffer : Bytes}
      (own : call.terms.session = id)
      (heeds : call.HeedsClock timely) :
      Receives id timely (.copy buffer) (.copy call buffer)
  | read {future : ReceiveFuture}
      (own : future.session = id)
      (heeds : future.HeedsClock timely) :
      Receives id timely .read (.receiveAsync future)

/-- What a step of a call that receives comes to. -/
inductive ReceiveStep
    (id : SessionId)
    (timely : Bool)
    (manner : Manner)
    (host : Host MemoryDriver) : Opened → Host MemoryDriver → Prop
  /-- A look ends the call. -/
  | looked :
      ReceiveStep id timely manner host
        (.finished (manner.finish (tryReceive id host).value
          (tryReceive id host).state).value)
        (manner.finish (tryReceive id host).value (tryReceive id host).state).state
  /-- A look finds nothing. -/
  | blocked {next : Blocking}
      (nothing : (tryReceive id host).value = refuse .wouldBlock)
      (receives : Receives id timely manner next) :
      ReceiveStep id timely manner host (.going next) (tryReceive id host).state
  /-- The call waits. -/
  | waited {next : Blocking} {after : Host MemoryDriver}
      (unmoved : Unmoved host after)
      (receives : Receives id timely manner next) :
      ReceiveStep id timely manner host (.going next) after
  /-- A wait ends the call. -/
  | ended {error : Error} {after : Host MemoryDriver}
      (fruitless : Fruitless error)
      (unmoved : Unmoved host after) :
      ReceiveStep id timely manner host
        (.finished (manner.refusal (.refused error))) after
  /-- The call breaks off. -/
  | broken (untimely : timely = false) :
      ReceiveStep id timely manner host
        (.finished (manner.refusal .beyondClock)) host

/-- What a step of a receiving thread comes to. -/
inductive ThreadStep
    (timely : Bool)
    (call : Receive)
    (host : Host MemoryDriver) :
    Progress Receive (Outcome PacketId) → Host MemoryDriver → Prop
  | looked :
      ThreadStep timely call host
        (.finished (tryReceive call.terms.session host).value)
        (tryReceive call.terms.session host).state
  | blocked {next : Receive}
      (nothing : (tryReceive call.terms.session host).value = refuse .wouldBlock)
      (same : next.terms = call.terms)
      (heeds : next.HeedsClock timely) :
      ThreadStep timely call host (.running next)
        (tryReceive call.terms.session host).state
  | waited {next : Receive} {after : Host MemoryDriver}
      {progress : Progress Receive (Outcome PacketId)}
      (unmoved : Unmoved host after)
      (goes : progress = .running next ∨ ∃ moment, progress = .asleep next moment)
      (same : next.terms = call.terms)
      (heeds : next.HeedsClock timely) :
      ThreadStep timely call host progress after
  | ended {error : Error} {after : Host MemoryDriver}
      (fruitless : Fruitless error)
      (unmoved : Unmoved host after) :
      ThreadStep timely call host (.finished (refuse error)) after
  | broken (untimely : timely = false) :
      ThreadStep timely call host (.finished (.error .beyondClock)) host

/-- The answer of a wait for packets, if it is a refusal, is a fruitless one. -/
def EndsFruitless {Call : Type} : Progress Call (Outcome Bool) → Prop
  | .finished (.error failure) =>
      ∃ error, failure = .refused error ∧ Fruitless error
  | _ => True

theorem endsFruitless_answerOf
    {Call : Type}
    (outcome : Signal.Wakeup) :
    EndsFruitless (.finished (answerOf outcome) : Progress Call (Outcome Bool)) := by
  cases outcome with
  | ready | timedOut => trivial
  | cancelled => exact ⟨_, rfl, .inr (.inl rfl)⟩
  | interrupted => exact ⟨_, rfl, .inr (.inr (.inr rfl))⟩

theorem endsFruitless_beginUntil
    (terms : WaitTerms)
    (nameable : isNameable terms.deadline = true)
    (host : Host MemoryDriver) :
    EndsFruitless (beginUntil terms host).value := by
  simp only [beginUntil, Action.value_bind, value_session?, state_session?]
  cases host.sessions.get? terms.session with
  | none => exact ⟨_, rfl, .inr (.inl rfl)⟩
  | some session =>
      simp only [now, Action.value_bind, Action.value_inspect, Action.state_inspect]
      cases left : remaining terms.deadline host.clock with
      | none => trivial
      | some timeout =>
          have within := isNameable_remaining nameable left
          simp only [Action.value_bind, beginWait_of_nameable _ _ _ within]
          trivial

theorem endsFruitless_stepUntil (wait : Signal.Wait) (host : Host MemoryDriver) :
    EndsFruitless (stepUntil wait host).value := by
  simp only [stepUntil, Action.value_bind, Action.value_pure]
  cases (stepWait wait host).value with
  | running | asleep => trivial
  | finished outcome => exact endsFruitless_answerOf outcome

theorem endsFruitless_map
    {Call Other : Type}
    {progress : Progress Call (Outcome Bool)}
    (ends : EndsFruitless progress)
    (view : Call → Other) : EndsFruitless (progress.map view fun answer => answer) := by
  cases progress with
  | running | asleep => trivial
  | finished outcome => cases outcome <;> exact ends

/-- A wait for packets whose deadline the clock can name keeps that while it goes
on. -/
def KeepsNameable : Progress WaitReadable (Outcome Bool) → Prop
  | .running next | .asleep next _ => isNameable next.terms.deadline = true
  | .finished _ => True

theorem keepsNameable_map
    {call : WaitReadable}
    (nameable : isNameable call.terms.deadline = true)
    (progress : Progress Signal.Wait (Outcome Bool)) :
    KeepsNameable (progress.map call.waitingOn fun answer => answer) := by
  cases progress with
  | running | asleep => exact nameable
  | finished => trivial

theorem waitReadable_of_nameable
    (call : WaitReadable)
    (nameable : isNameable call.terms.deadline = true)
    (host : Host MemoryDriver) :
    EndsFruitless (call.step host).value ∧ KeepsNameable (call.step host).value := by
  unfold WaitReadable.step
  cases call.phase with
  | checking =>
      simp only [whileOpen, Action.value_bind, value_session?, state_session?]
      cases host.sessions.get? call.terms.session with
      | none => exact ⟨⟨_, rfl, .inr (.inl rfl)⟩, trivial⟩
      | some session =>
          simp only [Action.value_bind]
          cases (isShutDown session host).value with
          | true => exact ⟨⟨_, rfl, .inr (.inl rfl)⟩, trivial⟩
          | false =>
              simp only [Bool.false_eq_true, if_false, Action.value_pure, nameable,
                if_true]
              exact ⟨trivial, nameable⟩
  | beginning =>
      exact ⟨endsFruitless_map (endsFruitless_beginUntil _ nameable host) _,
        keepsNameable_map nameable _⟩
  | waiting wait =>
      exact ⟨endsFruitless_map (endsFruitless_stepUntil wait host) _,
        keepsNameable_map nameable _⟩

section Threads

variable {timely : Bool}

/-- What follows a wait of a thread. -/
theorem threadStep_afterWait
    {call : Receive}
    {after : Host MemoryDriver}
    {progress : Progress Signal.Wait (Outcome Bool)}
    (heeds : call.HeedsClock timely)
    (goes : call.phase ≠ .breaking)
    (ends : EndsFruitless progress)
    (unmoved : Unmoved host after) :
    ThreadStep timely call host (call.afterWait progress after).value
      (call.afterWait progress after).state := by
  cases progress with
  | running wait =>
      exact .waited unmoved (.inl rfl) rfl (heeds.onwards goes rfl nofun)
  | asleep wait moment =>
      exact .waited unmoved (.inr ⟨moment, rfl⟩) rfl (heeds.onwards goes rfl nofun)
  | finished outcome =>
      rcases outcome with failure | readable | readable
      · obtain ⟨error, rfl, fruitless⟩ := ends
        exact .ended fruitless unmoved
      · exact .ended (.inr (.inr (.inl rfl))) unmoved
      · exact .waited (unmoved.trans (Unmoving.passTime _ after)) (.inl rfl) rfl
          (heeds.onwards goes rfl nofun)

/-- A thread looks or waits, or breaks off. -/
theorem threadStep
    {call : Receive}
    (heeds : call.HeedsClock timely)
    (host : Host MemoryDriver) :
    ThreadStep timely call host (call.step host).value (call.step host).state := by
  unfold Receive.step
  cases phase : call.phase with
  | breaking => exact .broken (heeds.breaks_iff.mp phase)
  | looking looks =>
      have goes : call.phase ≠ .breaking := by rw [phase]; nofun
      simp only [Action.value_bind, Action.state_bind]
      generalize answer : (tryReceive call.terms.session host).value = outcome
      split
      case h_1 =>
        refine .blocked answer rfl (heeds.onwards goes rfl ?_)
        dsimp only
        split <;> nofun
      case h_2 =>
        rw [← answer]
        exact .looked
  | beginning =>
      have goes : call.phase ≠ .breaking := by rw [phase]; nofun
      exact threadStep_afterWait heeds goes
        (endsFruitless_beginUntil call.terms (heeds.nameable goes) host)
        (Unmoving.beginUntil call.terms host)
  | waiting wait =>
      have goes : call.phase ≠ .breaking := by rw [phase]; nofun
      exact threadStep_afterWait heeds goes (endsFruitless_stepUntil wait host)
        (Unmoving.stepUntil wait host)

/-- A future looks or waits, or breaks off. -/
theorem receiveStep_future
    {future : ReceiveFuture}
    (own : future.session = id)
    (heeds : future.HeedsClock timely)
    (host : Host MemoryDriver) :
    let call : Blocking := .receiveAsync future
    ReceiveStep id timely .read host (.ofProgress (call.step host).value)
      (call.step host).state := by
  intro call
  change ReceiveStep id timely .read host
    (.ofProgress ((future.step host).value.map .receiveAsync .consumed))
    (future.step host).state
  subst own
  unfold ReceiveFuture.step
  cases point : future.point with
  | breaking => exact .broken (heeds.breaks_iff.mp point)
  | looking =>
      have goes : future.point ≠ .breaking := fun broken => by
        cases point.symm.trans broken
      simp only [Action.value_bind, Action.state_bind]
      have ended : ReceiveStep future.session timely .read host _ _ := .looked
      generalize answer : (tryReceive future.session host).value = outcome
        at ended ⊢
      split
      case h_1 packet => exact ended
      case h_2 => exact .blocked answer (.read rfl (heeds.checkTime goes))
      case h_3 failure _ => exact ended
  | checkingTime =>
      have goes : future.point ≠ .breaking := fun broken => by
        cases point.symm.trans broken
      simp only [now, Action.value_bind, Action.state_bind, Action.value_inspect,
        Action.state_inspect]
      cases left : remaining future.deadline host.clock with
      | none => exact .ended (.inr (.inr (.inl rfl))) (.refl host)
      | some timeout =>
          have within := isNameable_remaining (heeds.nameable goes) left
          exact .waited (.refl host) (.read rfl (heeds.wait goes within))
  | waiting call =>
      have goes : future.point ≠ .breaking := fun broken => by
        cases point.symm.trans broken
      have unmoved := Unmoving.waitReadable call host
      obtain ⟨ends, keeps⟩ :=
        waitReadable_of_nameable call (heeds.waits call point) host
      simp only [Action.value_bind, Action.state_bind]
      generalize (call.step host).value = progress at ends keeps ⊢
      generalize (call.step host).state = after at unmoved ⊢
      cases progress with
      | running next => exact .waited unmoved (.read rfl (heeds.wait goes keeps))
      | asleep next moment => exact .waited unmoved (.read rfl (heeds.wait goes keeps))
      | finished outcome =>
          rcases outcome with failure | readable | readable
          · obtain ⟨error, rfl, fruitless⟩ := ends
            exact .ended fruitless unmoved
          · exact .ended (.inr (.inr (.inl rfl))) unmoved
          · exact .waited (unmoved.trans (Unmoving.passTime _ after))
              (.read rfl (heeds.look goes))

/-- Where a call that receives can be, it looks or waits, or breaks off. -/
theorem Receives.step
    {manner : Manner}
    {call : Blocking}
    (receives : Receives id timely manner call)
    (host : Host MemoryDriver) :
    ReceiveStep id timely manner host (.ofProgress (call.step host).value)
      (call.step host).state := by
  cases receives with
  | @lend thread own heeds =>
      have step := threadStep heeds host
      change ReceiveStep id timely .lend host
        (.ofProgress ((thread.step host).value.map .receive .received))
        (thread.step host).state
      generalize (thread.step host).value = progress at step ⊢
      generalize (thread.step host).state = after at step ⊢
      subst own
      cases step with
      | looked => exact .looked
      | blocked nothing same heeds =>
          exact .blocked nothing (.lend (congrArg WaitTerms.session same) heeds)
      | waited unmoved goes same heeds =>
          have own := congrArg WaitTerms.session same
          rcases goes with rfl | ⟨moment, rfl⟩
          · exact .waited unmoved (.lend own heeds)
          · exact .waited unmoved (.lend own heeds)
      | ended fruitless unmoved => exact .ended fruitless unmoved
      | broken untimely => exact .broken untimely
  | @copy thread buffer own heeds =>
      have step := threadStep heeds host
      simp only [Blocking.step, Blocking.stepCopy, Action.value_bind,
        Action.state_bind]
      generalize (thread.step host).value = progress at step ⊢
      generalize (thread.step host).state = after at step ⊢
      subst own
      cases step with
      | looked => exact .looked
      | blocked nothing same heeds =>
          exact .blocked nothing (.copy (congrArg WaitTerms.session same) heeds)
      | waited unmoved goes same heeds =>
          have own := congrArg WaitTerms.session same
          rcases goes with rfl | ⟨moment, rfl⟩
          · exact .waited unmoved (.copy own heeds)
          · exact .waited unmoved (.copy own heeds)
      | ended fruitless unmoved => exact .ended fruitless unmoved
      | broken untimely => exact .broken untimely
  | read own heeds => exact receiveStep_future own heeds host

end Threads

/-! ## What a call has come to -/

/-- What a call that receives has come to, and what others have done since it was
made. -/
inductive Received
    (id : SessionId)
    (session : Session)
    (entry : RunningSession)
    (before : Host MemoryDriver)
    (made : Entry)
    (manner : Manner)
    (errand : Errand) : BlockingResult → Prop
  /-- It took the oldest packet of the ring that others have filled, counted it
  and handed it over; it left the outbound ring to others. -/
  | taken {content : Bytes} {result : BlockingResult} {later : RunningSession}
      (handedOver : HandedOver id session before.packets
        (filledAll entry.inbound errand.injected) content errand.host manner result
        later.inbound)
      (serves : Serves id session errand.host later
        (session.stats.recordReceived content.length))
      (undelivered_eq : entry.inbound.undelivered ++ errand.injected =
        content :: later.inbound.undelivered)
      (contents_eq : errand.drained.map (·, .committed) ++ later.outbound.contents =
        entry.outbound.contents)
      (head_eq : later.outbound.head = entry.outbound.head) :
      Received id session entry before made manner errand result
  /-- It took nothing and counted nothing. -/
  | nothing {error : Error} {later : RunningSession}
      (fruitless : Fruitless error)
      (idles : Errand.Idles id session entry session.stats before errand later) :
      Received id session entry before made manner errand
        (manner.refusal (.refused error))
  /-- It broke off, because the clock could not name its deadline, and took
  nothing, either. -/
  | broken {later : RunningSession}
      (untimely : made.isTimely before.clock = false)
      (idles : Errand.Idles id session entry session.stats before errand later) :
      Received id session entry before made manner errand
        (manner.refusal .beyondClock)

/-- How things stand with a call that receives. -/
inductive Receiving
    (id : SessionId)
    (session : Session)
    (entry : RunningSession)
    (before : Host MemoryDriver)
    (made : Entry)
    (manner : Manner)
    (errand : Errand) : Prop
  /-- It goes on and has taken nothing. -/
  | going {call : Blocking} {later : RunningSession}
      (goes : errand.opened = .going call)
      (receives : Receives id (made.isTimely before.clock) manner call)
      (idles : Errand.Idles id session entry session.stats before errand later)
  /-- It is over. -/
  | finished {result : BlockingResult}
      (ends : errand.opened = .finished result)
      (received : Received id session entry before made manner errand result)

variable
  {before : Host MemoryDriver}
  {made : Entry}
  {manner : Manner}
  {errand : Errand}
  {later : RunningSession}

/-- The last look of a call takes the oldest packet, or nothing. -/
theorem Errand.Idles.looked
    {outcome : Outcome PacketId}
    {after : Host MemoryDriver}
    (idles : Errand.Idles id session entry session.stats before errand later)
    (fetched : Fetched id session errand.host later session.stats outcome after)
    (manner : Manner)
    (opened : Opened)
    (steps : List Taken) :
    Received id session entry before made manner
      { errand with opened, host := (manner.finish outcome after).state, steps }
      (manner.finish outcome after).value := by
  cases fetched with
  | refused plain unmoved =>
      rw [manner.finish_error]
      exact .nothing (plain.imp_right .inl) (idles.unmoved unmoved)
  | lent waits serves packets_eq =>
      have ready := idles.sound.inbound
      obtain ⟨inbound, handed, back⟩ :=
        handedOver ready waits serves (idles.packets_eq ▸ packets_eq) manner
      have cons := handed.undelivered_eq_cons ready waits
      generalize (later.inbound.slotAt later.inbound.read).buffer = content
        at handed back cons
      exact .taken (idles.inbound_eq ▸ handed) back
        (idles.undelivered_eq.symm.trans cons) idles.contents_eq idles.head_eq

namespace Receiving

/-- A call is made. -/
theorem start
    (serves : Serves id session host entry session.stats)
    (receives : made.manner? = some manner) :
    Receiving id session entry host made manner (Errand.start id made host) := by
  have idles (opened : Opened) :
      Errand.Idles id session entry session.stats host { opened, host } entry :=
    .refl serves
  cases made with
  | tryReceive =>
      cases receives
      let opened : Opened := .finished (.received (tryReceive id host).value)
      exact .finished rfl ((idles opened).looked serves.fetched .lend opened [])
  | tryReceiveInto buffer =>
      cases receives
      let opened : Opened := .finished (.copied (tryReceiveInto id buffer host).value)
      exact .finished rfl
        ((idles opened).looked serves.fetched (.copy buffer) opened [])
  | receive timeout =>
      cases receives
      exact .going rfl (.lend rfl (heedsClock_receive none timeout host)) (idles _)
  | receiveInterruptible interrupt timeout =>
      cases receives
      exact .going rfl (.lend rfl (heedsClock_receive (some interrupt) timeout host))
        (idles _)
  | receiveInto =>
      cases receives
      exact .going rfl (.copy rfl (heedsClock_receive none none host)) (idles _)
  | receiveAsync =>
      cases receives
      exact .going rfl (.read rfl (heedsClock_receiveAsync none host)) (idles _)
  | receiveAsyncWithin timeout =>
      cases receives
      exact .going rfl (.read rfl (heedsClock_receiveAsync (some timeout) host))
        (idles _)
  | _ => cases receives

/-- A step of the call, and what others do, keeps it so. -/
theorem play
    (receiving : Receiving id session entry before made manner errand)
    (move : ErrandMove) :
    Receiving id session entry before made manner
      (errand.play session.handle.number move) := by
  cases receiving with
  | finished ends received =>
      rw [Errand.play_of_finished ends]
      exact .finished ends received
  | @going call later goes receives idles =>
      cases move with
      | interlude other =>
          obtain ⟨next, idles⟩ := idles.visited other
          rw [Errand.play_interlude goes]
          exact .going goes receives idles
      | step =>
          rw [Errand.play_step goes]
          have step := receives.step errand.host
          generalize Opened.ofProgress (call.step errand.host).value = opened at step ⊢
          generalize (call.step errand.host).state = after at step ⊢
          cases step with
          | looked =>
              exact .finished rfl (idles.looked idles.toServes.fetched manner _ _)
          | blocked nothing receives =>
              exact .going rfl receives
                (idles.unmoved (idles.toServes.unmoved_of_blocked nothing))
          | waited unmoved receives =>
              exact .going rfl receives (idles.unmoved unmoved)
          | ended fruitless unmoved =>
              exact .finished rfl (.nothing fruitless (idles.unmoved unmoved))
          | broken untimely =>
              exact .finished rfl (.broken untimely (idles.unmoved (.refl _)))

end Receiving

/-- Whatever others do between the steps of a call that receives, in the end it
has taken the oldest packet, counted it and handed it over, and given it back
unless it lends it, also if the buffer is too short for it; or it has taken
nothing, and neither rings nor counters show that it was there.  It breaks off
only if the clock could not name its deadline. -/
theorem takes_one_packet_or_none
    {version : DriverVersion}
    {slotBudget : Option Nat}
    {requests : List Request}
    (reached : host.driver = (MemoryDriver.fresh version slotBudget).serveAll
      requests)
    (kept : host.sessions.get? id = some session)
    (runs : host.driver.sessions.get? session.handle.number = some entry)
    {made : Entry}
    (receives : made.manner? = some manner)
    (moves : List ErrandMove) :
    let errand := (Errand.start id made host).playAll session.handle.number moves
    ∀ result, errand.opened = .finished result →
      Received id session entry host made manner errand result := by
  intro errand result ends
  have receiving : Receiving id session entry host made manner errand :=
    Errand.playAll_induction (fun _ move receiving => receiving.play move)
      (.start (serves_of_serveAll reached kept runs) receives) moves
  cases receiving with
  | going goes => cases ends.symm.trans goes
  | finished same received =>
      obtain rfl := Opened.finished.inj (ends.symm.trans same)
      exact received

/-- The answer of a call that copies a packet and its buffer, once it is over. -/
def Opened.copied? : Opened → Option (Outcome Nat × Bytes)
  | finished (.copied copied) => some (copied.outcome, copied.buffer)
  | _ => none

theorem Opened.eq_of_copied?
    {opened : Opened}
    {outcome : Outcome Nat}
    {buffer : Bytes}
    (answered : opened.copied? = some (outcome, buffer)) :
    opened = .finished (.copied ⟨outcome, buffer⟩) := by
  unfold copied? at answered
  split at answered
  · cases Option.some.inj answered
    rfl
  · cases answered

/-- A session for which nothing was put in. -/
def oneSession : Host MemoryDriver :=
  { Polling.oneAdapter.launched 2 1 4 { spinCount := 0 } with
    driver := (MemoryDriver.fresh Memory.defaultVersion none).serveAll
      [.createAdapter "tun" "tun" none, .startSession ⟨2⟩ 4, .newEvent] }

/-- A call waits for a packet to copy it into a buffer, and one is put in. -/
def copiesInto (buffer : Bytes) : Errand :=
  (Errand.start 3 (.receiveInto buffer) oneSession).playAll 3
    (List.replicate 3 .step ++ [.interlude (.inject "tun" [1, 2, 3])] ++
      List.replicate 20 .step)

/-- The packet is copied to the start of a buffer of four bytes; one of two bytes
stays as it is, and the packet is gone all the same. -/
theorem takes_one_packet_or_none_of_copies :
    ∃ session entry,
      entry.inbound.undelivered = [] ∧
      Received 3 session entry oneSession (.receiveInto [9, 9, 9, 9])
        (.copy [9, 9, 9, 9]) (copiesInto [9, 9, 9, 9]) (.copied ⟨.ok 3, [1, 2, 3, 9]⟩) ∧
      Received 3 session entry oneSession (.receiveInto [9, 9]) (.copy [9, 9])
        (copiesInto [9, 9]) (.copied ⟨refuse (bufferTooSmall 2 3), [9, 9]⟩) := by
  have copied : (copiesInto [9, 9, 9, 9]).opened.copied? =
      some (.ok 3, [1, 2, 3, 9]) := by
    decide +kernel
  have refused : (copiesInto [9, 9]).opened.copied? =
      some (refuse (bufferTooSmall 2 3), [9, 9]) := by
    decide +kernel
  obtain ⟨session, kept, number⟩ := Option.map_eq_some_iff.mp
    (show (oneSession.sessions.get? 3).map (·.handle.number) = some 3 by
      decide +kernel)
  obtain ⟨entry, runs, nothing⟩ := Option.map_eq_some_iff.mp
    (show (oneSession.driver.sessions.get? 3).map (·.inbound.undelivered) = some [] by
      decide +kernel)
  have takes (buffer : Bytes) := @takes_one_packet_or_none 3 session oneSession entry
    (.copy buffer) _ _ _ rfl kept (number ▸ runs) (.receiveInto buffer) rfl
    (List.replicate 3 .step ++ [.interlude (.inject "tun" [1, 2, 3])] ++
      List.replicate 20 .step)
  rw [number] at takes
  exact ⟨session, entry, nothing,
    takes [9, 9, 9, 9] _ (Opened.eq_of_copied? copied),
    takes [9, 9] _ (Opened.eq_of_copied? refused)⟩

end Host
end VirtualAdapter

import VirtualAdapter.Proofs.Host.Receipts

/-!
# The accesses of a thread that pumps

One lemma for each place where the thread can be: the access leads to the next
place and keeps what holds all the time.
-/

namespace VirtualAdapter
namespace Host

open VirtualAdapter.Action (bind_apply pure_apply)
open Memory (MemoryDriver RunningSession)
open Memory.MemoryDriver (packetAt)
open Signal (Bank SignalId)
open VirtualAdapter.Ring (PacketRing)
open VirtualAdapter.Ring.PacketRing (Queued Ready)

namespace Pumping

variable
  {name : String}
  {id : SessionId}
  {session : Session}
  {sessions : Table SessionId Session}
  {driver : MemoryDriver}
  {entry : RunningSession}
  {stats : SessionStats}
  {pumping : Pumping}
  {out : Nat}
  {mine : List PacketId}
  {handler : Handler MemoryDriver}

/-- A pump whose session is over stops. -/
theorem leave_refused
    (pump : ReadPump)
    (error : Error)
    (host : Host MemoryDriver) :
    (pump.leave (.refused error) host).value =
        { pump with phase := .finished .stopped } ∧
      (pump.leave (.refused error) host).state = host := by
  unfold ReadPump.leave
  dsimp only
  split <;> exact ⟨rfl, rfl⟩

/-- The pump finds its session. -/
theorem Sound.found (sound : Sound name id session pumping entry stats out mine) :
    pumping.host.sessions.get? pumping.thread.pump.session =
      some { session with stats } :=
  sound.own.symm ▸ sound.kept

/-- An access that turned events only, while nothing is out. -/
theorem Sound.within
    (sound : Sound name id session pumping entry stats 0 [])
    {signals : Bank}
    {thread : PumpThread}
    (isSet : signals.isSet session.shutdownEvent.number =
      pumping.isShut session)
    (tells : signals.isSet session.readEvent.number = true ↔
      entry.failed = true ∨
        pumping.thread.pump.delivered < pumping.accepted.length)
    (own : thread.pump.session = pumping.thread.pump.session)
    (delivered_eq : thread.pump.delivered = pumping.thread.pump.delivered)
    (seen_eq : thread.pump.seen = pumping.thread.pump.seen)
    (stage : Stage id session signals entry pumping.host.packets
      pumping.accepted thread 0 [])
    (between : pumping.isShut session = true → thread.midway = .between) :
    Leads name id session [.pump] pumping entry
      { host := { pumping.host with
          driver := { pumping.host.driver with signals } }
        thread
        accepted := pumping.accepted } :=
  ⟨entry, stats, 0, [],
    { sound.toAttends.withSignals signals with
      own := own.trans sound.own
      queued := delivered_eq ▸ sound.queued
      seen_eq := by rw [seen_eq, delivered_eq]; exact sound.seen_eq
      received_eq := by rw [delivered_eq]; exact sound.received_eq
      held := sound.held
      numbered := sound.numbered
      tells := delivered_eq ▸ tells
      stage },
    fun shut => isSet.trans shut, fun shut => .inl (isSet.symm.trans shut), .inl,
    fun shut => by
      rw [stage.seen_eq, seen_eq, sound.stage.seen_eq,
        stage.ahead_eq_zero (between shut)]
      exact Nat.le_add_right _ _⟩

/-- A thread that waits goes on, sees something to receive, or stops. -/
theorem Sound.play_waiting
    {host : Host MemoryDriver}
    {pump : ReadPump}
    {call : WaitReadable}
    {accepted : List Bytes}
    (sound : Sound name id session ⟨host, { pump }, accepted⟩ entry stats 0 [])
    (phase : pump.phase = .waiting call)
    (awaits : Awaits id session host.driver.signals call) :
    Leads name id session [.pump] ⟨host, { pump }, accepted⟩ entry
      (play handler name ⟨host, { pump }, accepted⟩ .pump) := by
  obtain ⟨signals, isSet, state, stepped⟩ := awaits.step_cases sound.kept
  have tells := sound.tells
  dsimp only at tells
  rw [← isSet] at tells
  cases progress : call.step host with
  | mk value after notes =>
    rw [progress] at state stepped
    subst state
    simp only [play, PumpThread.step, phase, ReadPump.step, bind_apply, progress,
      pure_apply]
    dsimp only at stepped
    cases stepped with
    | running awaits | asleep awaits =>
        exact sound.within (isSet _) tells rfl rfl rfl (.waiting rfl awaits)
          fun _ => rfl
    | readable answer =>
        exact sound.within (isSet _) tells rfl rfl rfl (.taking rfl) fun _ => rfl
    | ended shut =>
        have left := leave_refused pump .sessionEnded
          { host with driver := { host.driver with signals } }
        simp only [bind_apply, left.1, left.2, pure_apply]
        exact sound.within (isSet _) tells rfl rfl rfl (.finished rfl (.inl shut))
          fun _ => rfl

/-- A thread looks whether its session is open. -/
theorem Sound.play_taking
    {host : Host MemoryDriver}
    {pump : ReadPump}
    {accepted : List Bytes}
    (sound : Sound name id session ⟨host, { pump }, accepted⟩ entry stats 0 [])
    (phase : pump.phase = .taking) :
    Leads name id session [.pump] ⟨host, { pump }, accepted⟩ entry
      (play handler name ⟨host, { pump }, accepted⟩ .pump) := by
  have found := sound.found
  dsimp only at found
  have looked : isShutDown { session with stats } host =
      ⟨host.driver.signals.isSet session.shutdownEvent.number, host, []⟩ := rfl
  cases shut : host.driver.signals.isSet session.shutdownEvent.number with
  | true =>
      rw [shut] at looked
      have left := leave_refused pump .sessionEnded host
      simp only [play, PumpThread.step, phase, PumpThread.check, bind_apply,
        whileOpen_of_shut _ found (congrArg Reply.value looked), looked, refuse,
        left, pure_apply]
      exact sound.within rfl sound.tells rfl rfl rfl (.finished rfl (.inl shut))
        fun _ => rfl
  | false =>
      rw [shut] at looked
      simp only [play, PumpThread.step, phase, PumpThread.check, bind_apply,
        whileOpen_of_open _ found (congrArg Reply.value looked), looked,
        pure_apply]
      refine sound.within rfl sound.tells rfl rfl rfl (.receiving phase)
        fun isShut => ?_
      cases shut.symm.trans isShut

section Receiving

variable
  {host : Host MemoryDriver}
  {pump : ReadPump}
  {accepted : List Bytes}
  (sound : Sound name id session
    ⟨host, { pump, midway := .receiving }, accepted⟩ entry stats 0 [])

include sound

/-- A thread stops if the device was taken away. -/
theorem Sound.play_receiving_of_failed (failed : entry.failed = true) :
    Leads name id session [.pump]
      ⟨host, { pump, midway := .receiving }, accepted⟩ entry
      (play handler name ⟨host, { pump, midway := .receiving }, accepted⟩
        .pump) := by
  have found := sound.found
  dsimp only at found
  have asked : Driver.receivePacket session.handle host.driver =
      ⟨refuse .sessionEnded, host.driver, []⟩ :=
    MemoryDriver.receivePacket_of_failed sound.runs failed
  have left := leave_refused pump .sessionEnded host
  simp only [play, PumpThread.step, PumpThread.receive, bind_apply,
    value_session?, state_session?, found, value_ask, state_ask, asked, refuse,
    left, pure_apply]
  exact sound.within rfl sound.tells rfl rfl rfl (.finished rfl (.inr failed))
    fun _ => rfl

variable (apart : session.shutdownEvent.number ≠ session.readEvent.number)

include apart

/-- A thread waits if nothing is queued. -/
theorem Sound.play_receiving_of_drained
    (healthy : entry.failed = false)
    (drained : entry.inbound.isDrained = true) :
    Leads name id session [.pump]
      ⟨host, { pump, midway := .receiving }, accepted⟩ entry
      (play handler name ⟨host, { pump, midway := .receiving }, accepted⟩
        .pump) := by
  have found := sound.found
  dsimp only at found
  have asked : Driver.receivePacket session.handle host.driver =
      ⟨refuse .wouldBlock, host.driver.resetSignal entry.readEvent, []⟩ :=
    MemoryDriver.receivePacket_of_drained sound.runs healthy drained
  have nothing : ¬ pump.delivered < accepted.length := fun waiting => by
    rw [sound.queued.isDrained_eq_false_iff.mpr waiting] at drained
    cases drained
  simp only [play, PumpThread.step, PumpThread.receive, bind_apply,
    value_session?, state_session?, found, value_ask, state_ask, asked, refuse,
    pure_apply]
  refine sound.within ?_ ?_ rfl rfl rfl (.waiting rfl ?_) fun _ => rfl
  · exact (Bank.isSet_reset _ _).trans (if_neg (sound.event_eq ▸ apart))
  · refine iff_of_false (Bool.eq_false_iff.mp ?_) ?_
    · exact (Bank.isSet_reset _ _).trans (if_pos sound.event_eq.symm)
    · simp only [healthy, Bool.false_eq_true, false_or]
      exact nothing
  · rw [← show pump.session = id from sound.own]
    exact awaits_new

/-- The driver lends the next packet and resets the event with the last one. -/
theorem Sound.receivePacket_waiting
    (healthy : entry.failed = false)
    (waiting : entry.inbound.isDrained = false) :
    ∃ signals : Bank,
      signals.isSet session.shutdownEvent.number =
        host.driver.signals.isSet session.shutdownEvent.number ∧
      signals.isSet session.readEvent.number =
        !entry.inbound.delivering.isDrained ∧
      Driver.receivePacket session.handle host.driver =
        ⟨.ok (packetAt session.handle .inbound entry.inbound.delivering
            entry.inbound.read),
          host.driver.placed session.handle.number
            { entry with inbound := entry.inbound.delivering } signals, []⟩ := by
  refine ⟨_, ?_, ?_, MemoryDriver.receivePacket_waiting sound.runs
    sound.queued.toReady healthy waiting⟩
  · split
    · exact (Bank.isSet_reset _ _).trans (if_neg (sound.event_eq ▸ apart))
    · rfl
  · cases drained : entry.inbound.delivering.isDrained with
    | true =>
        exact (Bank.isSet_reset _ _).trans (if_pos sound.event_eq.symm)
    | false =>
        have behind := sound.queued.isDrained_eq_false_iff.mp waiting
        exact sound.tells.mpr (.inr behind)

/-- A thread gets the next packet if one is queued. -/
theorem Sound.play_receiving_of_waiting
    (phase : pump.phase = .taking)
    (healthy : entry.failed = false)
    (waiting : entry.inbound.isDrained = false) :
    Leads name id session [.pump]
      ⟨host, { pump, midway := .receiving }, accepted⟩ entry
      (play handler name ⟨host, { pump, midway := .receiving }, accepted⟩
        .pump) := by
  obtain ⟨signals, shut, read, asked⟩ :=
    sound.receivePacket_waiting apart healthy waiting
  have found := sound.found
  dsimp only at found
  have delivering := sound.queued.delivering waiting
  have placed : Attends name id session host.sessions
      (host.driver.placed session.handle.number
        { entry with inbound := entry.inbound.delivering } signals)
      _ stats := sound.toAttends.placed (by rfl) signals
  simp only [play, PumpThread.step, PumpThread.receive, bind_apply,
    value_session?, state_session?, found, value_ask, state_ask, asked,
    pure_apply]
  refine ⟨_, stats, 1, [], { placed with
    own := sound.own
    queued := delivering
    seen_eq := sound.seen_eq
    received_eq := sound.received_eq
    held := sound.held
    numbered := sound.numbered
    tells := ?_
    stage := .received phase ?_ }, ?_⟩
  · change signals.isSet _ = true ↔ entry.failed = true ∨ _
    rw [read, Bool.not_eq_true', delivering.isDrained_eq_false_iff, healthy]
    exact (or_iff_right Bool.false_ne_true).symm
  · exact congrArg _ sound.queued.read_eq
  · exact ⟨fun before => shut.trans before,
      fun after => .inl (shut.symm.trans after), .inl, fun _ => Nat.le_refl _⟩

end Receiving

/-- A thread asks the driver for the next packet. -/
theorem Sound.play_receiving
    {host : Host MemoryDriver}
    {pump : ReadPump}
    {accepted : List Bytes}
    (apart : session.shutdownEvent.number ≠ session.readEvent.number)
    (sound : Sound name id session
      ⟨host, { pump, midway := .receiving }, accepted⟩ entry stats 0 [])
    (phase : pump.phase = .taking) :
    Leads name id session [.pump]
      ⟨host, { pump, midway := .receiving }, accepted⟩ entry
      (play handler name ⟨host, { pump, midway := .receiving }, accepted⟩
        .pump) := by
  cases failed : entry.failed with
  | true => exact sound.play_receiving_of_failed failed
  | false =>
      cases drained : entry.inbound.isDrained with
      | true => exact sound.play_receiving_of_drained apart failed drained
      | false => exact sound.play_receiving_of_waiting apart phase failed drained

/-- A thread counts and holds the packet that it was lent. -/
theorem Sound.play_received
    {host : Host MemoryDriver}
    {pump : ReadPump}
    {raw : RawPacket}
    {accepted : List Bytes}
    (sound : Sound name id session
      ⟨host, { pump, midway := .received raw }, accepted⟩ entry stats 1 [])
    (lent : raw = packetAt session.handle .inbound entry.inbound
      pump.delivered) :
    Leads name id session [.pump]
      ⟨host, { pump, midway := .received raw }, accepted⟩ entry
      (play handler name ⟨host, { pump, midway := .received raw }, accepted⟩
        .pump) := by
  obtain rfl : pump.session = id := sound.own
  simp only [play, PumpThread.step, PumpThread.hold, keepPacket, bind_apply,
    state_count, state_freshNumber, value_freshNumber, Action.state_trace,
    Action.state_change, pure_apply]
  refine ⟨entry, _, 1, [host.lastNumber + 1],
    { sound.toAttends.counted (·.recordReceived raw.length) with
    own := rfl
    queued := sound.queued
    seen_eq := sound.seen_eq
    received_eq := ?_
    held := fun packet held found mine inbound => ?_
    numbered := fun packet held found => ?_
    tells := sound.tells
    stage := .handing rfl ?_ }, fun shut => shut, .inl, .inl,
    fun _ => Nat.le_refl _⟩
  · have counted : stats.packetsReceived = UInt64.ofNat pump.delivered :=
      sound.received_eq
    change stats.packetsReceived + 1 = UInt64.ofNat (pump.delivered + 1)
    rw [counted, UInt64.ofNat_add]
    rfl
  · change (host.packets.insert (host.lastNumber + 1) _).get? packet = _ at found
    rw [Table.get?_insert] at found
    split at found
    case isTrue new => exact List.mem_singleton.mpr new
    case isFalse => cases sound.held packet held found mine inbound
  · change (host.packets.insert (host.lastNumber + 1) _).get? packet = _ at found
    rw [Table.get?_insert] at found
    split at found
    case isTrue new => exact Nat.le_of_eq new
    case isFalse => exact Nat.le_succ_of_le (sound.numbered packet held found)
  · change (host.packets.insert (host.lastNumber + 1) _).get? _ = _
    rw [Table.get?_insert, if_pos rfl, lent]
    rfl

/-- A thread calls the handler with the packet that it holds. -/
theorem Sound.play_handing
    {host : Host MemoryDriver}
    {pump : ReadPump}
    {packet : PacketId}
    {accepted : List Bytes}
    (harmless : Harmless name id session handler)
    (sound : Sound name id session ⟨host, { pump }, accepted⟩ entry stats 1
      [packet])
    (phase : pump.phase = .handing packet)
    (held : host.packets.get? packet =
      some (heldAt id session entry.inbound pump.delivered)) :
    Leads name id session [.pump] ⟨host, { pump }, accepted⟩ entry
      (play handler name ⟨host, { pump }, accepted⟩ .pump) := by
  have queued := sound.queued
  have inside : pump.delivered < accepted.length := by
    have read_le := queued.read_le_head
    rw [queued.read_eq, queued.head_eq] at read_le
    exact read_le
  have shown := List.getElem?_eq_getElem inside
  have content := sound.packetBytes_heldAt queued shown
  obtain ⟨value, spares⟩ := harmless accepted[pump.delivered] host sound.numbered
  obtain ⟨outbound, later, received, attends⟩ := sound.toAttends.spared spares
  simp only [play, PumpThread.step, phase, PumpThread.call, bind_apply,
    value_packet?, state_packet?, held, Action.value_inspect,
    Action.state_inspect, content, value, pure_apply]
  refine ⟨_, later, 1, [packet], { attends with
    own := sound.own
    queued
    seen_eq := sound.seen_eq
    received_eq := received.trans sound.received_eq
    held := fun other held found mine inbound =>
      sound.held other held ((spares.packets other held mine inbound).mp found)
        mine inbound
    numbered := spares.numbered
    tells := spares.isSet_readEvent ▸ sound.tells
    stage := .handled phase ((spares.packets _ _ rfl rfl).mpr held) shown },
    fun shut => ?_, fun shut => .inl ?_, .inl, fun _ => ?_⟩
  · exact spares.isSet_shutdownEvent.trans shut
  · exact spares.isSet_shutdownEvent.symm.trans shut
  · simp [threadAfter, PumpThread.seen, PumpThread.ahead, phase]

/-- A thread gives the packet back that was handed on. -/
theorem Sound.play_handled
    {host : Host MemoryDriver}
    {pump : ReadPump}
    {packet : PacketId}
    {content : Bytes}
    {accepted : List Bytes}
    (sound : Sound name id session
      ⟨host, { pump, midway := .handled packet content (.ok ()) }, accepted⟩
      entry stats 1 [packet])
    (held : host.packets.get? packet =
      some (heldAt id session entry.inbound pump.delivered))
    (shown : accepted[pump.delivered]? = some content) :
    Leads name id session [.pump]
      ⟨host, { pump, midway := .handled packet content (.ok ()) }, accepted⟩
      entry
      (play handler name
        ⟨host, { pump, midway := .handled packet content (.ok ()) }, accepted⟩
        .pump) := by
  obtain rfl : pump.session = id := sound.own
  have finished := sound.state_finishPacket sound.queued held
  have placed := @Attends.placed _ _ _ _ _ _ _ sound.toAttends
    (returned entry pump.delivered) rfl host.driver.signals
  simp only [play, PumpThread.step, PumpThread.giveBack, bind_apply, finished,
    pure_apply]
  refine ⟨_, stats, 0, [], { placed with
    own := rfl
    queued := sound.queued.released
    seen_eq := ?_
    received_eq := sound.received_eq
    held := fun other held found mine inbound => ?_
    numbered := fun other held found =>
      sound.numbered other held (Table.of_get?_erase found).2
    tells := sound.tells
    stage := .taking rfl }, fun shut => shut, .inl, .inl, fun _ => ?_⟩
  · have seen : pump.seen = accepted.take pump.delivered := sound.seen_eq
    change pump.seen ++ [content] = accepted.take (pump.delivered + 1)
    rw [seen, List.take_add_one, shown]
    rfl
  · -- The only packet that was held is the one that went back.
    obtain ⟨differs, before⟩ := Table.of_get?_erase found
    have same := sound.held other held before mine inbound
    exact absurd (List.mem_singleton.mp same) differs
  · exact Nat.le_refl _

/-- Every move leads on. -/
theorem Sound.play
    (apart : session.shutdownEvent.number ≠ session.readEvent.number)
    (harmless : Harmless name id session handler)
    (sound : Sound name id session pumping entry stats out mine)
    (move : PumpMove) :
    Leads name id session [move] pumping entry
      (pumping.play handler name move) := by
  cases move with
  | inject content => exact sound.play_inject apart content
  | fail => exact sound.play_fail apart
  | shutdown => exact sound.play_shutdown apart
  | pump =>
      obtain ⟨host, thread, accepted⟩ := pumping
      have stage := sound.stage
      dsimp only at stage
      cases stage with
      | waiting phase awaits => exact sound.play_waiting phase awaits
      | taking phase => exact sound.play_taking phase
      | receiving phase => exact sound.play_receiving apart phase
      | received _ lent => exact sound.play_received lent
      | handing phase held => exact sound.play_handing harmless phase held
      | handled _ held shown => exact sound.play_handled held shown
      | @finished pump phase =>
          have same : play handler name ⟨host, { pump }, accepted⟩ .pump =
              ⟨host, { pump }, accepted⟩ := by
            simp only [Pumping.play, PumpThread.step, phase, ReadPump.step,
              bind_apply, pure_apply]
            rfl
          rw [same]
          exact sound.leads_of_same _

end Pumping
end Host
end VirtualAdapter

import VirtualAdapter.Host.Manager
import VirtualAdapter.Proofs.Host.Outcomes
import VirtualAdapter.Proofs.Host.PumpAccesses

/-!
# Packets are handed on in order

Every move leads from a state in order to another one, so every schedule does.
Read at the end of a schedule, this says what the handler was given, when the
pump stops, what it has left behind then, and that it does not sleep while it
has something to do.
-/

namespace VirtualAdapter
namespace Host

open VirtualAdapter.Action (bind_apply pure_apply)
open Memory (MemoryDriver RunningSession)
open Memory.MemoryDriver (Distinct)
open VirtualAdapter.Ring (PacketRing)
open VirtualAdapter.Ring.PacketRing (Ready)

namespace Pumping

variable
  {name : String}
  {id : SessionId}
  {session : Session}
  {entry : RunningSession}
  {stats : SessionStats}
  {pumping : Pumping}
  {out : Nat}
  {mine : List PacketId}
  {handler : Handler MemoryDriver}
  {host : Host MemoryDriver}

/-! ## Where a pump starts -/

/-- A session that was just started, for which nothing was put in yet. -/
structure Fresh
    (name : String)
    (id : SessionId)
    (session : Session)
    (host : Host MemoryDriver)
    (entry : RunningSession) : Prop
    extends Attends name id session host.sessions host.driver entry
      session.stats where
  /-- The shutdown has an event of its own. -/
  apart : session.shutdownEvent.number ≠ session.readEvent.number
  /-- The session was not shut down. -/
  unshut : host.driver.signals.isSet session.shutdownEvent.number = false
  /-- Nobody was told of a packet. -/
  unread : host.driver.signals.isSet session.readEvent.number = false
  /-- The device is there. -/
  healthy : entry.failed = false
  /-- The inbound ring is in order. -/
  ready : Ready entry.inbound
  /-- Nothing was put in. -/
  empty : entry.inbound.head = 0
  /-- Nothing was received. -/
  uncounted : session.stats.packetsReceived = 0
  /-- The host holds no packet that was received on the session. -/
  unheld : ∀ packet held, host.packets.get? packet = some held →
    held.session = id → held.direction ≠ .inbound
  /-- New packets get new numbers. -/
  numbered : Numbered host

theorem Fresh.sound (fresh : Fresh name id session host entry) :
    Sound name id session (.ofSession host id) entry session.stats 0 [] :=
  { fresh.toAttends with
    own := rfl
    queued := fresh.ready.queued fresh.empty
    seen_eq := rfl
    received_eq := fresh.uncounted
    held := fun packet held found mine inbound =>
      absurd inbound (fresh.unheld packet held found mine)
    numbered := fresh.numbered
    tells := iff_of_false (Bool.eq_false_iff.mp fresh.unread)
      (by simp [ofSession, fresh.healthy])
    stage := .waiting rfl awaits_new }

/-- The session that a start has launched is fresh. -/
theorem fresh_launched
    {adapter : AdapterId}
    {device : Nat}
    {capacity : UInt32}
    {config : SessionConfig}
    (distinct : Distinct (host.driver.started device capacity))
    (positive : 0 < capacity.toNat)
    (named : (host.driver.started device capacity).runsUnder
      (host.driver.lastNumber + 1) name = true)
    (earlier : ∀ packet held, host.packets.get? packet = some held →
      packet ≤ host.lastNumber ∧ held.session ≤ host.lastNumber) :
    ∃ session entry, Fresh name (host.lastNumber + 1) session
      (host.launched adapter device capacity config) entry := by
  let session : Session :=
    { adapter, handle := ⟨host.driver.lastNumber + 1⟩
      readEvent := ⟨host.driver.signals.nextSignal⟩
      shutdownEvent := ⟨host.driver.signals.nextSignal + 1⟩
      capacity, config }
  have kept : (host.launched adapter device capacity config).sessions.get?
      (host.lastNumber + 1) = some session :=
    (Table.get?_insert _ _ _ _).trans (if_pos rfl)
  have runs := (MemoryDriver.get?_sessions_started host.driver device capacity
    (host.driver.lastNumber + 1)).trans (if_pos rfl)
  refine ⟨session, { device, inbound := .ofCapacity capacity
                     outbound := .ofCapacity capacity
                     readEvent := host.driver.signals.nextSignal
                     failed := false }, ?_⟩
  constructor
  case toAttends =>
    refine ⟨kept, runs, fun number found leads => ?_, rfl⟩
    have known := distinct.sessionFor?_eq_some_iff.mpr ⟨runs, named⟩
    change (host.driver.started device capacity).sessionFor? name = _ at leads
    exact congrArg Prod.fst (Option.some.inj (leads.symm.trans known))
  case apart => exact Nat.succ_ne_self _
  case unshut => exact (Signal.Bank.isSet_newSignal _).trans (if_pos rfl)
  case unread =>
    exact (Signal.Bank.isSet_newSignal _).trans
      ((if_neg (Nat.succ_ne_self _).symm).trans
        ((Signal.Bank.isSet_newSignal _).trans (if_pos rfl)))
  case healthy => rfl
  case ready => exact PacketRing.ready_ofCapacity positive
  case empty => rfl
  case uncounted => rfl
  case unheld =>
    intro packet held found mine
    exact absurd (mine ▸ (earlier packet held found).2) (Nat.not_succ_le_self _)
  case numbered =>
    exact fun packet held found => Nat.le_succ_of_le (earlier packet held found).1

/-! ## Every schedule -/

theorem Follows.trans
    {earlier later : List PumpMove}
    {before between after : Pumping}
    {first second third : RunningSession}
    (follows : Follows session earlier before first between second)
    (goes : Follows session later between second after third) :
    Follows session (earlier ++ later) before first after third where
  shut_stays shut := goes.shut_stays (follows.shut_stays shut)
  shut_new shut := by
    rcases goes.shut_new shut with already | now
    · exact (follows.shut_new already).imp_right
        (List.mem_append_left later)
    · exact .inr (List.mem_append_right earlier now)
  failed_new failed := by
    rcases goes.failed_new failed with already | now
    · exact (follows.failed_new already).imp_right
        (List.mem_append_left later)
    · exact .inr (List.mem_append_right earlier now)
  calls_le shut := (goes.calls_le (follows.shut_stays shut)).trans
    (follows.calls_le shut)

/-- Every schedule leads on. -/
theorem Sound.playAll
    (apart : session.shutdownEvent.number ≠ session.readEvent.number)
    (harmless : Harmless name id session handler)
    (sound : Sound name id session pumping entry stats out mine)
    (moves : List PumpMove) :
    Leads name id session moves pumping entry
      (pumping.playAll handler name moves) := by
  induction moves generalizing pumping entry stats out mine with
  | nil => exact sound.leads_of_same []
  | cons move moves hypothesis =>
      obtain ⟨changed, stats, out, mine, next, follows⟩ :=
        sound.play apart harmless move
      obtain ⟨last, stats, out, mine, final, goes⟩ := hypothesis next
      exact ⟨last, stats, out, mine, final, follows.trans goes⟩

/-! ## What holds at the end of a schedule -/

/-- After a shutdown at most one more call starts. -/
theorem Sound.calls_le_of_shutdown
    (apart : session.shutdownEvent.number ≠ session.readEvent.number)
    (harmless : Harmless name id session handler)
    (sound : Sound name id session pumping entry stats out mine)
    (moves : List PumpMove) :
    (pumping.playAll handler name (.shutdown :: moves)).thread.seen.length ≤
      pumping.thread.seen.length + 1 := by
  obtain ⟨_, _, _, _, shut, _⟩ := sound.play apart harmless .shutdown
  obtain ⟨_, _, _, _, _, follows⟩ := shut.playAll apart harmless moves
  have calls := follows.calls_le sound.isShut_play_shutdown
  have ahead := pumping.thread.ahead_le_one
  -- The shutdown itself leaves the thread alone.
  change _ ≤ pumping.thread.seen.length + pumping.thread.ahead at calls
  change (((pumping.play handler name .shutdown).playAll handler name
    moves).thread.seen).length ≤ _
  omega

/-- The handler was given a beginning of what was accepted. -/
theorem Sound.seen_prefix
    (sound : Sound name id session pumping entry stats out mine) :
    pumping.thread.seen <+: pumping.accepted := by
  obtain ⟨host, thread, accepted⟩ := pumping
  have seen := sound.seen_eq
  have stage := sound.stage
  dsimp only at stage seen
  cases stage with
  | handled phase held shown =>
      change _ ++ [_] <+: accepted
      rw [seen, ← Option.toList_some, ← shown, ← List.take_add_one]
      exact List.take_prefix _ _
  | _ =>
      rw [PumpThread.seen, seen]
      exact List.take_prefix _ _

/-- Between two calls the handler was given what came back. -/
theorem Sound.length_seen
    (sound : Sound name id session pumping entry stats 0 []) :
    pumping.thread.seen.length = pumping.thread.pump.delivered := by
  rw [sound.stage.seen_eq, sound.seen_eq, List.length_take]
  exact Nat.min_eq_left sound.delivered_le

/-- What a pump leaves behind that is over. -/
structure Ended
    (id : SessionId)
    (session : Session)
    (pumped : Pumping)
    (entry : RunningSession)
    (stats : SessionStats) : Prop where
  /-- The host has the session. -/
  kept : pumped.host.sessions.get? id = some { session with stats }
  /-- The driver has it. -/
  runs : pumped.host.driver.sessions.get? session.handle.number = some entry
  /-- It was shut down, or the device was taken away. -/
  cause : pumped.isShut session = true ∨ entry.failed = true
  /-- The pump tells how often it has called the handler. -/
  result_eq : pumped.thread.pump.result? =
    some (.ok pumped.thread.seen.length)
  /-- As many packets are counted as received. -/
  received_eq : stats.packetsReceived = UInt64.ofNat pumped.thread.seen.length
  /-- The driver has every packet back. -/
  returned : entry.inbound.count .delivered = 0
  /-- The host holds none. -/
  unheld : ∀ packet held, pumped.host.packets.get? packet = some held →
    held.session = id → held.direction ≠ .inbound
  /-- What was not handed on is queued. -/
  contents_eq : entry.inbound.contents =
    (pumped.accepted.drop pumped.thread.seen.length).map (·, .committed)

theorem Sound.ended
    (sound : Sound name id session pumping entry stats out mine)
    (finished : pumping.thread.pump.isFinished = true) :
    Ended id session pumping entry stats := by
  obtain ⟨host, thread, accepted⟩ := pumping
  have stage := sound.stage
  dsimp only at stage finished
  cases stage with
  | finished phase cause =>
      have length := sound.length_seen
      dsimp only at length phase
      exact {
        kept := sound.kept
        runs := sound.runs
        cause
        result_eq := by
          simp only [ReadPump.result?, phase]
          rw [length]
        received_eq := by rw [length]; exact sound.received_eq
        returned := sound.queued.count_delivered
        unheld := fun packet held found mine inbound => by
          cases sound.held packet held found mine inbound
        contents_eq := by rw [length]; exact sound.queued.contents_eq }
  | waiting phase | taking phase | receiving phase | received phase
  | handing phase | handled phase =>
      simp only [ReadPump.isFinished, phase, Bool.false_eq_true] at finished

/-- A thread that sleeps has handed everything on and is not to stop. -/
theorem Sound.of_asleep
    (sound : Sound name id session pumping entry stats out mine)
    {next : PumpThread}
    {moment : Option Signal.Nanoseconds}
    (asleep : (pumping.thread.step handler pumping.host).value =
      .asleep next moment) :
    pumping.thread.seen = pumping.accepted ∧ pumping.isShut session = false := by
  obtain ⟨host, thread, accepted⟩ := pumping
  have stage := sound.stage
  dsimp only at stage asleep
  cases stage with
  | @waiting pump call phase awaits =>
      obtain ⟨signals, isSet, _, stepped⟩ := awaits.step_cases sound.kept
      cases progress : call.step host with
      | mk value after notes =>
        rw [progress] at stepped
        simp only [PumpThread.step, phase, ReadPump.step, bind_apply, progress,
          pure_apply] at asleep
        dsimp only at stepped
        cases stepped with
        | asleep awaits moment unread unshut =>
            -- A set event would have kept the thread awake.
            rw [isSet] at unread unshut
            have nothing := mt sound.tells.mpr (Bool.eq_false_iff.mp unread)
            have drained := (not_or.mp nothing).2
            have seen := sound.seen_eq
            dsimp only at seen drained
            refine ⟨?_, unshut⟩
            rw [sound.stage.seen_eq, seen]
            exact List.take_of_length_le (Nat.le_of_not_lt drained)
        | running | readable => cases asleep
        | ended =>
            simp only [bind_apply, pure_apply, Progress.map,
              reduceCtorEq] at asleep
  | finished phase =>
      simp only [PumpThread.step, phase, ReadPump.step, bind_apply, pure_apply]
        at asleep
      cases asleep
  | taking phase | handing phase =>
      simp only [PumpThread.step, phase, bind_apply, pure_apply] at asleep
      cases asleep
  | receiving | received | handled =>
      simp only [PumpThread.step, bind_apply, pure_apply] at asleep
      cases asleep

/-- Whatever the order in which a fresh session is pumped, packets are put in,
the device is taken away and the session is shut down: the handler was called
with a beginning of what the driver has accepted, in order and once for each
packet, and with all of it while the pump sleeps, which it does not after a
shutdown; at most one call starts after a shutdown; and the pump leaves its loop
only once the session was shut down or the device was taken away, with all calls
counted, no packet kept and the others still queued in order. -/
theorem pumped_in_order
    (fresh : Fresh name id session host entry)
    (harmless : Harmless name id session handler)
    (moves : List PumpMove) :
    let pumped := (ofSession host id).playAll handler name moves
    pumped.thread.seen <+: pumped.accepted ∧
    (∀ next moment,
      (pumped.thread.step handler pumped.host).value = .asleep next moment →
        pumped.thread.seen = pumped.accepted ∧
          pumped.isShut session = false) ∧
    (∀ before after, moves = before ++ .shutdown :: after →
      pumped.thread.seen.length ≤
        ((ofSession host id).playAll handler name before).thread.seen.length +
          1) ∧
    (pumped.thread.pump.isFinished = true →
      (.shutdown ∈ moves ∨ .fail ∈ moves) ∧
      ∃ entry stats, Ended id session pumped entry stats) := by
  obtain ⟨last, stats, out, mine, sound, follows⟩ :=
    fresh.sound.playAll fresh.apart harmless moves
  refine ⟨sound.seen_prefix, fun _ _ => sound.of_asleep, ?_, fun finished => ?_⟩
  · rintro before after rfl
    obtain ⟨_, _, _, _, first, _⟩ :=
      fresh.sound.playAll fresh.apart harmless before
    rw [playAll_append]
    exact first.calls_le_of_shutdown fresh.apart harmless after
  · have ended := sound.ended finished
    refine ⟨ended.cause.imp (fun shut => ?_) fun failed => ?_, last, stats,
      ended⟩
    · exact (follows.shut_new shut).resolve_left
        (Bool.eq_false_iff.mp fresh.unshut)
    · exact (follows.failed_new failed).resolve_left
        (Bool.eq_false_iff.mp fresh.healthy)

/-- A handler that forgets what it is given. -/
theorem harmless_discard :
    Harmless name id session fun _ => return .ok () :=
  fun _ _ numbered => ⟨rfl, fun stats kept => ⟨stats, kept, rfl⟩,
    fun entry runs => ⟨entry.outbound, runs⟩, fun _ found leads => ⟨found, leads⟩,
    rfl, rfl, fun _ _ _ _ => Iff.rfl, numbered⟩

/-- A host on which a session was started on an adapter. -/
def oneSession : Host MemoryDriver :=
  Action.after (do
    let _ ← newManager { logger := .disabled }
    let _ ← createAdapter 1 { name := "tun" }
    startSession 2 { ringCapacity := some 4 }) { driver := {} }

/-- Three packets are put in.  After the first one was handed on, the session is
shut down between the thread's look at the shutdown and its question to the
driver. -/
def shutLate : List PumpMove :=
  [.inject [1], .inject [2], .inject [3]] ++ List.replicate 17 .pump ++
    .shutdown :: List.replicate 8 .pump

/-- The second packet is still handed on, the third one stays queued. -/
theorem pumped_in_order_of_shutdown :
    ∃ session entry,
      Fresh "tun" 3 session oneSession entry ∧
      Harmless "tun" 3 session (fun _ => return .ok ()) ∧
      let pumped := (ofSession oneSession 3).playAll (fun _ => return .ok ())
        "tun" shutLate
      pumped.thread.seen = [[1], [2]] ∧
      pumped.thread.seen <+: pumped.accepted ∧
      ∃ entry stats, Ended 3 session pumped entry stats ∧
        entry.inbound.contents = [([3], .committed)] := by
  let session : Session :=
    { adapter := 2, handle := ⟨3⟩, readEvent := ⟨0⟩, shutdownEvent := ⟨1⟩
      capacity := 4, config := { ringCapacity := some 4 } }
  have leads : ∀ number found,
      oneSession.driver.sessionFor? "tun" = some (number, found) →
        number = 3 := by
    intro number found leads
    have known : (oneSession.driver.sessionFor? "tun").map Prod.fst = some 3 := by
      decide +kernel
    rw [leads] at known
    exact Option.some.inj known
  have fresh : Fresh "tun" 3 session oneSession
      { device := 1, inbound := .ofCapacity 4, outbound := .ofCapacity 4
        readEvent := 0, failed := false } :=
    { kept := rfl
      runs := rfl
      leads
      event_eq := rfl
      apart := by decide
      unshut := by decide +kernel
      unread := by decide +kernel
      healthy := rfl
      ready := PacketRing.ready_ofCapacity (by decide)
      empty := rfl
      uncounted := rfl
      unheld := fun _ _ found => by cases found
      numbered := fun _ _ found => by cases found }
  obtain ⟨ordered, _, _, ends⟩ := pumped_in_order fresh harmless_discard shutLate
  obtain ⟨_, entry, stats, ended⟩ := ends (by decide +kernel)
  refine ⟨session, _, fresh, harmless_discard, by decide +kernel, ordered, entry,
    stats, ended, ended.contents_eq.trans ?_⟩
  decide +kernel

end Pumping
end Host
end VirtualAdapter

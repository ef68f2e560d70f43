import VirtualAdapter.Proofs.Host.Receipts
import VirtualAdapter.Proofs.Host.Refusals
import VirtualAdapter.Proofs.Memory.Loans

/-!
# Calls on their way among others

A call on a session takes its steps one by one.  Between two of them the
network side puts packets in, takes out what was sent or takes the device away,
somebody sets or resets an event or shuts a session down, and time passes.  What
of this concerns the rings of the session is kept beside the call.
-/

namespace VirtualAdapter
namespace Host

open VirtualAdapter.Action (bind_apply)
open Memory (MemoryDriver Request RunningSession)
open Pumping (Unmoved Unmoving)
open Signal (Nanoseconds)
open VirtualAdapter.Ring (PacketRing)

/-! ## Rings while others put in and take out -/

/-- The ring after several packets were put in, first ones first. -/
def filledAll (ring : PacketRing) (contents : List Bytes) : PacketRing :=
  contents.foldl PacketRing.filled ring

theorem filledAll_append
    (ring : PacketRing)
    (earlier later : List Bytes) :
    filledAll ring (earlier ++ later) =
      filledAll (filledAll ring earlier) later :=
  List.foldl_append

/-- What is taken out of a ring was its beginning. -/
theorem drained_append_contents
    {ring : PacketRing}
    (layout : ring.Layout)
    (passed : ring.read = ring.tail) :
    (ring.drain (ring.head - ring.read)).1.map (·, .committed) ++
        (ring.drain (ring.head - ring.read)).2.contents =
      ring.contents := by
  obtain ⟨taken, drained⟩ := PacketRing.drain_eq layout passed rfl
  have committed : ring.drainable.map (fun entry => (entry.1, .committed)) =
      ring.drainable := by
    refine (List.map_congr_left fun entry member => ?_).trans (List.map_id _)
    have state := List.mem_takeWhile_imp member
    exact Prod.ext rfl (of_decide_eq_true state).symm
  rw [taken, drained.contents_eq, List.map_map]
  exact (congrArg (· ++ _) committed).trans
    (List.prefix_iff_eq_append.mp (List.takeWhile_prefix _))

/-! ## What others do -/

/-- What others do between two steps of a call. -/
inductive Interlude
  /-- The network side puts a packet in. -/
  | inject (name : String) (content : Bytes)
  /-- The network side takes out what was sent. -/
  | drain (name : String)
  /-- The network side takes a device away. -/
  | fail (name : String)
  /-- A session is shut down. -/
  | shutdown (session : SessionId)
  /-- An event is set. -/
  | signal (event : EventHandle)
  /-- An event is reset. -/
  | silence (event : EventHandle)
  /-- Time passes. -/
  | pass (moment : Nanoseconds)

namespace Interlude

/-- The host afterwards. -/
def after (host : Host MemoryDriver) : Interlude → Host MemoryDriver
  | inject name content => (ask (MemoryDriver.inject name content) host).state
  | drain name => (ask (MemoryDriver.drainOutbound name) host).state
  | fail name => (ask (MemoryDriver.failSession name) host).state
  | shutdown session => (Host.shutdown session host).state
  | signal event => (ask (Driver.setEvent event) host).state
  | silence event => (ask (Driver.resetEvent event) host).state
  | pass moment => (passTime moment host).state

/-- What is put in for a session. -/
def injected
    (number : Nat)
    (host : Host MemoryDriver) : Interlude → List Bytes
  | inject name content =>
      if host.driver.target? (.inject name content) = some number ∧
          (MemoryDriver.inject name content host.driver).value = true then
        [content]
      else []
  | _ => []

/-- What is taken out of what was sent on a session. -/
def drained
    (number : Nat)
    (host : Host MemoryDriver) : Interlude → List Bytes
  | drain name =>
      if host.driver.target? (.drainOutbound name) = some number then
        (MemoryDriver.drainOutbound name host.driver).value
      else []
  | _ => []

end Interlude

/-! ## Errands -/

/-- The next step of a call is a try to send. -/
def Blocking.isTry : Blocking → Bool
  | send call =>
      match call.phase with
      | .trying _ => true
      | .resting _ _ => false
  | sendInterruptible call =>
      match call.phase with
      | .trying => true
      | .beginning | .waiting _ => false
  | sendAsync future => future.restingUntil.isNone
  | receive _ | copy _ _ | wait _ | receiveAsync _ => false

/-- A call is a try to send as soon as it is made. -/
def Entry.isTry : Entry → Bool
  | trySend _ => true
  | _ => false

/-- A step that a call has taken. -/
structure Taken where
  /-- It was a try to send. -/
  isTry : Bool
  /-- The host in which it was taken. -/
  host : Host MemoryDriver

/-- A call on its way, with what was done for it and meanwhile. -/
structure Errand where
  /-- Where the call is. -/
  opened : Opened
  /-- The host with its driver. -/
  host : Host MemoryDriver
  /-- The steps that the call has taken, first ones first. -/
  steps : List Taken := []
  /-- What was put in for the session meanwhile, first things first. -/
  injected : List Bytes := []
  /-- What was taken out of what was sent on it, first things first. -/
  drained : List Bytes := []

/-- Who does something next. -/
inductive ErrandMove
  /-- The call takes a step. -/
  | step
  /-- Others do something. -/
  | interlude (other : Interlude)

/-- Where a call is after a step. -/
def Opened.ofProgress : Progress Blocking BlockingResult → Opened
  | .running call | .asleep call _ => .going call
  | .finished result => .finished result

namespace Errand

/-- A call is made on a session. -/
def start
    (id : SessionId)
    (entry : Entry)
    (host : Host MemoryDriver) : Errand where
  opened := (entry.begin id host).value
  host := (entry.begin id host).state
  steps := if entry.isTry then [⟨true, host⟩] else []

/-- The call has taken a step. -/
def stepped
    (errand : Errand)
    (isTry : Bool)
    (opened : Opened)
    (host : Host MemoryDriver) : Errand :=
  { errand with
    opened, host
    steps := errand.steps ++ [⟨isTry, errand.host⟩] }

/-- Others have done something. -/
def visited (errand : Errand) (number : Nat) (other : Interlude) : Errand :=
  { errand with
    host := other.after errand.host
    injected := errand.injected ++ other.injected number errand.host
    drained := errand.drained ++ other.drained number errand.host }

/-- What becomes of an errand; nothing once the call is over. -/
def play (number : Nat) (errand : Errand) (move : ErrandMove) : Errand :=
  match errand.opened with
  | .finished _ => errand
  | .going call =>
      match move with
      | .step =>
          errand.stepped call.isTry (.ofProgress (call.step errand.host).value)
            (call.step errand.host).state
      | .interlude other => errand.visited number other

section Play

variable {errand : Errand} {number : Nat}

theorem play_of_finished
    {result : BlockingResult}
    (ends : errand.opened = .finished result)
    (move : ErrandMove) : errand.play number move = errand := by
  unfold play
  rw [ends]

variable {call : Blocking} (goes : errand.opened = .going call)

include goes

theorem play_step :
    errand.play number .step =
      errand.stepped call.isTry (.ofProgress (call.step errand.host).value)
        (call.step errand.host).state := by
  unfold play
  rw [goes]

theorem play_interlude (other : Interlude) :
    errand.play number (.interlude other) = errand.visited number other := by
  unfold play
  rw [goes]

end Play

/-- What becomes of an errand, first moves first. -/
def playAll (number : Nat) (errand : Errand) (moves : List ErrandMove) : Errand :=
  moves.foldl (play number) errand

/-- What every move keeps holds of the whole errand. -/
theorem playAll_induction
    {holds : Errand → Prop}
    {number : Nat}
    (keeps : ∀ errand move, holds errand → holds (errand.play number move))
    {errand : Errand}
    (starts : holds errand)
    (moves : List ErrandMove) : holds (errand.playAll number moves) := by
  induction moves generalizing errand with
  | nil => exact starts
  | cons move moves hypothesis => exact hypothesis (keeps errand move starts)

end Errand

/-! ## The session of an errand -/

/-- The host and the driver have a session, and its rings are in order. -/
structure Serves
    (id : SessionId)
    (session : Session)
    (host : Host MemoryDriver)
    (entry : RunningSession)
    (stats : SessionStats) : Prop where
  /-- The host has only counted since. -/
  kept : host.sessions.get? id = some { session with stats }
  /-- The driver has the session. -/
  runs : host.driver.sessions.get? session.handle.number = some entry
  /-- Its rings are in order. -/
  sound : MemoryDriver.Sound entry

variable
  {id : SessionId}
  {session : Session}
  {host : Host MemoryDriver}
  {entry : RunningSession}
  {stats : SessionStats}

namespace Serves

variable (serves : Serves id session host entry stats)

include serves

/-- No packet was moved. -/
theorem unmoved
    {after : Host MemoryDriver}
    (unmoved : Unmoved host after) : Serves id session after entry stats := by
  obtain ⟨signals, driver_eq⟩ := unmoved.driver_eq
  exact {
    kept := by
      rw [unmoved.sessions_eq]
      exact serves.kept
    runs := by
      rw [driver_eq]
      exact serves.runs
    sound := serves.sound }

/-- The driver has put the session in another state. -/
theorem placed
    {changed : RunningSession}
    (sound : MemoryDriver.Sound changed)
    (signals : Signal.Bank) :
    Serves id session
      { host with
        driver := host.driver.placed session.handle.number changed signals }
      changed stats where
  kept := serves.kept
  runs := (Table.get?_insert _ _ _ _).trans (if_pos rfl)
  sound := sound

/-- The host counts something. -/
theorem counted (step : SessionStats → SessionStats) :
    Serves id session (count id step host).state entry (step stats) where
  kept := by
    rw [state_count, Table.get?_update, if_pos rfl, serves.kept]
    rfl
  runs := serves.runs
  sound := serves.sound

/-- The driver does something for another session. -/
theorem elsewhere
    {driver : MemoryDriver}
    {request : Request}
    (touched : MemoryDriver.Touched host.driver request driver)
    (other : host.driver.target? request ≠ some session.handle.number) :
    Serves id session { host with driver } entry stats where
  kept := serves.kept
  runs := (touched.get?_of_ne other).trans serves.runs
  sound := serves.sound

/-- A name that leads to the session leads to it as it is. -/
theorem sessionFor?_eq
    {name : String}
    (aimed : (host.driver.sessionFor? name).map (·.1) =
      some session.handle.number) :
    host.driver.sessionFor? name = some (session.handle.number, entry) := by
  obtain ⟨⟨number, found⟩, leads, rfl⟩ := Option.map_eq_some_iff.mp aimed
  obtain rfl := Option.some.inj
    ((MemoryDriver.get?_of_sessionFor? leads).symm.trans serves.runs)
  exact leads

end Serves

/-- What others have done to a session between two hosts. -/
structure Visited
    (id : SessionId)
    (session : Session)
    (entry : RunningSession)
    (stats : SessionStats)
    (before after : Host MemoryDriver)
    (injected drained : List Bytes)
    (changed : RunningSession) : Prop
    extends Serves id session after changed stats where
  /-- Nothing else was put in. -/
  inbound_eq : changed.inbound = filledAll entry.inbound injected
  undelivered_eq : changed.inbound.undelivered =
    entry.inbound.undelivered ++ injected
  /-- Nothing else was taken out. -/
  contents_eq : drained.map (·, .committed) ++ changed.outbound.contents =
    entry.outbound.contents
  /-- Nothing was allocated. -/
  head_eq : changed.outbound.head = entry.outbound.head
  /-- No packet was borrowed or given back. -/
  packets_eq : after.packets = before.packets

namespace Serves

variable (serves : Serves id session host entry stats)

include serves

theorem visited_unmoved
    {after : Host MemoryDriver}
    (unmoved : Unmoved host after) :
    Visited id session entry stats host after [] [] entry where
  toServes := serves.unmoved unmoved
  inbound_eq := rfl
  undelivered_eq := (List.append_nil _).symm
  contents_eq := rfl
  head_eq := rfl
  packets_eq := unmoved.packets_eq

theorem visited_elsewhere
    {driver : MemoryDriver}
    {request : Request}
    (touched : MemoryDriver.Touched host.driver request driver)
    (other : host.driver.target? request ≠ some session.handle.number) :
    Visited id session entry stats host { host with driver } [] [] entry where
  toServes := serves.elsewhere touched other
  inbound_eq := rfl
  undelivered_eq := (List.append_nil _).symm
  contents_eq := rfl
  head_eq := rfl
  packets_eq := rfl

theorem visited_inject (name : String) (content : Bytes) :
    ∃ changed, Visited id session entry stats host
      ((Interlude.inject name content).after host)
      ((Interlude.inject name content).injected session.handle.number host) []
      changed := by
  by_cases aimed : host.driver.target? (.inject name content) =
      some session.handle.number
  · have ready := serves.sound.inbound
    rcases MemoryDriver.inject_cases ready content (serves.sessionFor?_eq aimed)
      with ⟨value, state⟩ | ⟨room, value, state⟩
    · refine ⟨entry, ?_⟩
      simp only [Interlude.after, Interlude.injected, state_ask, state, value,
        Bool.false_eq_true, and_false, if_false]
      exact serves.visited_unmoved (.refl host)
    · refine ⟨{ entry with inbound := entry.inbound.filled content }, ?_⟩
      simp only [Interlude.after, Interlude.injected, state_ask, state, value,
        aimed, and_self, if_true]
      exact {
        toServes := serves.placed (serves.sound.withInbound
          (ready.filled room content)
          ((serves.sound.counted .inbound).filled content)) _
        inbound_eq := rfl
        undelivered_eq := ready.undelivered_filled room content
        contents_eq := rfl
        head_eq := rfl
        packets_eq := rfl }
  · refine ⟨entry, ?_⟩
    simp only [Interlude.injected, aimed, false_and, if_false]
    exact serves.visited_elsewhere
      (host.driver.touched_inject name content) aimed

theorem visited_drain (name : String) :
    ∃ changed, Visited id session entry stats host
      ((Interlude.drain name).after host) []
      ((Interlude.drain name).drained session.handle.number host) changed := by
  by_cases aimed : host.driver.target? (.drainOutbound name) =
      some session.handle.number
  · have layout := serves.sound.outbound
    have passed := serves.sound.passed
    have taken := (PacketRing.drain_eq layout passed rfl).2
    have reply := MemoryDriver.drainOutbound_eq (serves.sessionFor?_eq aimed)
    refine ⟨{ entry with
      outbound := (entry.outbound.drain
        (entry.outbound.head - entry.outbound.read)).2 }, ?_⟩
    simp only [Interlude.after, Interlude.drained, state_ask, reply, aimed, if_true]
    exact {
      toServes := serves.placed (serves.sound.withOutbound taken.layout
        taken.read_eq ((serves.sound.counted .outbound).of_coeval
          (.drain layout passed _))) host.driver.signals
      inbound_eq := rfl
      undelivered_eq := (List.append_nil _).symm
      contents_eq := drained_append_contents layout passed
      head_eq := taken.head_eq
      packets_eq := rfl }
  · refine ⟨entry, ?_⟩
    simp only [Interlude.drained, aimed, if_false]
    exact serves.visited_elsewhere (host.driver.touched_drainOutbound name) aimed

theorem visited_fail (name : String) :
    ∃ changed, Visited id session entry stats host
      ((Interlude.fail name).after host) [] [] changed := by
  by_cases aimed : host.driver.target? (.failSession name) =
      some session.handle.number
  · refine ⟨{ entry with failed := true }, ?_⟩
    simp only [Interlude.after, state_ask, MemoryDriver.failSession,
      serves.sessionFor?_eq aimed]
    have sound : MemoryDriver.Sound { entry with failed := true } :=
      ⟨serves.sound.inbound, serves.sound.outbound, serves.sound.passed,
        serves.sound.counted⟩
    exact {
      toServes := serves.placed sound (host.driver.signals.set entry.readEvent)
      inbound_eq := rfl
      undelivered_eq := (List.append_nil _).symm
      contents_eq := rfl
      head_eq := rfl
      packets_eq := rfl }
  · exact ⟨entry, serves.visited_elsewhere
      (host.driver.touched_failSession name) aimed⟩

/-- Whatever others do, it is what is kept beside the call. -/
theorem visited (other : Interlude) :
    ∃ changed, Visited id session entry stats host (other.after host)
      (other.injected session.handle.number host)
      (other.drained session.handle.number host) changed := by
  cases other with
  | inject name content => exact serves.visited_inject name content
  | drain name => exact serves.visited_drain name
  | fail name => exact serves.visited_fail name
  | shutdown other =>
      refine ⟨entry, serves.visited_unmoved ?_⟩
      simp only [Interlude.after, Host.shutdown, bind_apply, value_session?,
        state_session?]
      cases host.sessions.get? other with
      | none => exact .refl host
      | some found => exact .withSignals host _
  | signal event => exact ⟨entry, serves.visited_unmoved (.withSignals host _)⟩
  | silence event => exact ⟨entry, serves.visited_unmoved (.withSignals host _)⟩
  | pass moment =>
      exact ⟨entry, serves.visited_unmoved (Unmoving.passTime moment host)⟩

end Serves

namespace Visited

variable
  {before after : Host MemoryDriver}
  {injected drained : List Bytes}
  {changed : RunningSession}

theorem refl (serves : Serves id session host entry stats) :
    Visited id session entry stats host host [] [] entry :=
  serves.visited_unmoved (.refl host)

variable
  (visited : Visited id session entry stats before host injected drained changed)

include visited

/-- Others have done more. -/
theorem trans
    {more taken : List Bytes}
    {last : RunningSession}
    (second : Visited id session changed stats host after more taken last) :
    Visited id session entry stats before after (injected ++ more)
      (drained ++ taken) last where
  toServes := second.toServes
  inbound_eq := by
    rw [second.inbound_eq, visited.inbound_eq, filledAll_append]
  undelivered_eq := by
    rw [second.undelivered_eq, visited.undelivered_eq, List.append_assoc]
  contents_eq := by
    rw [List.map_append, List.append_assoc, second.contents_eq, visited.contents_eq]
  head_eq := second.head_eq.trans visited.head_eq
  packets_eq := second.packets_eq.trans visited.packets_eq

/-- The host has counted something or moved no packet. -/
theorem serving
    {later : SessionStats}
    (serves : Serves id session after changed later)
    (packets_eq : after.packets = host.packets) :
    Visited id session entry later before after injected drained changed where
  toServes := serves
  inbound_eq := visited.inbound_eq
  undelivered_eq := visited.undelivered_eq
  contents_eq := visited.contents_eq
  head_eq := visited.head_eq
  packets_eq := packets_eq.trans visited.packets_eq

theorem unmoved (unmoved : Unmoved host after) :
    Visited id session entry stats before after injected drained changed :=
  visited.serving (visited.toServes.unmoved unmoved) unmoved.packets_eq

end Visited

/-- While a call has done nothing on its session, others have done what is kept
beside it. -/
abbrev Errand.Idles
    (id : SessionId)
    (session : Session)
    (entry : RunningSession)
    (stats : SessionStats)
    (before : Host MemoryDriver)
    (errand : Errand)
    (later : RunningSession) : Prop :=
  Visited id session entry stats before errand.host errand.injected errand.drained
    later

/-- Others do something. -/
theorem Errand.Idles.visited
    {before : Host MemoryDriver}
    {errand : Errand}
    {later : RunningSession}
    (idles : Errand.Idles id session entry stats before errand later)
    (other : Interlude) :
    ∃ next, Errand.Idles id session entry stats before
      (errand.visited session.handle.number other) next :=
  have ⟨next, visited⟩ := idles.toServes.visited other
  ⟨next, idles.trans visited⟩

/-- The session of a run has its rings in order. -/
theorem serves_of_serveAll
    {version : DriverVersion}
    {slotBudget : Option Nat}
    {requests : List Request}
    (reached : host.driver = (MemoryDriver.fresh version slotBudget).serveAll
      requests)
    (kept : host.sessions.get? id = some session)
    (runs : host.driver.sessions.get? session.handle.number = some entry) :
    Serves id session host entry session.stats where
  kept := kept
  runs := runs
  sound := by
    rw [reached] at runs
    exact ((MemoryDriver.life_accounts version slotBudget requests
      session.handle.number).of_running runs).sound

end Host
end VirtualAdapter

import VirtualAdapter.Proofs.Exchange.HandBack
import VirtualAdapter.Proofs.Host.Requests
import VirtualAdapter.Proofs.Memory.ReservedEvents

/-!
# Shutdowns stay signalled

Nobody but the library knows the event of a session's shutdown, and the library
resets no event.  So once a shutdown was signalled it stays so over every run,
as long as nothing elsewhere resets just this event.
-/

namespace VirtualAdapter
namespace Host

open Memory (MemoryDriver Request)
open Memory.MemoryDriver (Eventful Reserved)
open Relation (ReflTransGen)

/-! ## Sessions that were shut down -/

/-- A session was shut down by an event, which stays set. -/
structure ShutBy
    (id : SessionId)
    (event : EventHandle)
    (host : Host (Recorded MemoryDriver)) : Prop where
  /-- The session has been given its number. -/
  numbered : id ≤ host.lastNumber
  /-- The event is no session's event for its packets. -/
  reserved : Reserved host.driver.driver event.number
  /-- The event is set. -/
  isSet : host.driver.driver.signals.isSet event.number = true
  /-- It is the one of the session, if that has not ended. -/
  own : ∀ session, host.sessions.get? id = some session →
    session.shutdownEvent = event

/-- Sessions are shut down by events of their own, and some of them were. -/
structure Signalled
    (shut : List (SessionId × EventHandle))
    (host : Host (Recorded MemoryDriver)) : Prop where
  /-- The driver has its sessions and their events in order. -/
  eventful : Eventful host.driver.driver
  /-- Sessions have been given numbers. -/
  numbered : ∀ id session, host.sessions.get? id = some session →
    id ≤ host.lastNumber
  /-- The events of shutdowns are no session's events for its packets. -/
  reserved : ∀ id session, host.sessions.get? id = some session →
    Reserved host.driver.driver session.shutdownEvent.number
  /-- The listed sessions were shut down. -/
  shut : ∀ entry ∈ shut, ShutBy entry.1 entry.2 host

variable
  {shut : List (SessionId × EventHandle)}
  {host next last : Host (Recorded MemoryDriver)}

namespace Signalled

/-- A request to the driver that resets none of the events. -/
theorem serve
    (signalled : Signalled shut host)
    {request : Request}
    (spares : ∀ entry ∈ shut, request ≠ .resetEvent entry.2)
    {driver : Recorded MemoryDriver}
    (served : driver.driver = host.driver.driver.serve request) :
    Signalled shut { host with driver } where
  eventful := served ▸ signalled.eventful.serve request
  numbered := signalled.numbered
  reserved := fun id session found =>
    served ▸ (signalled.reserved id session found).serve request
  shut := fun entry member =>
    let before := signalled.shut entry member
    { numbered := before.numbered
      reserved := served ▸ before.reserved.serve request
      isSet := served ▸ before.reserved.isSet_serve before.isSet
        (spares entry member)
      own := before.own }

/-- The driver stays the same, and no session comes that was not there. -/
theorem of_sessions
    (signalled : Signalled shut host)
    (driver : next.driver = host.driver)
    (lastNumber_le : host.lastNumber ≤ next.lastNumber)
    (sessions : ∀ id session, next.sessions.get? id = some session →
      ∃ before, host.sessions.get? id = some before ∧
        before.shutdownEvent = session.shutdownEvent) :
    Signalled shut next where
  eventful := driver ▸ signalled.eventful
  numbered := fun id session found =>
    let ⟨before, known, _⟩ := sessions id session found
    (signalled.numbered id before known).trans lastNumber_le
  reserved := fun id session found => by
    obtain ⟨before, known, same⟩ := sessions id session found
    rw [driver, ← same]
    exact signalled.reserved id before known
  shut := fun entry member =>
    let earlier := signalled.shut entry member
    { numbered := earlier.numbered.trans lastNumber_le
      reserved := driver ▸ earlier.reserved
      isSet := driver ▸ earlier.isSet
      own := fun session found =>
        let ⟨before, known, same⟩ := sessions entry.1 session found
        same.symm.trans (earlier.own before known) }

/-- A session with a reserved event comes under a new number. -/
theorem launching
    (signalled : Signalled shut host)
    {session : Session}
    (reserved : Reserved host.driver.driver session.shutdownEvent.number)
    (managers : Table ManagerId Manager) :
    Signalled shut { host with
      managers
      lastNumber := host.lastNumber + 1
      sessions := host.sessions.insert (host.lastNumber + 1) session } where
  eventful := signalled.eventful
  numbered := fun id entry found => by
    rw [Table.get?_insert] at found
    split at found
    case isTrue same => exact same.le
    case isFalse =>
      exact Nat.le_succ_of_le (signalled.numbered id entry found)
  reserved := fun id entry found => by
    rw [Table.get?_insert] at found
    split at found
    case isTrue =>
      obtain rfl := Option.some.inj found
      exact reserved
    case isFalse => exact signalled.reserved id entry found
  shut := fun entry member =>
    let before := signalled.shut entry member
    { numbered := Nat.le_succ_of_le before.numbered
      reserved := before.reserved
      isSet := before.isSet
      own := fun session found => by
        rw [Table.get?_insert, if_neg (Nat.lt_succ_of_le before.numbered).ne]
          at found
        exact before.own session found }

end Signalled

/-! ## One move -/

/-- What a recorded driver is called for, the driver behind it is called for. -/
theorem Asked.behind
    {driver next : Recorded MemoryDriver}
    (asked : Asked driver next) : Asked driver.driver next.driver := by
  cases asked with
  | adapterLuid adapter => exact .adapterLuid adapter
  | isEventSet event => exact .isEventSet event
  | dropEvent event => exact .dropEvent event
  | beginWait own cancel interrupt timeout now =>
      exact .beginWait own cancel interrupt timeout now
  | stepWait wait now => exact .stepWait wait now
  | _ => constructor

/-- What is signalled afterwards, with events that were reserved still so. -/
structure Carries
    (shut : List (SessionId × EventHandle))
    (host next : Host (Recorded MemoryDriver)) : Prop where
  /-- Reserved events stay reserved. -/
  reserved : ∀ event, Reserved host.driver.driver event →
    Reserved next.driver.driver event
  /-- The shutdowns are signalled afterwards. -/
  signalled : Signalled shut next

namespace Carries

theorem refl (signalled : Signalled shut host) : Carries shut host host :=
  ⟨fun _ reserved => reserved, signalled⟩

theorem trans
    (first : Carries shut host next)
    (second : Carries shut next last) : Carries shut host last :=
  ⟨fun event reserved => second.reserved event (first.reserved event reserved),
    second.signalled⟩

end Carries

/-- A move keeps shutdowns signalled. -/
theorem Signalled.move
    (signalled : Signalled shut host)
    (move : Move host next) : Carries shut host next := by
  have same (id : SessionId) (session : Session)
      (found : host.sessions.get? id = some session) :
      ∃ before, host.sessions.get? id = some before ∧
        before.shutdownEvent = session.shutdownEvent := ⟨session, found, rfl⟩
  cases move with
  | asked asked =>
      obtain ⟨request, spares, served⟩ := asked.behind.exists_request
      refine ⟨fun event reserved => ?_, signalled.serve ?_ served⟩
      · exact served ▸ reserved.serve request
      · exact fun entry _ => spares entry.2
  | managers | adapters | packets | timed =>
      exact ⟨fun _ reserved => reserved,
        signalled.of_sessions rfl (Nat.le_refl _) same⟩
  | numbered =>
      exact ⟨fun _ reserved => reserved,
        signalled.of_sessions rfl (Nat.le_succ _) same⟩
  | counted id step =>
      refine ⟨fun _ reserved => reserved,
        signalled.of_sessions rfl (Nat.le_refl _) fun other session found => ?_⟩
      obtain ⟨before, known, rfl⟩ := Table.exists_of_get?_update found
      refine ⟨before, known, ?_⟩
      split <;> rfl
  | forgotten id =>
      exact ⟨fun _ reserved => reserved,
        signalled.of_sessions rfl (Nat.le_refl _) fun other session found =>
          same other session (Table.of_get?_erase found).2⟩

/-- What makes moves only keeps shutdowns signalled. -/
theorem Moves.carries
    {Value : Type}
    {action : Action (Host (Recorded MemoryDriver)) Value}
    (moves : Moves action)
    (signalled : Signalled shut host) :
    Carries shut host (action host).state := by
  have steps := moves host
  generalize (action host).state = next at steps ⊢
  induction steps with
  | refl => exact .refl signalled
  | tail _ move hypothesis =>
      exact hypothesis.trans (hypothesis.signalled.move move)

/-! ## Starts -/

/-- The event that a start has made for the shutdown is reserved. -/
def StartPhase.IsReady (driver : MemoryDriver) : StartPhase → Prop
  | .counting _ _ shutdownEvent => Reserved driver shutdownEvent.number
  | _ => True

theorem StartPhase.IsReady.mono
    {driver later : MemoryDriver}
    {phase : StartPhase}
    (ready : phase.IsReady driver)
    (reserved : ∀ event, Reserved driver event → Reserved later event) :
    phase.IsReady later := by
  cases phase with
  | counting => exact reserved _ ready
  | _ => trivial

theorem isReady_afterFailure
    (failure : Failure)
    {undoing : StartPhase}
    (ready : ∀ driver, undoing.IsReady driver)
    (driver : MemoryDriver) :
    (Start.afterFailure failure undoing).IsReady driver := by
  cases failure with
  | refused error => exact ready driver
  | crashed message => trivial

/-- Only the step that makes the event leads to a phase that needs it. -/
theorem startAdvance_isReady
    (start : Start)
    (adapter : Adapter)
    {phase : StartPhase}
    (other : ∀ handle readEvent, phase ≠ .makingEvent handle readEvent) :
    (start.advance adapter phase :
      Action (Host (Recorded MemoryDriver)) StartPhase).Answers
        fun next => ∀ driver, next.IsReady driver := by
  cases phase with
  | makingEvent handle readEvent => exact absurd rfl (other handle readEvent)
  | claimingFlag =>
      unfold Start.advance Start.claimFlag
      dsimp only
      split
      · exact .pure fun _ => trivial
      · exact .bind fun _ => .pure fun _ => trivial
  | claimingName =>
      refine .bind fun found => ?_
      dsimp only
      split
      · exact .pure fun _ => trivial
      · exact .bind fun _ => .pure fun _ => trivial
  | starting =>
      refine .bind fun outcome => ?_
      cases outcome with
      | ok handle => exact .pure fun _ => trivial
      | error failure =>
          exact .pure (isReady_afterFailure failure fun _ => trivial)
  | obtainingEvent handle =>
      refine .bind fun outcome => ?_
      cases outcome with
      | ok readEvent => exact .pure fun _ => trivial
      | error failure =>
          exact .pure (isReady_afterFailure failure fun _ => trivial)
  | finished outcome => exact .pure fun _ => trivial
  | _ => exact fun _ _ => trivial

/-- A step of a start keeps shutdowns signalled, and an event that it makes is
reserved. -/
theorem startStep_carries
    (start : Start)
    {phase : StartPhase}
    (signalled : Signalled shut host)
    (ready : phase.IsReady host.driver.driver) :
    Carries shut host (start.step phase host).state ∧
      (start.step phase host).value.IsReady
        (start.step phase host).state.driver.driver := by
  unfold Start.step
  simp only [Action.state_bind, Action.value_bind, value_adapter?,
    state_adapter?]
  cases host.adapters.get? start.adapter with
  | none => exact ⟨.refl signalled, trivial⟩
  | some adapter =>
      cases phase with
      | counting handle readEvent shutdownEvent =>
          let session : Session :=
            { adapter := start.adapter, handle, readEvent, shutdownEvent
              capacity := start.capacity, config := start.config }
          exact ⟨⟨fun _ reserved => reserved,
            @Signalled.launching _ _ signalled session ready _⟩, trivial⟩
      | makingEvent handle readEvent =>
          refine ⟨(startAdvance_moves start adapter ?_).carries signalled,
            signalled.eventful.reserved_newEvent⟩
          rintro _ _ _ ⟨⟩
      | _ =>
          refine ⟨(startAdvance_moves start adapter ?_).carries signalled,
            startAdvance_isReady start adapter ?_ host _⟩
          · rintro _ _ _ ⟨⟩
          · rintro _ _ ⟨⟩

theorem startSteps_carries
    (start : Start)
    (count : Nat)
    {phase : StartPhase}
    (signalled : Signalled shut host)
    (ready : phase.IsReady host.driver.driver) :
    Carries shut host (start.steps count phase host).state := by
  induction count generalizing phase host with
  | zero => exact .refl signalled
  | succ count hypothesis =>
      obtain ⟨carries, ready⟩ := startStep_carries start signalled ready
      exact carries.trans (hypothesis carries.signalled ready)

theorem startSession_carries
    (adapter : AdapterId)
    (config : SessionConfig)
    (signalled : Signalled shut host) :
    Carries shut host (startSession adapter config host).state := by
  unfold startSession
  rw [Action.state_bind, Action.value_inspect, Action.state_inspect]
  cases Start.capacity? (Driver.capacityBounds host.driver) config with
  | error error => exact .refl signalled
  | ok capacity =>
      have ready : StartPhase.claimingFlag.IsReady host.driver.driver := trivial
      have carries := startSteps_carries { adapter, config, capacity }
        Start.longest signalled ready
      simpa only [Action.state_bind, Action.state_pure] using carries

/-! ## Runs -/

/-- What happens elsewhere is one request to the driver, and none that resets
one of some events. -/
def Operation.Spares (events : List EventHandle) :
    Operation MemoryDriver → Prop
  | .elsewhere step _ => ∃ request : Request,
      (∀ event ∈ events, request ≠ .resetEvent event) ∧
        step = fun driver => driver.serve request
  | _ => True

/-- What happens elsewhere in a call resets none of some events. -/
def Call.Spares (events : List EventHandle) : Call MemoryDriver → Prop
  | .perform operation => operation.Spares events
  | _ => True

/-- An operation only moves, unless it starts a session or happens
elsewhere. -/
def Operation.onlyMoves {State : Type} : Operation State → Bool
  | .startSession _ _ | .elsewhere _ _ => false
  | _ => true

theorem action_moves
    {State : Type}
    [Driver State]
    {operation : Operation State}
    (moves : operation.onlyMoves = true) : Moves operation.action := by
  have does {Value : Type}
      {action : Action (Host (Recorded State)) Value}
      (moves : Moves action)
      (leaves : Value → Held) :
      Moves (do return leaves (← action) :
        Action (Host (Recorded State)) Held) :=
    moves.bind fun _ => .answer
  cases operation with
  | newManager config => exact does (newManager_moves config) _
  | setLogger logger => exact does (setLogger_moves logger) _
  | deletion manager phase => exact does (deletionStep_moves manager phase) _
  | dropManager manager => exact does (dropManager_moves manager) _
  | createAdapter manager config =>
      exact does (createAdapter_moves manager config) _
  | openAdapter manager name => exact does (openAdapter_moves manager name) _
  | identify adapter =>
      refine .andThen (fun _ => rfl) fun found => ?_
      split
      · exact .answer
      · exact (adapterLuid_moves _).bind fun _ => .answer
  | closeAdapter adapter => exact does (closeAdapter_moves adapter) _
  | dropAdapter adapter => exact does (dropAdapter_moves adapter) _
  | startSession adapter config => cases moves
  | endSession session => exact does (endSession_moves session) _
  | shutdown session => exact does (shutdown_moves session) _
  | receive session => exact does (tryReceive_moves session) _
  | receiveInto session buffer =>
      exact does (tryReceiveInto_moves session buffer) _
  | allocate session size => exact does (allocateSend_moves session size) _
  | send session content => exact does (trySend_moves session content) _
  | goOn call => exact does (blockingStep_moves call) _
  | pump current handler =>
      exact does (pumpStep_moves (fun _ => .answer) current) _
  | write packet start content =>
      exact does (withPacket_moves packet fun _ _ => writePacket_moves _ _ _) _
  | finish packet => exact does (finishPacket_moves packet) _
  | drop packet => exact does (dropPacket_moves packet) _
  | elsewhere step moment => cases moves

/-- An operation keeps shutdowns signalled. -/
theorem action_carries
    (operation : Operation MemoryDriver)
    (spares : operation.Spares (shut.map (·.2)))
    (signalled : Signalled shut host) :
    Carries shut host (operation.action host).state := by
  cases operation with
  | startSession adapter config =>
      exact startSession_carries adapter config signalled
  | elsewhere step moment =>
      obtain ⟨request, spared, rfl⟩ := spares
      have served : Carries shut host { host with
          driver := { host.driver with
            driver := host.driver.driver.serve request } } :=
        ⟨fun _ reserved => reserved.serve request,
          signalled.serve (fun entry member =>
            spared _ (List.mem_map_of_mem member)) rfl⟩
      exact served.trans ((passTime_moves moment).carries served.signalled)
  | _ => exact (action_moves rfl).carries signalled

namespace Scene

/-- Shutdowns are signalled, and every start that has made an event for one can
use it. -/
structure IsSignalled
    (shut : List (SessionId × EventHandle))
    (scene : Scene MemoryDriver) : Prop where
  /-- Shutdowns are signalled. -/
  signalled : Signalled shut scene.host
  /-- Events that were made can be used. -/
  ready : ∀ start phase, .starting start phase ∈ scene.tasks →
    phase.IsReady scene.host.driver.driver

namespace IsSignalled

variable {scene : Scene MemoryDriver}

/-- The host changes and the tasks stay. -/
theorem carry
    (signalled : scene.IsSignalled shut)
    {next : Scene MemoryDriver}
    (carries : Carries shut scene.host next.host)
    (tasks : ∀ start phase, .starting start phase ∈ next.tasks →
      .starting start phase ∈ scene.tasks ∨
        phase.IsReady next.host.driver.driver) :
    next.IsSignalled shut where
  signalled := carries.signalled
  ready := fun start phase member =>
    (tasks start phase member).elim
      (fun before => (signalled.ready start phase before).mono carries.reserved)
      id

theorem advance
    (signalled : scene.IsSignalled shut)
    (index : Nat) : (scene.advance index).IsSignalled shut := by
  unfold Scene.advance
  cases found : scene.tasks[index]? with
  | none => exact signalled
  | some task =>
      have stepped : Carries shut scene.host (task.step scene.host).state ∧
          ∀ start phase, (task.step scene.host).value = .starting start phase →
            phase.IsReady (task.step scene.host).state.driver.driver := by
        cases task with
        | finishing session phase =>
            exact ⟨(finishStep_moves session phase).carries signalled.signalled,
              fun _ _ same => nomatch same⟩
        | starting start phase =>
            obtain ⟨carries, ready⟩ := startStep_carries start
              signalled.signalled
              (signalled.ready start phase (List.mem_of_getElem? found))
            refine ⟨carries, ?_⟩
            rintro _ _ same
            cases same
            exact ready
      obtain ⟨carries, ready⟩ := stepped
      dsimp only
      split
      · refine signalled.carry carries fun start phase member => ?_
        obtain before | same := List.mem_or_eq_of_mem_set member
        · exact .inl before
        · exact .inr (ready start phase same.symm)
      · exact signalled.carry carries fun start phase member =>
          .inl (List.mem_of_mem_eraseIdx member)

/-- Every call keeps shutdowns signalled. -/
theorem play
    (signalled : scene.IsSignalled shut)
    {call : Call MemoryDriver}
    (spares : call.Spares (shut.map (·.2))) :
    (scene.play call).IsSignalled shut := by
  cases call with
  | perform operation =>
      change (scene.perform operation).IsSignalled shut
      unfold Scene.perform
      split
      · exact signalled.carry
          (action_carries operation spares signalled.signalled)
          fun _ _ member => .inl member
      · exact signalled
  | beginStart adapter config =>
      change (scene.beginStart adapter config).IsSignalled shut
      unfold Scene.beginStart
      split
      · split
        · exact signalled
        · refine signalled.carry (.refl signalled.signalled) ?_
          intro start phase member
          obtain before | new := List.mem_append.mp member
          · exact .inl before
          · cases List.mem_singleton.mp new
            exact .inr trivial
      · exact signalled
  | beginEnd session =>
      change (scene.beginEnd session).IsSignalled shut
      unfold Scene.beginEnd
      dsimp only
      split
      · refine signalled.carry (.refl signalled.signalled) ?_
        intro start phase member
        obtain before | new := List.mem_append.mp member
        · exact .inl before
        · cases List.mem_singleton.mp new
      · exact signalled
  | advance index => exact signalled.advance index

/-- Every run keeps shutdowns signalled. -/
theorem playAll
    (signalled : scene.IsSignalled shut)
    {calls : List (Call MemoryDriver)}
    (spare : ∀ call ∈ calls, call.Spares (shut.map (·.2))) :
    (scene.playAll calls).IsSignalled shut := by
  induction calls generalizing scene with
  | nil => exact signalled
  | cons call rest hypothesis =>
      exact hypothesis (signalled.play (spare call List.mem_cons_self))
        fun other member => spare other (List.mem_cons_of_mem _ member)

end IsSignalled
end Scene
end Host
end VirtualAdapter

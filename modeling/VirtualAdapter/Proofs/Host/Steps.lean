import VirtualAdapter.Proofs.Host.Adapters

/-!
# What single steps of starts and ends come to

Over the in-memory driver every step of a start or of an end is one of a few
changes of the host.  They are listed here once, with the phase before and
after; threads can step in any order in between.
-/

namespace VirtualAdapter
namespace Host

open Memory (MemoryDriver OpenHandle RunningSession)

/-! ## What a manager and a driver keep -/

/-- The names that are claimed at a manager. -/
def claimedAt (host : Host MemoryDriver) (manager : ManagerId) : List String :=
  ((host.managers.get? manager).map (·.running)).getD []

/-- The sessions that a manager counts. -/
def activeAt (host : Host MemoryDriver) (manager : ManagerId) : Nat :=
  ((host.managers.get? manager).map (·.activeSessions)).getD 0

/-- The device on which the driver runs a session. -/
def runs? (host : Host MemoryDriver) (number : Nat) : Option Nat :=
  (host.driver.sessions.get? number).map (·.device)

section Managers

variable {manager : ManagerId} {entry : Manager}

theorem claimedAt_of_managed
    {host : Host MemoryDriver}
    (managed : host.managers.get? manager = some entry) :
    host.claimedAt manager = entry.running := by
  rw [claimedAt, managed]
  rfl

theorem activeAt_of_managed
    {host : Host MemoryDriver}
    (managed : host.managers.get? manager = some entry) :
    host.activeAt manager = entry.activeSessions := by
  rw [activeAt, managed]
  rfl

/-- A manager that is there is changed. -/
theorem managed_update
    {host : Host MemoryDriver}
    (managed : host.managers.get? manager = some entry)
    (step : Manager → Manager) :
    (host.managers.update manager step).get? manager = some (step entry) := by
  simp [managed]

theorem claimedAt_update
    {host : Host MemoryDriver}
    (managed : host.managers.get? manager = some entry)
    (step : Manager → Manager) :
    claimedAt { host with managers := host.managers.update manager step }
      manager = (step entry).running :=
  claimedAt_of_managed (managed_update managed step)

theorem activeAt_of_update
    {host : Host MemoryDriver}
    (managed : host.managers.get? manager = some entry)
    (step : Manager → Manager) :
    activeAt { host with managers := host.managers.update manager step }
      manager = (step entry).activeSessions :=
  activeAt_of_managed (managed_update managed step)

/-- A change that keeps the count. -/
theorem activeAt_update
    {host next : Host MemoryDriver}
    {changed : ManagerId}
    {step : Manager → Manager}
    (managers : next.managers = host.managers.update changed step)
    (keeps : ∀ entry, (step entry).activeSessions = entry.activeSessions) :
    next.activeAt manager = host.activeAt manager := by
  unfold activeAt
  rw [managers, Table.get?_update]
  split
  case isTrue same =>
    subst same
    cases host.managers.get? manager with
    | none => rfl
    | some entry => exact keeps entry
  case isFalse => rfl

end Managers

/-- The driver runs one session more. -/
theorem runs?_started
    (host : Host MemoryDriver)
    (device : Nat)
    (capacity : UInt32) :
    runs? { host with driver := host.driver.started device capacity } =
      Function.update host.runs? (host.driver.lastNumber + 1) (some device) := by
  funext number
  unfold runs?
  rw [MemoryDriver.get?_sessions_started, Function.update_apply]
  split <;> rfl

/-- The driver runs one session less. -/
theorem runs?_dismissed
    (host : Host MemoryDriver)
    (number : Nat)
    (running : RunningSession) :
    runs? { host with driver := host.driver.dismissed number running } =
      Function.update host.runs? number none := by
  funext other
  unfold runs?
  change ((host.driver.sessions.erase number).get? other).map _ = _
  rw [Table.get?_erase, Function.update_apply]
  split <;> rfl

/-- The next session of the driver does not run yet. -/
theorem Moored.runs?_next
    {manager : ManagerId}
    {host : Host MemoryDriver}
    (moored : Moored manager host) :
    host.runs? (host.driver.lastNumber + 1) = none := by
  unfold runs?
  rw [Option.map_eq_none_iff, Option.eq_none_iff_forall_not_mem]
  intro running runs
  have known := (moored.consistent.session_le _ running runs).1
  exact Nat.not_succ_le_self _ known

/-! ## Steps -/

/-- Count and keep a session whose start has come to its end. -/
def admitted
    (host : Host MemoryDriver)
    (start : Start)
    (manager : ManagerId)
    (handle : SessionHandle)
    (readEvent shutdownEvent : EventHandle) : Host MemoryDriver :=
  { host.recounted manager (· + 1) with
    lastNumber := host.lastNumber + 1
    sessions := host.sessions.insert (host.lastNumber + 1)
      { adapter := start.adapter, handle, readEvent, shutdownEvent
        capacity := start.capacity, config := start.config } }

/-- What a step of a start on an adapter comes to: the phases before and after
it, and the host after it. -/
inductive StartStep
    (host : Host MemoryDriver)
    (start : Start)
    (adapter : Adapter) : StartPhase → StartPhase → Host MemoryDriver → Prop
  /-- Another session is active on the adapter. -/
  | refused (active : adapter.sessionActive = true) :
      StartStep host start adapter .claimingFlag
        (.finished (refuse .sessionBusy)) host
  /-- The flag is claimed. -/
  | flagged (idle : adapter.sessionActive = false) :
      StartStep host start adapter .claimingFlag .claimingName
        (host.flagged start.adapter true)
  /-- The name is taken. -/
  | taken {entry : Manager}
      (managed : host.managers.get? adapter.manager = some entry)
      (claimed : deviceKey adapter.name ∈ entry.running) :
      StartStep host start adapter .claimingName .returningFlag host
  /-- The name is claimed. -/
  | named {entry : Manager}
      (managed : host.managers.get? adapter.manager = some entry)
      (free : deviceKey adapter.name ∉ entry.running) :
      StartStep host start adapter .claimingName .starting
        (host.named adapter.manager (deviceKey adapter.name))
  /-- The flag is given back. -/
  | returned :
      StartStep host start adapter .returningFlag
        (.finished (refuse .sessionBusy)) (host.flagged start.adapter false)
  /-- The driver refuses a session. -/
  | unstarted (failure : Failure) :
      StartStep host start adapter .starting (.releasingName failure) host
  /-- The driver starts a session. -/
  | launched {entry : OpenHandle}
      (opened : host.driver.adapters.get? adapter.handle.number = some entry)
      (idle : host.driver.isBusy entry.device = false) :
      StartStep host start adapter .starting
        (.obtainingEvent ⟨host.driver.lastNumber + 1⟩)
        { host with driver := host.driver.started entry.device start.capacity }
  /-- The driver has no event for the session. -/
  | eventless (handle : SessionHandle) (failure : Failure) :
      StartStep host start adapter (.obtainingEvent handle)
        (.ending handle failure) host
  /-- The driver names the session's event. -/
  | obtained (handle : SessionHandle) (readEvent : EventHandle) :
      StartStep host start adapter (.obtainingEvent handle)
        (.makingEvent handle readEvent) host
  /-- An event is made. -/
  | made (handle : SessionHandle) (readEvent shutdownEvent : EventHandle) :
      StartStep host start adapter (.makingEvent handle readEvent)
        (.counting handle readEvent shutdownEvent)
        { host with driver := (MemoryDriver.newEvent host.driver).state }
  /-- The session is counted and kept. -/
  | admitted (handle : SessionHandle) (readEvent shutdownEvent : EventHandle) :
      StartStep host start adapter (.counting handle readEvent shutdownEvent)
        (.finished (.ok (host.lastNumber + 1)))
        (host.admitted start adapter.manager handle readEvent shutdownEvent)
  /-- The driver ends the session again. -/
  | ended (handle : SessionHandle) (failure : Failure)
      {running : RunningSession}
      (runs : host.driver.sessions.get? handle.number = some running) :
      StartStep host start adapter (.ending handle failure)
        (.releasingName failure)
        { host with driver := host.driver.dismissed handle.number running }
  /-- The name is released. -/
  | unnamed (failure : Failure) :
      StartStep host start adapter (.releasingName failure)
        (.releasingFlag failure)
        (host.unnamed adapter.manager (deviceKey adapter.name))
  /-- The flag is released. -/
  | unflagged (failure : Failure) :
      StartStep host start adapter (.releasingFlag failure)
        (.finished (.error failure)) (host.flagged start.adapter false)
  /-- The start was over. -/
  | concluded (outcome : Outcome SessionId) :
      StartStep host start adapter (.finished outcome) (.finished outcome) host

/-- What a step of an end comes to: the phases before and after it, and the host
after it. -/
inductive FinishStep
    (host : Host MemoryDriver)
    (id : SessionId)
    (session : Session)
    (adapter : Adapter) : FinishPhase → FinishPhase → Host MemoryDriver → Prop
  /-- The shutdown is signalled. -/
  | signalled :
      FinishStep host id session adapter .signalling .ending
        { host with driver := host.driver.setSignal session.shutdownEvent.number }
  /-- The driver ends the session. -/
  | ended {running : RunningSession}
      (runs : host.driver.sessions.get? session.handle.number = some running) :
      FinishStep host id session adapter .ending .releasingName
        { host with
          driver := host.driver.dismissed session.handle.number running }
  /-- The name is released. -/
  | unnamed :
      FinishStep host id session adapter .releasingName .releasingFlag
        (host.unnamed adapter.manager (deviceKey adapter.name))
  /-- The flag is released. -/
  | unflagged :
      FinishStep host id session adapter .releasingFlag .uncounting
        (host.flagged session.adapter false)
  /-- The session is no longer counted. -/
  | uncounted :
      FinishStep host id session adapter .uncounting .lettingGo
        (host.recounted adapter.manager (· - 1))
  /-- The session is forgotten, and its adapter goes if nobody holds it. -/
  | forgotten {next : Host MemoryDriver}
      (letGo : LetGo { host with sessions := host.sessions.erase id }
        session.adapter next) :
      FinishStep host id session adapter .lettingGo (.finished (.ok ())) next
  /-- The end was over. -/
  | concluded (outcome : Outcome Unit) :
      FinishStep host id session adapter (.finished outcome) (.finished outcome)
        host

/-- What a step of a removal of the driver comes to: the phases before and after
it, and the host after it. -/
inductive DeletionStep
    (host : Host MemoryDriver)
    (manager : ManagerId) : Deletion → Deletion → Host MemoryDriver → Prop
  /-- The manager has sessions. -/
  | refused {entry : Manager}
      (managed : host.managers.get? manager = some entry)
      (active : 0 < entry.activeSessions) :
      DeletionStep host manager .counting
        (.finished (refuse (.contractViolation
          "driver deleted while sessions are active"))) host
  /-- The manager has no session. -/
  | counted {entry : Manager}
      (managed : host.managers.get? manager = some entry)
      (idle : entry.activeSessions = 0) :
      DeletionStep host manager .counting .calling host
  /-- The driver is called. -/
  | called (outcome : Outcome Unit) :
      DeletionStep host manager .calling (.finished outcome)
        { host with driver := host.driver.deleted }
  /-- The removal was over. -/
  | concluded (outcome : Outcome Unit) :
      DeletionStep host manager (.finished outcome) (.finished outcome) host

variable {manager : ManagerId} {host : Host MemoryDriver} {adapter : Adapter}

/-- The driver ends a session that runs, and nothing is left over. -/
theorem Moored.endSession_eq
    (moored : Moored manager host)
    {handle : SessionHandle}
    {running : RunningSession}
    (runs : host.driver.sessions.get? handle.number = some running) :
    (Driver.endSession handle host.driver).state =
      host.driver.dismissed handle.number running := by
  obtain ⟨inbound, outbound⟩ := moored.consistent.quiet _ running runs
  exact MemoryDriver.state_endSession runs inbound outbound

/-- Every step of a start on an adapter that is open is one of the list. -/
theorem Moored.startStep
    (moored : Moored manager host)
    {start : Start}
    (phase : StartPhase)
    (found : host.adapters.get? start.adapter = some adapter)
    (runs : ∀ handle failure, phase = .ending handle failure →
      ∃ running, host.driver.sessions.get? handle.number = some running) :
    StartStep host start adapter phase (start.step phase host).value
      (start.step phase host).state := by
  have step : start.step phase host = start.advance adapter phase host := by
    unfold Start.step
    have known : adapter? start.adapter host = ⟨some adapter, host, []⟩ :=
      congrArg (Reply.mk · host []) found
    rw [Action.bind_of_reply known]
  rw [step]
  cases phase with
  | claimingFlag =>
      by_cases active : adapter.sessionActive = true
      · simp only [Start.advance, Start.claimFlag, active, if_true]
        exact .refused active
      · simp only [Start.advance, Start.claimFlag, active, Bool.false_eq_true,
          if_false, Action.value_bind, Action.state_bind, state_changeAdapter,
          Action.value_pure, Action.state_pure]
        exact .flagged (Bool.not_eq_true _ ▸ active)
  | claimingName =>
      obtain ⟨entry, managed⟩ := moored.managed
      rw [← (moored.opened _ adapter found).1] at managed
      simp only [Start.advance, Start.claimName, Action.value_bind,
        Action.state_bind, value_manager?, state_manager?, managed]
      by_cases taken : deviceKey adapter.name ∈ entry.running
      · simp only [Option.map_some, Option.getD_some, List.contains_eq_mem,
          taken, decide_true, if_true]
        exact .taken managed taken
      · simp only [Option.map_some, Option.getD_some, List.contains_eq_mem,
          taken, decide_false, Bool.false_eq_true, if_false, Action.value_bind,
          Action.state_bind, state_changeManager]
        exact .named managed taken
  | returningFlag => exact .returned
  | starting =>
      simp only [Start.advance, Action.value_bind, Action.state_bind, value_ask,
        state_ask]
      rcases MemoryDriver.startSession_cases host.driver adapter.handle
        start.capacity with ⟨error, value, state⟩ |
          ⟨entry, opened, idle, value, state⟩
      · rw [show (Driver.startSession adapter.handle start.capacity
            host.driver).value = _ from value,
          show (Driver.startSession adapter.handle start.capacity
            host.driver).state = _ from state]
        exact .unstarted _
      · rw [show (Driver.startSession adapter.handle start.capacity
            host.driver).value = _ from value,
          show (Driver.startSession adapter.handle start.capacity
            host.driver).state = _ from state]
        exact .launched opened idle
  | obtainingEvent handle =>
      have event : Driver.readWaitEvent handle host.driver =
        MemoryDriver.readWaitEvent handle host.driver := rfl
      simp only [Start.advance, Action.value_bind, Action.state_bind, value_ask,
        state_ask, event, MemoryDriver.readWaitEvent]
      cases host.driver.sessions.get? handle.number with
      | none => exact .eventless handle _
      | some running => exact .obtained handle _
  | makingEvent handle readEvent => exact .made handle readEvent _
  | counting handle readEvent shutdownEvent =>
      exact .admitted handle readEvent shutdownEvent
  | ending handle failure =>
      obtain ⟨running, runs⟩ := runs handle failure rfl
      have state := moored.endSession_eq runs
      simp only [Start.advance, Action.value_bind, Action.state_bind, state_ask,
        state]
      exact .ended handle failure runs
  | releasingName failure => exact .unnamed failure
  | releasingFlag failure => exact .unflagged failure
  | finished outcome => exact .concluded outcome

/-- Every step of an end on an adapter that is open is one of the list. -/
theorem Moored.finishStep
    (moored : Moored manager host)
    {id : SessionId}
    {session : Session}
    (phase : FinishPhase)
    (found : host.sessions.get? id = some session)
    (opened : host.adapters.get? session.adapter = some adapter)
    (runs : phase = .ending →
      ∃ running, host.driver.sessions.get? session.handle.number =
        some running) :
    FinishStep host id session adapter phase (Finish.step id phase host).value
      (Finish.step id phase host).state := by
  have step : Finish.step id phase host =
      Finish.advance id session adapter phase host := by
    unfold Finish.step
    have known : session? id host = ⟨some session, host, []⟩ :=
      congrArg (Reply.mk · host []) found
    have known' : adapter? session.adapter host = ⟨some adapter, host, []⟩ :=
      congrArg (Reply.mk · host []) opened
    rw [Action.bind_of_reply known]
    dsimp only
    rw [Action.bind_of_reply known']
  rw [step]
  cases phase with
  | signalling =>
      have signals : Driver.setEvent session.shutdownEvent host.driver =
          ⟨.ok (), host.driver.setSignal session.shutdownEvent.number, []⟩ := rfl
      simp only [Finish.advance, shutdown, Action.value_bind, Action.state_bind,
        value_session?, state_session?, found, value_ask, state_ask, signals]
      exact .signalled
  | ending =>
      obtain ⟨running, runs⟩ := runs rfl
      have state := moored.endSession_eq runs
      simp only [Finish.advance, Action.value_bind, Action.state_bind, state_ask,
        state]
      exact .ended runs
  | releasingName => exact .unnamed
  | releasingFlag => exact .unflagged
  | uncounting => exact .uncounted
  | lettingGo =>
      have drops : ∀ driver : MemoryDriver,
          (Driver.dropEvent session.shutdownEvent driver).state = driver :=
        fun _ => rfl
      have outcome := @letGo { host with sessions := host.sessions.erase id }
        (fun other entry present => (moored.opened other entry present).2)
        session.adapter
      simp only [Finish.advance, Finish.letGo, forgetSession, Action.value_bind,
        Action.state_bind, Action.state_change, state_ask, drops]
      exact .forgotten outcome
  | finished outcome => exact .concluded outcome

/-- Every step of a removal is one of the list. -/
theorem Moored.deletionStep
    (moored : Moored manager host)
    (phase : Deletion) :
    DeletionStep host manager phase (phase.step manager host).value
      (phase.step manager host).state := by
  cases phase with
  | counting =>
      obtain ⟨entry, managed⟩ := moored.managed
      simp only [Deletion.step, Action.value_bind, Action.state_bind,
        value_manager?, state_manager?, managed]
      split
      case isTrue active => exact .refused managed active
      case isFalse idle => exact .counted managed (Nat.eq_zero_of_not_pos idle)
  | calling =>
      have state : (Driver.deleteDriver host.driver).state =
          host.driver.deleted := MemoryDriver.state_deleteDriver host.driver
      simp only [Deletion.step, Action.value_bind, Action.state_bind, value_ask,
        state_ask, state]
      cases (Driver.deleteDriver host.driver).value with
      | error failure => exact .called _
      | ok => exact .called _
  | finished outcome => exact .concluded outcome

variable {next : Host MemoryDriver}

/-- An adapter that is flagged is held as before. -/
theorem exists_of_flagged
    {id other : AdapterId}
    {value : Bool}
    (found : host.adapters.get? id = some adapter) :
    ∃ later, (host.flagged other value).adapters.get? id = some later ∧
      later.held = adapter.held := by
  unfold flagged
  rw [Table.get?_update]
  by_cases same : id = other
  · subst same
    exact ⟨{ adapter with sessionActive := value }, by simp [found], rfl⟩
  · exact ⟨adapter, by rw [if_neg same, found], rfl⟩

/-- A removal does nothing to the host but to call the driver. -/
theorem DeletionStep.host_cases
    {phase after : Deletion}
    (step : DeletionStep host manager phase after next) :
    next = host ∨ next = { host with driver := host.driver.deleted } := by
  cases step with
  | called => exact .inr rfl
  | refused | counted | concluded => exact .inl rfl

namespace StartStep

variable {start : Start} {phase after : StartPhase}

/-- A start keeps adapters, and callers hold them as before. -/
theorem adapter_held
    (step : StartStep host start adapter phase after next)
    {id : AdapterId}
    {before : Adapter}
    (found : host.adapters.get? id = some before) :
    ∃ later, next.adapters.get? id = some later ∧ later.held = before.held := by
  cases step with
  | flagged | returned | unflagged => exact exists_of_flagged found
  | refused | taken | named | unstarted | launched | eventless | obtained
  | made | admitted | ended | unnamed | concluded => exact ⟨before, found, rfl⟩

/-- A start keeps the sessions of the host and their count, or comes to its end
with one more. -/
theorem sessions_cases
    (step : StartStep host start adapter phase after next)
    (managed : ∃ entry, host.managers.get? adapter.manager = some entry) :
    next.sessions = host.sessions ∧ next.lastNumber = host.lastNumber ∧
        next.activeAt adapter.manager = host.activeAt adapter.manager ∨
      ∃ session, next.sessions =
          host.sessions.insert (host.lastNumber + 1) session ∧
        next.lastNumber = host.lastNumber + 1 ∧
        next.activeAt adapter.manager =
          host.activeAt adapter.manager + 1 := by
  cases step with
  | admitted =>
      obtain ⟨entry, managed⟩ := managed
      refine .inr ⟨_, rfl, rfl, ?_⟩
      rw [activeAt_of_managed managed]
      exact activeAt_of_update managed _
  | named => exact .inl ⟨rfl, rfl, activeAt_update rfl fun _ => rfl⟩
  | unnamed => exact .inl ⟨rfl, rfl, activeAt_update rfl fun _ => rfl⟩
  | refused | flagged | taken | returned | unstarted | launched | eventless
  | obtained | made | ended | unflagged | concluded => exact .inl ⟨rfl, rfl, rfl⟩

end StartStep

namespace Moored

/-- Steps of a start keep adapters moored. -/
theorem startStepping
    (moored : Moored manager host)
    {start : Start}
    {phase after : StartPhase}
    (step : StartStep host start adapter phase after next) :
    Moored manager next := by
  cases step with
  | refused | taken | unstarted | eventless | obtained | concluded => exact moored
  | flagged => exact moored.flagging _ _
  | returned => exact moored.flagging _ _
  | unflagged => exact moored.flagging _ _
  | named => exact moored.changeManager _ _
  | unnamed => exact moored.changeManager _ _
  | launched opened idle => exact moored.launching opened idle _
  | ended handle failure runs => exact moored.dismissing runs
  | made => exact moored.changeSignals _
  | admitted =>
      exact (moored.changeManager _ _).of_same rfl rfl rfl (Nat.le_succ _)

/-- Steps of an end keep adapters moored. -/
theorem finishStepping
    (moored : Moored manager host)
    {id : SessionId}
    {session : Session}
    {phase after : FinishPhase}
    (step : FinishStep host id session adapter phase after next) :
    Moored manager next := by
  cases step with
  | signalled => exact moored.changeSignals _
  | ended runs => exact moored.dismissing runs
  | unnamed => exact moored.changeManager _ _
  | unflagged => exact moored.flagging _ _
  | uncounted => exact moored.changeManager _ _
  | forgotten letGo =>
      have erased : Moored manager
          { host with sessions := host.sessions.erase id } :=
        moored.of_same rfl rfl rfl (Nat.le_refl _)
      exact erased.lettingGo letGo
  | concluded => exact moored

end Moored
end Host
end VirtualAdapter

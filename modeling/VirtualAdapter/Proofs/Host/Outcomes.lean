import VirtualAdapter.Proofs.Memory.Devices
import VirtualAdapter.Host.Finish
import VirtualAdapter.Host.Manager

/-!
# What calls on adapters and sessions come to

Over the in-memory driver, a start either comes to nothing or launches a
session, and an end always goes through.  The states afterwards are written
out here; what they keep is shown elsewhere.
-/

namespace VirtualAdapter
namespace Host

open Memory (MemoryDriver RunningSession)

variable {host : Host MemoryDriver}

/-- Set or clear the flag of an adapter. -/
def flagged
    (host : Host MemoryDriver)
    (id : AdapterId)
    (value : Bool) : Host MemoryDriver :=
  { host with
    adapters := host.adapters.update id fun entry =>
      { entry with sessionActive := value } }

/-- Claim a name at a manager. -/
def named
    (host : Host MemoryDriver)
    (manager : ManagerId)
    (key : String) : Host MemoryDriver :=
  { host with
    managers := host.managers.update manager fun entry =>
      { entry with running := entry.running ++ [key] } }

/-- Release a name at a manager. -/
def unnamed
    (host : Host MemoryDriver)
    (manager : ManagerId)
    (key : String) : Host MemoryDriver :=
  { host with
    managers := host.managers.update manager fun entry =>
      { entry with running := entry.running.filter (· ≠ key) } }

/-- Count a session up or down at a manager. -/
def recounted
    (host : Host MemoryDriver)
    (manager : ManagerId)
    (change : Nat → Nat) : Host MemoryDriver :=
  { host with
    managers := host.managers.update manager fun entry =>
      { entry with activeSessions := change entry.activeSessions } }

/-- Launch a session and keep it, with an event for its shutdown. -/
def launched
    (host : Host MemoryDriver)
    (adapter : AdapterId)
    (device : Nat)
    (capacity : UInt32)
    (config : SessionConfig) : Host MemoryDriver :=
  let started := host.driver.started device capacity
  { host with
    driver := (MemoryDriver.newEvent started).state
    lastNumber := host.lastNumber + 1
    sessions := host.sessions.insert (host.lastNumber + 1)
      { adapter, handle := ⟨host.driver.lastNumber + 1⟩
        readEvent := ⟨host.driver.signals.nextSignal⟩
        shutdownEvent := ⟨started.signals.nextSignal⟩
        capacity, config } }

/-- Everything that a start can come to. -/
inductive Started
    (host : Host MemoryDriver)
    (id : AdapterId) : Host MemoryDriver → Prop
  /-- The start was refused before it claimed anything. -/
  | refused : Started host id host
  /-- The name was taken, and the flag was given back. -/
  | returned : Started host id ((host.flagged id true).flagged id false)
  /-- The driver refused, and the claims were given back. -/
  | undone {adapter : Adapter} {manager : Manager}
      (found : host.adapters.get? id = some adapter)
      (managed : host.managers.get? adapter.manager = some manager)
      (free : deviceKey adapter.name ∉ manager.running) :
      Started host id
        ((((host.flagged id true).named adapter.manager
            (deviceKey adapter.name)).unnamed adapter.manager
              (deviceKey adapter.name)).flagged id false)
  /-- A session was launched. -/
  | launched {adapter : Adapter} {manager : Manager}
      {entry : Memory.OpenHandle}
      (found : host.adapters.get? id = some adapter)
      (managed : host.managers.get? adapter.manager = some manager)
      (free : deviceKey adapter.name ∉ manager.running)
      (opened : host.driver.adapters.get? adapter.handle.number = some entry)
      (idle : host.driver.isBusy entry.device = false)
      (capacity : UInt32) (config : SessionConfig) :
      Started host id
        ((((host.flagged id true).named adapter.manager
            (deviceKey adapter.name)).launched id entry.device capacity
              config).recounted adapter.manager (· + 1))

/-- The in-memory driver has an event for every session and makes every event
that it is asked for. -/
theorem newEvent_eq (driver : MemoryDriver) :
    Driver.newEvent driver =
      ⟨.ok ⟨driver.signals.nextSignal⟩,
        (MemoryDriver.newEvent driver).state, []⟩ := rfl

/-- A start does one of the things that are listed. -/
theorem started
    (managed : ∀ id adapter, host.adapters.get? id = some adapter →
      ∃ manager, host.managers.get? adapter.manager = some manager)
    (id : AdapterId)
    (config : SessionConfig) :
    Started host id (startSession id config host).state := by
  have bounds : Driver.capacityBounds host.driver = .inMemory := rfl
  unfold startSession
  cases asked : Start.capacity? .inMemory config with
  | error error =>
      simp only [Action.state_bind, Action.value_inspect, Action.state_inspect,
        bounds, asked]
      exact .refused
  | ok capacity =>
      simp only [Action.state_bind, Action.value_inspect, Action.state_inspect,
        Action.state_pure, bounds, asked, Start.longest, Start.steps]
      cases found : host.adapters.get? id with
      | none =>
          simp only [Start.step, Start.advance, found, Action.state_bind,
            Action.value_bind, value_adapter?, state_adapter?,
            Action.value_pure, Action.state_pure]
          exact .refused
      | some adapter =>
          obtain ⟨manager, known⟩ := managed id adapter found
          by_cases active : adapter.sessionActive = true
          · simp only [Start.step, Start.advance, Start.claimFlag, found,
              active, if_true, Action.state_bind, Action.value_bind,
              value_adapter?, state_adapter?, Action.value_pure,
              Action.state_pure]
            exact .refused
          by_cases taken : deviceKey adapter.name ∈ manager.running
          · simp [Start.step, Start.advance, Start.claimFlag, Start.claimName,
              Start.releaseFlag, found, active, known, taken]
            exact .returned
          rcases MemoryDriver.startSession_cases host.driver adapter.handle
            capacity with ⟨error, value, state⟩ |
              ⟨entry, opened, idle, value, state⟩
          · change (Driver.startSession adapter.handle capacity
              host.driver).value = _ at value
            change (Driver.startSession adapter.handle capacity
              host.driver).state = _ at state
            simp [Start.step, Start.advance, Start.claimFlag, Start.claimName,
              Start.releaseFlag, Start.releaseName, Start.afterFailure, found,
              active, known, taken, value, state]
            simpa [flagged, named, unnamed] using
              Started.undone found known taken
          · change (Driver.startSession adapter.handle capacity
              host.driver).value = _ at value
            change (Driver.startSession adapter.handle capacity
              host.driver).state = _ at state
            have event := fun handle (driver : MemoryDriver) =>
              show Driver.readWaitEvent handle driver =
                MemoryDriver.readWaitEvent handle driver from rfl
            simp [Start.step, Start.advance, Start.claimFlag, Start.claimName,
              Start.admission, found, active, known, taken, value, state,
              event, newEvent_eq, MemoryDriver.readWaitEvent_started]
            exact Started.launched found known taken opened idle capacity config

/-! ## Letting go -/

/-- Give an adapter back to the driver. -/
def without
    (host : Host MemoryDriver)
    (id : AdapterId)
    (adapter : Adapter)
    (entry : Memory.OpenHandle) : Host MemoryDriver :=
  { host with
    driver := host.driver.closed adapter.handle.number entry
    managers := host.managers.update adapter.manager fun entry =>
      { entry with openAdapters := entry.openAdapters - 1 }
    adapters := host.adapters.erase id }

/-- Note that the caller has let go of an adapter. -/
def unheld (host : Host MemoryDriver) (id : AdapterId) : Host MemoryDriver :=
  { host with
    adapters := host.adapters.update id fun adapter =>
      { adapter with held := false } }

/-- Everything that letting go of an adapter can come to. -/
inductive LetGo
    (host : Host MemoryDriver)
    (id : AdapterId) : Host MemoryDriver → Prop
  /-- Somebody still holds it, or there is no such adapter. -/
  | kept (held : ∀ adapter, host.adapters.get? id = some adapter →
      adapter.held = true ∨ host.isUsed id = true) : LetGo host id host
  /-- It was given back to the driver. -/
  | without {adapter : Adapter} {entry : Memory.OpenHandle}
      (found : host.adapters.get? id = some adapter)
      (opened : host.driver.adapters.get? adapter.handle.number = some entry)
      (unheld : adapter.held = false)
      (unused : host.isUsed id = false) :
      LetGo host id (host.without id adapter entry)

/-- An adapter goes when nobody holds it. -/
theorem letGo
    (opened : ∀ id adapter, host.adapters.get? id = some adapter →
      ∃ entry, host.driver.adapters.get? adapter.handle.number = some entry)
    (id : AdapterId) : LetGo host id (giveBackUnheld id host).state := by
  have current : Action.current host = ⟨host, host, []⟩ := rfl
  unfold giveBackUnheld
  rw [Action.bind_of_reply current]
  cases found : host.adapters.get? id with
  | none => exact .kept fun adapter present => by simp [found] at present
  | some adapter =>
      obtain ⟨entry, known⟩ := opened id adapter found
      by_cases kept : (adapter.held || host.isUsed id) = true
      · simp only [kept, if_true, Action.state_pure]
        refine .kept fun other present => ?_
        obtain rfl := Option.some.inj (found.symm.trans present)
        simpa using kept
      · have state : (Driver.closeAdapter adapter.handle host.driver).state =
            host.driver.closed adapter.handle.number entry :=
          MemoryDriver.state_closeAdapter known
        simp only [kept, Bool.false_eq_true, if_false, giveBack,
          Action.state_bind, state_ask, state, state_changeManager,
          Action.state_change, Action.state_trace]
        rw [Bool.or_eq_true, not_or, Bool.not_eq_true, Bool.not_eq_true] at kept
        exact .without found known kept.1 kept.2

/-- Closing an adapter lets go of it, whatever it answers. -/
theorem state_closeAdapter (host : Host MemoryDriver) (id : AdapterId) :
    (closeAdapter id host).state =
      if (host.adapters.get? id).isSome then (dropAdapter id host).state
      else host := by
  unfold closeAdapter
  simp only [Action.state_bind, value_adapter?, state_adapter?]
  cases host.adapters.get? id with
  | none => rfl
  | some adapter =>
      by_cases active : adapter.sessionActive = true <;>
        simp [active]

/-! ## Ending -/

/-- End a session, up to letting go of its adapter. -/
def ended
    (host : Host MemoryDriver)
    (id : SessionId)
    (session : Session)
    (adapter : Adapter)
    (running : RunningSession) : Host MemoryDriver :=
  let signalled := host.driver.setSignal session.shutdownEvent.number
  { ((({ host with
          driver := signalled.dismissed session.handle.number running }.unnamed
        adapter.manager (deviceKey adapter.name)).flagged session.adapter
          false).recounted adapter.manager (· - 1)) with
    sessions := host.sessions.erase id }

/-- An end without packets ends the session at the driver and then lets go of
the adapter. -/
theorem state_endSession
    {id : SessionId}
    {session : Session}
    {adapter : Adapter}
    {running : RunningSession}
    (found : host.sessions.get? id = some session)
    (opened : host.adapters.get? session.adapter = some adapter)
    (runs : host.driver.sessions.get? session.handle.number = some running)
    (inbound : running.inbound.count .delivered = 0)
    (outbound : running.outbound.count .allocated = 0) :
    (endSession id host).state =
      (giveBackUnheld session.adapter
        (host.ended id session adapter running)).state := by
  have signals : Driver.setEvent session.shutdownEvent host.driver =
      ⟨.ok (), host.driver.setSignal session.shutdownEvent.number, []⟩ := rfl
  have ends : (Driver.endSession session.handle
      (host.driver.setSignal session.shutdownEvent.number)).state =
      (host.driver.setSignal session.shutdownEvent.number).dismissed
        session.handle.number running :=
    MemoryDriver.state_endSession runs inbound outbound
  have drops : ∀ driver : MemoryDriver,
      (Driver.dropEvent session.shutdownEvent driver).state = driver :=
    fun _ => rfl
  simp [endSession, Finish.longest, Finish.steps, Finish.step, Finish.advance,
    Finish.letGo, shutdown, forgetSession, Start.releaseName,
    Start.releaseFlag, found, opened, signals, ends, drops, ended, unnamed,
    flagged, recounted]

/-! ## Opening -/

/-- Count and keep an adapter. -/
def adopted
    (host : Host MemoryDriver)
    (manager : ManagerId)
    (handle : AdapterHandle)
    (name : String) : Host MemoryDriver :=
  { host with
    lastNumber := host.lastNumber + 1
    managers := host.managers.update manager fun entry =>
      { entry with openAdapters := entry.openAdapters + 1 }
    adapters := host.adapters.insert (host.lastNumber + 1)
      { manager, handle, name } }

/-- The driver is new enough for a manager. -/
def accepts (manager : Manager) (driver : MemoryDriver) : Prop :=
  ∀ required, manager.minVersion = some required →
    driver.version.isOlder required = false

/-- An adapter is kept if the driver is new enough, and dropped again
otherwise. -/
theorem receiveAdapter_cases
    (installed : host.driver.installed = true)
    (id : ManagerId)
    (manager : Manager)
    (message name : String)
    (handle : AdapterHandle) :
    accepts manager host.driver ∧
      (receiveAdapter id manager message name (.ok handle) host).state =
        host.adopted id handle name ∨
    ¬ accepts manager host.driver ∧
      (receiveAdapter id manager message name (.ok handle) host).state =
        (dropAdapter (host.lastNumber + 1) (host.adopted id handle name)).state
    := by
  have luid : (adapterLuid handle (host.adopted id handle name)).state =
      host.adopted id handle name := rfl
  have running : ∀ driver : MemoryDriver, driver.installed = true →
      Driver.runningVersion driver = ⟨.ok driver.version, driver, []⟩ :=
    fun driver present => by
      change MemoryDriver.runningVersion driver = _
      rw [MemoryDriver.runningVersion, if_pos present]
  have version := running (host.adopted id handle name).driver installed
  have adopts : (adopt id handle name host).state =
      host.adopted id handle name := rfl
  have number : (adopt id handle name host).value = host.lastNumber + 1 := rfl
  simp only [receiveAdapter, Action.state_bind, adopts, number, luid,
    Action.state_trace, checkVersion]
  cases required : manager.minVersion with
  | none => exact .inl ⟨fun _ present => by simp [required] at present, rfl⟩
  | some required' =>
      simp only [driverVersion, Action.state_bind, value_ask, state_ask,
        version]
      cases older : host.driver.version.isOlder required' with
      | true =>
          refine .inr ⟨fun new => ?_, ?_⟩
          · simp [new required' required] at older
          · simp [adopted, older]
      | false =>
          refine .inl ⟨fun other present => ?_, ?_⟩
          · rw [required] at present
            rwa [← Option.some.inj present]
          · simp [adopted, older]

end Host
end VirtualAdapter

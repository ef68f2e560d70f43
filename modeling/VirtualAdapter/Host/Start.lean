import VirtualAdapter.Host.Adapter

/-!
# Starting sessions

A start claims the adapter's flag and then its name at the manager, starts a
session at the driver, obtains the two events, and is counted.  Each step is
atomic.  A start that is refused undoes what it did, in the opposite order.
-/

namespace VirtualAdapter
namespace Host

variable {State : Type} [Driver State]

/-- Where a start is. -/
inductive StartPhase
  /-- The adapter's flag is about to be claimed. -/
  | claimingFlag
  /-- The name is about to be claimed. -/
  | claimingName
  /-- The name was taken, and the flag is about to be given back. -/
  | returningFlag
  /-- The driver is about to start the session. -/
  | starting
  /-- The driver is about to be asked for the session's event. -/
  | obtainingEvent (handle : SessionHandle)
  /-- The event for the shutdown is about to be made. -/
  | makingEvent (handle : SessionHandle) (readEvent : EventHandle)
  /-- The session is about to be counted. -/
  | counting (handle : SessionHandle) (readEvent shutdownEvent : EventHandle)
  /-- An event was refused, and the driver is about to end the session. -/
  | ending (handle : SessionHandle) (failure : Failure)
  /-- The name is about to be released. -/
  | releasingName (failure : Failure)
  /-- The flag is about to be released. -/
  | releasingFlag (failure : Failure)
  /-- The start is over. -/
  | finished (outcome : Outcome SessionId)

/-- A start on its way. -/
structure Start where
  /-- The adapter. -/
  adapter : AdapterId
  /-- The choices of the caller. -/
  config : SessionConfig
  /-- The capacity that the driver will be asked for. -/
  capacity : UInt32

namespace Start

/-- The capacity that a configuration stands for; one that is asked for has to
be within the driver's bounds. -/
def capacity?
    (bounds : CapacityBounds)
    (config : SessionConfig) : Except Error UInt32 :=
  match config.ringCapacity with
  | some capacity => bounds.validate capacity
  | none => .ok bounds.default

/-- Claim the flag of an adapter. -/
def claimFlag (id : AdapterId) (adapter : Adapter) :
    Action (Host State) StartPhase := do
  if adapter.sessionActive then return .finished (refuse .sessionBusy)
  else
    changeAdapter id fun entry => { entry with sessionActive := true }
    return .claimingName

/-- Clear the flag of an adapter. -/
def releaseFlag (id : AdapterId) : Action (Host State) Unit :=
  changeAdapter id fun entry => { entry with sessionActive := false }

/-- Claim the name of an adapter at its manager. -/
def claimName (adapter : Adapter) : Action (Host State) StartPhase := do
  let key := deviceKey adapter.name
  let running := ((← manager? adapter.manager).map (·.running)).getD []
  if running.contains key then return .returningFlag
  else
    changeManager adapter.manager fun entry =>
      { entry with running := entry.running ++ [key] }
    return .starting

/-- Release the name of an adapter at its manager. -/
def releaseName (adapter : Adapter) : Action (Host State) Unit :=
  changeManager adapter.manager fun entry =>
    { entry with
      running := entry.running.filter (· ≠ deviceKey adapter.name) }

/-- Count and keep a session. -/
def admission
    (start : Start)
    (adapter : Adapter)
    (handle : SessionHandle)
    (readEvent shutdownEvent : EventHandle) :
    Action (Host State) StartPhase := do
  let id ← freshNumber
  changeManager adapter.manager fun entry =>
    { entry with activeSessions := entry.activeSessions + 1 }
  Action.change fun host =>
    { host with
      sessions := host.sessions.insert id
        { adapter := start.adapter, handle, readEvent, shutdownEvent
          capacity := start.capacity, config := start.config } }
  Action.trace .debug "started session"
    [("adapter", adapter.name), ("capacity", toString start.capacity)]
  return .finished (.ok id)

/-- What follows a call that failed: a refusal is undone from a phase on, while
a call that breaks off takes the start with it and leaves everything as it is. -/
def afterFailure
    (failure : Failure)
    (undoing : StartPhase) : StartPhase :=
  match failure with
  | .refused _ => undoing
  | .crashed _ => .finished (.error failure)

/-- One step of a start on an adapter that is open. -/
def advance
    (start : Start)
    (adapter : Adapter) : StartPhase → Action (Host State) StartPhase
  | .claimingFlag => claimFlag start.adapter adapter
  | .claimingName => claimName adapter
  | .returningFlag => do
      releaseFlag start.adapter
      Action.trace .warn "session already running on another handle"
        [("name", adapter.name)]
      return .finished (refuse .sessionBusy)
  | .starting => do
      match ← ask (Driver.startSession adapter.handle start.capacity) with
      | .error failure => return afterFailure failure (.releasingName failure)
      | .ok handle => return .obtainingEvent handle
  | .obtainingEvent handle => do
      match ← ask (Driver.readWaitEvent handle) with
      | .error failure => return afterFailure failure (.ending handle failure)
      | .ok readEvent => return .makingEvent handle readEvent
  | .makingEvent handle readEvent => do
      match ← ask Driver.newEvent with
      | .error failure => return afterFailure failure (.ending handle failure)
      | .ok shutdownEvent => return .counting handle readEvent shutdownEvent
  | .counting handle readEvent shutdownEvent =>
      start.admission adapter handle readEvent shutdownEvent
  | .ending handle failure => do
      ask (Driver.endSession handle)
      return .releasingName failure
  | .releasingName failure => do
      releaseName adapter
      return .releasingFlag failure
  | .releasingFlag failure => do
      releaseFlag start.adapter
      return .finished (.error failure)
  | .finished outcome => return .finished outcome

/-- One step of a start. -/
def step
    (start : Start)
    (phase : StartPhase) : Action (Host State) StartPhase := do
  match ← adapter? start.adapter with
  | none => return .finished (refuse adapterClosed)
  | some adapter => start.advance adapter phase

/-- Take a number of steps. -/
def steps
    (start : Start) : (count : Nat) → StartPhase → Action (Host State) StartPhase
  | 0, phase => return phase
  | count + 1, phase => do
      start.steps count (← start.step phase)

/-- The most steps that a start takes: two claims, three calls, three steps of
undoing. -/
def longest : Nat := 8

/-- What a start came to. -/
def outcome : StartPhase → Outcome SessionId
  | .finished outcome => outcome
  | _ => refuse .sessionBusy

end Start

/-- Start a session on an adapter. -/
def startSession
    (adapter : AdapterId)
    (config : SessionConfig) : Action (Host State) (Outcome SessionId) := do
  let bounds ← Action.inspect fun host => Driver.capacityBounds host.driver
  match Start.capacity? bounds config with
  | .error error => return refuse error
  | .ok capacity =>
      let start : Start := { adapter, config, capacity }
      return Start.outcome (← start.steps Start.longest .claimingFlag)

end Host
end VirtualAdapter

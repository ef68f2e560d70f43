import VirtualAdapter.Host.Adapter

/-!
# Managers

A manager opens adapters, checks the driver's version for each of them, and
keeps the driver from being removed while its sessions run.
-/

namespace VirtualAdapter
namespace Host

variable {State : Type} [Driver State]

/-- Make a manager; the driver's records go where it says from now on. -/
def newManager (config : ManagerConfig) :
    Action (Host State) (Outcome ManagerId) := do
  match ← ask (Driver.setSink config.logger.sink?) with
  | .error failure => return .error failure
  | .ok () =>
      let id ← freshNumber
      Action.change fun host =>
        { host with
          managers := host.managers.insert id
            { minVersion := config.minVersion
              deleteOnDrop := config.deleteOnDrop } }
      return .ok id

/-- Choose anew where the driver's records go. -/
def setLogger (logger : Logger) : Action (Host State) (Outcome Unit) := do
  Action.trace .debug "installing driver logger" [("logger", logger.text)]
  ask (Driver.setSink logger.sink?)

/-- The version of the running driver. -/
def driverVersion : Action (Host State) (Outcome DriverVersion) :=
  ask Driver.runningVersion

/-- Keep an adapter only if the running driver is new enough. -/
def checkVersion
    (manager : Manager)
    (adapter : AdapterId) : Action (Host State) (Outcome AdapterId) := do
  match manager.minVersion with
  | none => return .ok adapter
  | some required =>
      match ← driverVersion with
      | .error failure =>
          dropAdapter adapter
          return .error failure
      | .ok running =>
          if running.isOlder required then
            Action.trace .warn "driver too old"
              [("running", running.text), ("required", required.text)]
            dropAdapter adapter
            return refuse (.driver
              s!"driver version {running.text} is older than required {required.text}")
          else return .ok adapter

/-- Keep an adapter that the driver has opened, if the driver is new enough. -/
def receiveAdapter
    (id : ManagerId)
    (manager : Manager)
    (message name : String)
    (outcome : Outcome AdapterHandle) :
    Action (Host State) (Outcome AdapterId) := do
  match outcome with
  | .error failure => return .error failure
  | .ok handle =>
      let adapter ← adopt id handle name
      let luid ← adapterLuid handle
      Action.trace .debug message [("name", name), ("luid", luid.text)]
      checkVersion manager adapter

/-- Create an adapter. -/
def createAdapter
    (id : ManagerId)
    (config : AdapterConfig) : Action (Host State) (Outcome AdapterId) := do
  match ← manager? id with
  | none => return refuse managerGone
  | some manager =>
      match config.validate with
      | .error error => return refuse error
      | .ok () =>
          let outcome ← ask
            (Driver.createAdapter config.name config.tunnelType config.guid)
          receiveAdapter id manager "created adapter" config.name outcome

/-- Open the adapter of a name. -/
def openAdapter
    (id : ManagerId)
    (name : String) : Action (Host State) (Outcome AdapterId) := do
  match ← manager? id with
  | none => return refuse managerGone
  | some manager =>
      match validatePoolString "adapter name" name with
      | .error error => return refuse error
      | .ok () =>
          let outcome ← ask (Driver.openAdapter name)
          receiveAdapter id manager "opened adapter" name outcome

/-- Where the removal of a driver is. -/
inductive Deletion
  /-- The manager's sessions are about to be counted. -/
  | counting
  /-- There was none, and the driver is about to be called. -/
  | calling
  /-- The removal is over. -/
  | finished (outcome : Outcome Unit)

namespace Deletion

/-- One step of the removal. -/
def step (id : ManagerId) : Deletion → Action (Host State) Deletion
  | .counting => do
      match ← manager? id with
      | none => return .finished (refuse managerGone)
      | some manager =>
          if 0 < manager.activeSessions then
            Action.trace .warn
              "refusing to delete driver with active sessions"
              [("sessions", toString manager.activeSessions)]
            return .finished (refuse (.contractViolation
              "driver deleted while sessions are active"))
          else return .calling
  | .calling => do
      match ← ask Driver.deleteDriver with
      | .error failure => return .finished (.error failure)
      | .ok () =>
          Action.trace .debug "deleted driver"
          return .finished (.ok ())
  | .finished outcome => return .finished outcome

/-- What the removal came to. -/
def outcome : Deletion → Outcome Unit
  | .finished outcome => outcome
  | .counting | .calling => .ok ()

end Deletion

/-- Remove the driver, unless the manager has sessions. -/
def deleteDriver (id : ManagerId) : Action (Host State) (Outcome Unit) := do
  let counted ← Deletion.step id .counting
  let called ← Deletion.step id counted
  return called.outcome

/-- Let go of a manager; a manager that was asked to removes the driver,
unless its adapters or sessions still need it. -/
def dropManager (id : ManagerId) : Action (Host State) Unit := do
  match ← manager? id with
  | none => return ()
  | some manager =>
      if !manager.deleteOnDrop then return ()
      else if 0 < manager.activeSessions || 0 < manager.openAdapters then
        Action.trace .debug "adapters still open, keeping driver"
      else
        match ← ask Driver.deleteDriver with
        | .ok () => return ()
        | .error failure =>
            Action.trace .warn "failed to delete driver"
              [("error", failure.message)]

/-- The description of a manager. -/
def managerText (host : Host State) (manager : Manager) : String :=
  Text.describeFields "SessionManager"
    [("driver", Driver.text host.driver),
      ("adapters", toString manager.openAdapters),
      ("sessions", toString manager.activeSessions)]

end Host
end VirtualAdapter

import VirtualAdapter.Driver
import VirtualAdapter.Host.Config
import VirtualAdapter.SessionStats

/-!
# The host side of a driver

Managers share a driver.  Each one counts the adapters and sessions that were
obtained through it and knows on which names sessions run.  Adapters, sessions
and borrowed packets are named by numbers that are never given out twice.
-/

namespace VirtualAdapter

open Signal (Nanoseconds)

namespace Host

/-- The name of a manager. -/
abbrev ManagerId := Nat

/-- The name of an adapter. -/
abbrev AdapterId := Nat

/-- The name of a session. -/
abbrev SessionId := Nat

/-- The name of a borrowed packet. -/
abbrev PacketId := Nat

/-- What a manager keeps. -/
structure Manager where
  /-- The oldest driver version that is accepted. -/
  minVersion : Option DriverVersion
  /-- Remove the driver with the manager. -/
  deleteOnDrop : Bool
  /-- Adapters that are open, those kept open by a session included. -/
  openAdapters : Nat := 0
  /-- Sessions that were started and not ended. -/
  activeSessions : Nat := 0
  /-- The names, in lower case, on which sessions run or are being started. -/
  running : List String := []

/-- An open adapter. -/
structure Adapter where
  /-- The manager through which it was opened. -/
  manager : ManagerId
  /-- The driver's handle. -/
  handle : AdapterHandle
  /-- The name under which it was opened. -/
  name : String
  /-- A session was started through it, or is being started. -/
  sessionActive : Bool := false
  /-- The caller still holds it. -/
  held : Bool := true

/-- A running session. -/
structure Session where
  /-- The adapter on which it was started. -/
  adapter : AdapterId
  /-- The driver's handle. -/
  handle : SessionHandle
  /-- The event that is set while packets can be received. -/
  readEvent : EventHandle
  /-- The event that is set from the shutdown on. -/
  shutdownEvent : EventHandle
  /-- The capacity of its rings. -/
  capacity : UInt32
  /-- The choices of its starter. -/
  config : SessionConfig
  /-- What it has moved so far. -/
  stats : SessionStats := {}

/-- A packet that was borrowed from the driver. -/
structure HeldPacket where
  /-- The session that borrowed it. -/
  session : SessionId
  /-- Received, or to be sent. -/
  direction : Direction
  /-- The packet. -/
  raw : RawPacket

end Host

/-- A driver with everything that was obtained from it. -/
structure Host (State : Type) where
  /-- The driver. -/
  driver : State
  /-- The managers. -/
  managers : Table Host.ManagerId Host.Manager := ∅
  /-- The open adapters. -/
  adapters : Table Host.AdapterId Host.Adapter := ∅
  /-- The running sessions. -/
  sessions : Table Host.SessionId Host.Session := ∅
  /-- The borrowed packets. -/
  packets : Table Host.PacketId Host.HeldPacket := ∅
  /-- The number given out last. -/
  lastNumber : Nat := 0
  /-- The present moment. -/
  clock : Nanoseconds := 0

namespace Host

variable {State : Type} {Value : Type}

/-- An action of the driver alone. -/
def ask (action : Action State Value) : Action (Host State) Value :=
  action.on (·.driver) fun host driver => { host with driver }

/-- Change the driver's memory. -/
def changeDriver (step : State → State) : Action (Host State) Unit :=
  Action.change fun host => { host with driver := step host.driver }

/-- Give out a number. -/
def freshNumber : Action (Host State) Nat :=
  fun host =>
    ⟨host.lastNumber + 1, { host with lastNumber := host.lastNumber + 1 }, []⟩

/-- The manager of a number. -/
def manager? (id : ManagerId) : Action (Host State) (Option Manager) :=
  Action.inspect fun host => host.managers.get? id

/-- The adapter of a number. -/
def adapter? (id : AdapterId) : Action (Host State) (Option Adapter) :=
  Action.inspect fun host => host.adapters.get? id

/-- The session of a number. -/
def session? (id : SessionId) : Action (Host State) (Option Session) :=
  Action.inspect fun host => host.sessions.get? id

/-- The sessions that were started and not ended. -/
def sessionIds : Action (Host State) (List SessionId) :=
  Action.inspect fun host => host.sessions.keys

/-- The packet of a number. -/
def packet? (id : PacketId) : Action (Host State) (Option HeldPacket) :=
  Action.inspect fun host => host.packets.get? id

/-- Change a manager. -/
def changeManager
    (id : ManagerId)
    (step : Manager → Manager) : Action (Host State) Unit :=
  Action.change fun host =>
    { host with managers := host.managers.update id step }

/-- Change an adapter. -/
def changeAdapter
    (id : AdapterId)
    (step : Adapter → Adapter) : Action (Host State) Unit :=
  Action.change fun host =>
    { host with adapters := host.adapters.update id step }

/-- Count something in a session. -/
def count
    (id : SessionId)
    (step : SessionStats → SessionStats) : Action (Host State) Unit :=
  Action.change fun host =>
    { host with
      sessions := host.sessions.update id fun session =>
        { session with stats := step session.stats } }

/-- The refusal of a call on an adapter that is not open. -/
def adapterClosed : Error := .contractViolation "adapter is not open"

/-- The refusal of a call on a manager that is not there. -/
def managerGone : Error := .contractViolation "manager is not there"

/-- The name of the adapter of a session. -/
def sessionName (host : Host State) (session : Session) : String :=
  ((host.adapters.get? session.adapter).map (·.name)).getD ""

/-- The name by which a device is known to its manager. -/
def deviceKey (name : String) : String :=
  String.ofList (name.toList.map Char.toLower)

end Host
end VirtualAdapter

import VirtualAdapter.Driver
import VirtualAdapter.Ring.PacketRing

/-!
# The in-memory driver: its state

Devices carry the names; open handles and running sessions name the device
that they belong to.  A device registers the session that runs on it.
-/

namespace VirtualAdapter
namespace Memory

open VirtualAdapter.Ring (PacketRing)
open Signal (Bank SignalId)

/-- A registered adapter. -/
structure Device where
  /-- The name under which it was created. -/
  name : String
  /-- Its interface identifier. -/
  luid : Luid
  /-- The identifier that its creator asked for. -/
  guid : Option Guid
  /-- The number of open handles.  After fewer than 2^32 requests to a new driver
  it is below 2^32. -/
  handles : Nat
  /-- The session that runs on it. -/
  session : Option Nat

/-- An open handle. -/
structure OpenHandle where
  /-- The device that it opens. -/
  device : Nat
  /-- It came from creating the device. -/
  created : Bool

/-- A running session. -/
structure RunningSession where
  /-- The device on which it runs. -/
  device : Nat
  /-- Packets on their way to the application. -/
  inbound : PacketRing
  /-- Packets on their way to the network side. -/
  outbound : PacketRing
  /-- The event that is set while a packet can be received. -/
  readEvent : SignalId
  /-- The device was taken away under the session. -/
  failed : Bool

/-- A call that changed the driver. -/
inductive DriverCall
  | create (name : String)
  | openExisting (name : String)
  | close (name : String)
  | start (name : String)
  | finish (name : String)
  | delete
  deriving DecidableEq

/-- A call on one line. -/
def DriverCall.text : DriverCall → String
  | create name => "create:" ++ name
  | openExisting name => "open:" ++ name
  | close name => "close:" ++ name
  | start name => "start:" ++ name
  | finish name => "end:" ++ name
  | delete => "delete"

/-- A call that broke the rules of the driver. -/
structure Violation where
  /-- The action that was called. -/
  operation : String
  /-- The rule that it broke. -/
  detail : String
  deriving DecidableEq

/-- A violation on one line. -/
def Violation.text (violation : Violation) : String :=
  violation.operation ++ ": " ++ violation.detail

/-- The version that the driver reports unless told otherwise. -/
def defaultVersion : DriverVersion := ⟨0, 14⟩

/-- The state of an in-memory driver. -/
structure MemoryDriver where
  /-- The driver is in the system. -/
  installed : Bool := true
  /-- The version that it reports. -/
  version : DriverVersion := defaultVersion
  /-- The registered devices by number. -/
  devices : Table Nat Device := ∅
  /-- The open handles by number. -/
  adapters : Table Nat OpenHandle := ∅
  /-- The running sessions by number. -/
  sessions : Table Nat RunningSession := ∅
  /-- The number given out last.  After fewer than 2^32 requests to a new driver
  it is below 2^64. -/
  lastNumber : Nat := 0
  /-- The interface index given out last.  After fewer than 2^32 requests to a new
  driver it is below 2^32. -/
  lastIndex : Nat := 0
  /-- The most slots that all rings together may have, if limited. -/
  slotBudget : Option Nat := none
  /-- The slots of all rings.  A session has fewer than 2^33 of them, so while
  fewer than 2^31 sessions run they are fewer than 2^64. -/
  slotsInUse : Nat := 0
  /-- The calls so far, first ones first. -/
  calls : List DriverCall := []
  /-- The violations so far, first ones first. -/
  violations : List Violation := []
  /-- Where records go. -/
  sink : Option Sink := none
  /-- The events of sessions and of the callers. -/
  signals : Bank := {}

/-- Two names are equal up to the case of ASCII letters. -/
def sameName (left right : String) : Bool :=
  left.toList.map Char.toLower == right.toList.map Char.toLower

namespace MemoryDriver

/-- The number of the device of a name. -/
def deviceNamed? (driver : MemoryDriver) (name : String) : Option Nat :=
  (driver.devices.entries.find? fun entry => sameName entry.2.name name).map
    (·.1)

/-- The name of a device; devices that are gone have an empty one. -/
def deviceName (driver : MemoryDriver) (device : Nat) : String :=
  ((driver.devices.get? device).map (·.name)).getD ""

/-- The session that runs on the device of a name. -/
def sessionFor? (driver : MemoryDriver) (name : String) :
    Option (Nat × RunningSession) := do
  let number ← driver.deviceNamed? name
  let device ← driver.devices.get? number
  let session ← device.session
  let entry ← driver.sessions.get? session
  return (session, entry)

/-- Put a session in another state. -/
def setSession
    (driver : MemoryDriver)
    (number : Nat)
    (session : RunningSession) : MemoryDriver :=
  { driver with sessions := driver.sessions.insert number session }

/-- Set an event. -/
def setSignal (driver : MemoryDriver) (signal : SignalId) : MemoryDriver :=
  { driver with signals := driver.signals.set signal }

/-- Reset an event. -/
def resetSignal (driver : MemoryDriver) (signal : SignalId) : MemoryDriver :=
  { driver with signals := driver.signals.reset signal }

/-- Note a call. -/
def noteCall (driver : MemoryDriver) (call : DriverCall) : MemoryDriver :=
  { driver with calls := driver.calls ++ [call] }

/-- What the driver's record leaves behind. -/
def record
    (driver : MemoryDriver)
    (level : LogLevel)
    (message : String) : List Note :=
  Note.ofSink driver.sink level message

/-- Note a broken rule. -/
def violate (operation detail : String) : Action MemoryDriver Unit :=
  fun driver =>
    ⟨(), { driver with violations := driver.violations ++ [⟨operation, detail⟩] },
      [.traced .warn "driver contract violation"
        [("op", operation), ("detail", detail)]]⟩

/-- The description of an adapter handle. -/
def adapterText (adapter : AdapterHandle) : String :=
  s!"MemAdapter({adapter.number})"

/-- The description of a session handle. -/
def sessionText (session : SessionHandle) : String :=
  s!"MemSession({session.number})"

/-- The number of running sessions. -/
def sessionCount (driver : MemoryDriver) : Nat := driver.sessions.size

/-- The number of received packets that were not given back. -/
def outstandingPackets (driver : MemoryDriver) : Nat :=
  driver.sessions.values.foldr
    (fun session total => session.inbound.count .delivered + total) 0

/-- A device has this name. -/
def adapterExists (driver : MemoryDriver) (name : String) : Bool :=
  (driver.deviceNamed? name).isSome

/-- The description of the driver. -/
def text (driver : MemoryDriver) : String :=
  Text.describeFields "MemDriver"
    [("installed", Text.truth driver.installed),
      ("devices", toString driver.devices.size),
      ("sessions", toString driver.sessions.size)]

end MemoryDriver
end Memory
end VirtualAdapter

import VirtualAdapter.Memory.Driver

/-!
# Commands for the network side of the in-memory driver

These commands need no handles: they name devices.
-/

namespace VirtualAdapter
namespace Bench

open Memory

/-- What can be asked of the network side. -/
inductive PeerCommand
  | inject (name : String) (content : Bytes)
  | drain (name : String)
  | fail (name : String)
  | exists (name : String)
  | calls
  | violations

/-- What the network side answers. -/
inductive PeerAnswer
  | flag (value : Bool)
  | contents (packets : List Bytes)
  | calls (calls : List DriverCall)
  | violations (violations : List Violation)

namespace PeerCommand

/-- Carry out a command. -/
def run : PeerCommand → Action MemoryDriver PeerAnswer
  | .inject name content => do
      return .flag (← MemoryDriver.inject name content)
  | .drain name => do
      return .contents (← MemoryDriver.drainOutbound name)
  | .fail name => do
      return .flag (← MemoryDriver.failSession name)
  | .exists name =>
      Action.inspect fun driver => .flag (driver.adapterExists name)
  | .calls => Action.inspect fun driver => .calls driver.calls
  | .violations => Action.inspect fun driver => .violations driver.violations

end PeerCommand

/-- How an in-memory driver looks from outside. -/
structure DriverView where
  /-- Running sessions. -/
  sessions : Nat
  /-- Received packets that are still out. -/
  outstanding : Nat
  /-- Violations so far. -/
  violations : Nat
  /-- Calls so far. -/
  calls : Nat
  /-- The driver is in the system. -/
  installed : Bool

/-- The look of a driver. -/
def DriverView.of (driver : MemoryDriver) : DriverView where
  sessions := driver.sessionCount
  outstanding := driver.outstandingPackets
  violations := driver.violations.length
  calls := driver.calls.length
  installed := driver.installed

end Bench
end VirtualAdapter

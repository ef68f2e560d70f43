import VirtualAdapter.DriverVersion
import VirtualAdapter.Guid
import VirtualAdapter.Limits
import VirtualAdapter.Log
import VirtualAdapter.Signal.Wait

/-!
# Configurations

What callers choose for managers, adapters and sessions, and what holds when
they choose nothing.
-/

namespace VirtualAdapter
namespace Host

open Signal (Nanoseconds nanosecondsPerMillisecond)

/-- The choices for a manager. -/
structure ManagerConfig where
  /-- Where the driver's records go. -/
  logger : Logger := .trace
  /-- The oldest driver version that is accepted. -/
  minVersion : Option DriverVersion := none
  /-- Remove the driver with the manager. -/
  deleteOnDrop : Bool := false
  deriving DecidableEq

/-- The type of adapters that ask for none. -/
def defaultTunnelType : String := "tunring"

/-- The choices for a new adapter. -/
structure AdapterConfig where
  /-- Its name. -/
  name : String
  /-- Its type. -/
  tunnelType : String := defaultTunnelType
  /-- The identifier that it shall have. -/
  guid : Option Guid := none
  deriving DecidableEq

/-- Name and type have to fit the driver's pool; the name is checked first. -/
def AdapterConfig.validate (config : AdapterConfig) : Except Error Unit :=
  match validatePoolString "adapter name" config.name with
  | .error error => .error error
  | .ok () => validatePoolString "tunnel type" config.tunnelType

/-- The choices for a session. -/
structure SessionConfig where
  /-- The capacity of its rings, or the driver's own choice. -/
  ringCapacity : Option UInt32 := none
  /-- How often a receiver looks before it sleeps. -/
  spinCount : UInt32 := 64
  /-- How often a sender tries again when the ring is full. -/
  sendRetries : UInt32 := 50
  /-- How long a sender waits before it tries again. -/
  sendBackoff : Nanoseconds := nanosecondsPerMillisecond
  deriving DecidableEq

end Host
end VirtualAdapter

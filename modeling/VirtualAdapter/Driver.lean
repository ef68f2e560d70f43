import VirtualAdapter.Action
import VirtualAdapter.DriverVersion
import VirtualAdapter.Guid
import VirtualAdapter.Limits
import VirtualAdapter.Luid
import VirtualAdapter.Packet
import VirtualAdapter.Signal.Wait

/-!
# Drivers

What the library asks of a driver for virtual adapters and of the events that
belong to it.  A driver is a type of states with these actions; handles are
numbers that the driver gives out.
-/

namespace VirtualAdapter

open Signal (Nanoseconds Wait Wakeup)

/-- A driver's name for an open adapter. -/
structure AdapterHandle where
  /-- The number that the driver gave out. -/
  number : Nat
  deriving DecidableEq

/-- A driver's name for a running session. -/
structure SessionHandle where
  /-- The number that the driver gave out. -/
  number : Nat
  deriving DecidableEq

/-- The name of an event. -/
structure EventHandle where
  /-- The number that was given out. -/
  number : Nat
  deriving DecidableEq

/-- What becomes of a wait when it begins. -/
inductive WaitStart
  /-- It is over at once. -/
  | over (outcome : Wakeup)
  /-- It goes on step by step. -/
  | waiting (wait : Wait)

/-- The actions of a driver on its states. -/
class Driver (State : Type) where
  /-- The ring capacities that sessions may ask for. -/
  capacityBounds : State → CapacityBounds
  /-- Create an adapter with a name and a type and open it. -/
  createAdapter :
    (name tunnelType : String) → Option Guid →
      Action State (Outcome AdapterHandle)
  /-- Open the adapter of a name. -/
  openAdapter : (name : String) → Action State (Outcome AdapterHandle)
  /-- Give an open adapter back. -/
  closeAdapter : AdapterHandle → Action State Unit
  /-- The interface identifier of an open adapter. -/
  adapterLuid : AdapterHandle → Action State Luid
  /-- The version of the running driver. -/
  runningVersion : Action State (Outcome DriverVersion)
  /-- Remove the driver from the system. -/
  deleteDriver : Action State (Outcome Unit)
  /-- Choose where the driver's records go. -/
  setSink : Option Sink → Action State (Outcome Unit)
  /-- Start a session with rings of a capacity. -/
  startSession :
    AdapterHandle → (capacity : UInt32) → Action State (Outcome SessionHandle)
  /-- End a session. -/
  endSession : SessionHandle → Action State Unit
  /-- The event that is set while packets can be received. -/
  readWaitEvent : SessionHandle → Action State (Outcome EventHandle)
  /-- Borrow the next packet. -/
  receivePacket : SessionHandle → Action State (Outcome RawPacket)
  /-- Give a received packet back. -/
  releaseReceived : SessionHandle → RawPacket → Action State Unit
  /-- Borrow a buffer to be sent. -/
  allocateSend :
    SessionHandle → (size : Nat) → Action State (Outcome RawPacket)
  /-- Give a filled buffer back to be sent. -/
  sendPacket : SessionHandle → RawPacket → Action State Unit
  /-- The bytes of a borrowed packet. -/
  readPacket : RawPacket → State → Bytes
  /-- Change the bytes of a borrowed packet from a place on. -/
  writePacket : RawPacket → (start : Nat) → Bytes → State → State
  /-- Make an event that stays set until it is reset. -/
  newEvent : Action State (Outcome EventHandle)
  /-- Set an event. -/
  setEvent : EventHandle → Action State (Outcome Unit)
  /-- Reset an event. -/
  resetEvent : EventHandle → Action State (Outcome Unit)
  /-- Look whether an event is set. -/
  isEventSet : EventHandle → Action State Bool
  /-- Give an event back that the library made. -/
  dropEvent : EventHandle → Action State Unit
  /-- Begin to wait for an event, with one that cancels the wait, possibly one
  that interrupts it, and possibly a limited time. -/
  beginWait :
    (own cancel : EventHandle) → (interrupt : Option EventHandle) →
      (timeout : Option Nanoseconds) → (now : Nanoseconds) →
        Action State (Outcome WaitStart)
  /-- Take one step of a wait that goes on. -/
  stepWait : Wait → (now : Nanoseconds) → State → Wait × State
  /-- The wait sleeps until something happens. -/
  isWaitAsleep : Wait → (now : Nanoseconds) → State → Bool
  /-- The description of an adapter handle. -/
  adapterText : State → AdapterHandle → String
  /-- The description of a session handle. -/
  sessionText : State → SessionHandle → String
  /-- The description of the driver. -/
  text : State → String

end VirtualAdapter

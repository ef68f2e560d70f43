import VirtualAdapter.Driver
import VirtualAdapter.Kernel.ErrorCode
import VirtualAdapter.Kernel.Event

/-!
# The kernel driver as a driver

Every action is a call of the library, with its arguments checked before and
its failures read from the code of the last failed call.
-/

namespace VirtualAdapter
namespace Kernel

open Signal (Nanoseconds)

variable {Value : Type}

/-- A name as the library takes it. -/
def wide (what value : String) : Except Error (List UInt16) :=
  (validatePoolString what value).map fun () =>
    Text.Utf16.encodeTerminated value

/-- Refuse with the cause that the last code stands for. -/
def refuseBy (cause : OsCode → Error) : Action Machine (Outcome Value) := do
  let code ← Action.inspect (·.lastError)
  return refuse (cause code)

/-- What a call that gives out a handle comes to. -/
def handleOutcome
    (call : Call)
    (wrap : Handle → Value)
    (cause : OsCode → Error) : Action Machine (Outcome Value) := do
  match ← Machine.handleCall call with
  | some handle => return .ok (wrap handle)
  | none => refuseBy cause

/-- Create an adapter. -/
def createAdapter
    (name tunnelType : String)
    (guid : Option Guid) : Action Machine (Outcome AdapterHandle) := do
  match wide "adapter name" name, wide "tunnel type" tunnelType with
  | .error error, _ | .ok _, .error error => return refuse error
  | .ok wideName, .ok wideType =>
      handleOutcome (.createAdapter wideName wideType guid) AdapterHandle.mk
        (createError name)

/-- Open the adapter of a name. -/
def openAdapter (name : String) : Action Machine (Outcome AdapterHandle) := do
  match wide "adapter name" name with
  | .error error => return refuse error
  | .ok wideName =>
      handleOutcome (.openAdapter wideName) AdapterHandle.mk (openError name)

/-- The version of the running driver. -/
def runningVersion : Action Machine (Outcome DriverVersion) := do
  let raw ← Machine.runningVersion
  if raw = 0 then refuseBy versionError
  else return .ok (.ofRaw raw)

/-- Remove the driver from the system. -/
def deleteDriver : Action Machine (Outcome Unit) := do
  if ← Machine.deleteDriver then return .ok () else refuseBy deleteError

/-- Choose where the records go; without a choice the library does not call
back. -/
def setSink (sink : Option Sink) : Action Machine Unit := do
  Action.change fun machine => { machine with sink }
  Machine.setCallback sink.isSome

/-- Start a session. -/
def startSession
    (adapter : AdapterHandle)
    (capacity : UInt32) : Action Machine (Outcome SessionHandle) := do
  match CapacityBounds.kernel.validate capacity with
  | .error error => return refuse error
  | .ok capacity =>
      handleOutcome (.startSession adapter.number capacity) SessionHandle.mk
        (errorOf "start session")

/-- The event of a session. -/
def readWaitEvent
    (session : SessionHandle) : Action Machine (Outcome EventHandle) :=
  handleOutcome (.getReadWaitEvent session.number) EventHandle.mk
    (errorOf "get read wait event")

/-- The packet in a buffer. -/
def packetIn (machine : Machine) (buffer : Nat) : RawPacket where
  address := { buffer := .numbered buffer }
  length := (machine.content buffer).length

/-- The buffer of a packet. -/
def bufferOf (packet : RawPacket) : Nat :=
  match packet.address.buffer with
  | .numbered number => number
  | .slot _ _ _ => 0

/-- What a call that gives out a buffer comes to. -/
def packetOutcome
    (buffer : Option Nat)
    (operation : String) : Action Machine (Outcome RawPacket) :=
  match buffer with
  | some number => Action.inspect fun machine => .ok (packetIn machine number)
  | none => refuseBy (errorOf operation)

/-- Borrow the next packet. -/
def receivePacket
    (session : SessionHandle) : Action Machine (Outcome RawPacket) := do
  packetOutcome (← Machine.receivePacket session.number) "receive packet"

/-- Borrow a buffer to be sent. -/
def allocateSend
    (session : SessionHandle)
    (size : Nat) : Action Machine (Outcome RawPacket) := do
  match validatePacketSize size with
  | .error error => return refuse error
  | .ok size =>
      packetOutcome (← Machine.allocateSendPacket session.number size)
        "allocate send packet"

/-- Hand a buffer back with a call. -/
def handBack
    (call : Handle → Nat → Bytes → Call)
    (session : SessionHandle)
    (packet : RawPacket) : Action Machine Unit := do
  let buffer := bufferOf packet
  let content ← Action.inspect fun machine => machine.content buffer
  Machine.command (call session.number buffer content)

/-- Give a received packet back. -/
def releaseReceived
    (session : SessionHandle)
    (packet : RawPacket) : Action Machine Unit :=
  handBack .releaseReceivePacket session packet

/-- Give a filled buffer back to be sent. -/
def sendPacket
    (session : SessionHandle)
    (packet : RawPacket) : Action Machine Unit :=
  handBack .sendPacket session packet

/-- The bytes of a packet. -/
def readPacket (packet : RawPacket) (machine : Machine) : Bytes :=
  packet.view (machine.content (bufferOf packet))

/-- Change the bytes of a packet from a place on. -/
def writePacket
    (packet : RawPacket)
    (start : Nat)
    (content : Bytes)
    (machine : Machine) : Machine :=
  let buffer := bufferOf packet
  { machine with
    buffers := machine.buffers.update buffer (Bytes.overwrite start content) }

/-- Wait for events; the system comes back when the wait is over. -/
def beginWait
    (own cancel : EventHandle)
    (interrupt : Option EventHandle)
    (timeout : Option Nanoseconds) : Action Machine (Outcome WaitStart) := do
  let outcome ← Event.wait own.number cancel.number (interrupt.map (·.number))
    timeout
  return outcome.map .over

/-- The description of an adapter handle. -/
def adapterText (adapter : AdapterHandle) : String :=
  "WintunAdapterHandle(" ++ Text.markedHexText adapter.number ++ ")"

/-- The description of a session handle. -/
def sessionText (session : SessionHandle) : String :=
  "WintunSessionHandle(" ++ Text.markedHexText session.number ++ ")"

/-- The description of the driver. -/
def driverText : String := "Wintun \x7b .. \x7d"

instance : Driver Machine where
  capacityBounds := fun _ => .kernel
  createAdapter := createAdapter
  openAdapter := openAdapter
  closeAdapter := fun adapter => Machine.command (.closeAdapter adapter.number)
  adapterLuid := fun adapter => do
    return ⟨← Machine.adapterLuid adapter.number⟩
  runningVersion := runningVersion
  deleteDriver := deleteDriver
  setSink := fun sink => do
    setSink sink
    return .ok ()
  startSession := startSession
  endSession := fun session => Machine.command (.endSession session.number)
  readWaitEvent := readWaitEvent
  receivePacket := receivePacket
  releaseReceived := releaseReceived
  allocateSend := allocateSend
  sendPacket := sendPacket
  readPacket := readPacket
  writePacket := writePacket
  newEvent := do return (← Event.new).map EventHandle.mk
  setEvent := fun event => Event.set event.number
  resetEvent := fun event => Event.reset event.number
  isEventSet := fun event => Event.isSet event.number
  dropEvent := fun event => Event.close event.number
  beginWait := fun own cancel interrupt timeout _ =>
    beginWait own cancel interrupt timeout
  stepWait := fun wait _ machine => (wait, machine)
  isWaitAsleep := fun _ _ _ => true
  adapterText := fun _ adapter => adapterText adapter
  sessionText := fun _ session => sessionText session
  text := fun _ => driverText

end Kernel
end VirtualAdapter

import VirtualAdapter.Action
import VirtualAdapter.IoError
import VirtualAdapter.Kernel.Call
import VirtualAdapter.Table

/-!
# A machine with the kernel driver

The machine is a scripted stand-in for the driver's library and for the system,
whose code is not at hand.  It notes every call, gives out handles, keeps buffers
and events, and can be told what the next calls of a function do.  What is proved
about it holds for every script, so for whatever the library and the system may
answer.
-/

namespace VirtualAdapter
namespace Kernel

/-- What a call of a function does. -/
inductive Behaviour
  /-- It fails with a code. -/
  | fails (code : UInt32)
  /-- It returns a number. -/
  | returns (value : Nat)
  /-- It returns a buffer. -/
  | delivers (content : Bytes)
  /-- It does what it always does. -/
  | usual

/-- The state of a machine, a scripted stand-in for the driver's library and the
system. -/
structure Machine where
  /-- The handle given out last. -/
  lastHandle : Handle := 0
  /-- The number of buffers so far. -/
  lastBuffer : Nat := 0
  /-- The buffers by number. -/
  buffers : Table Nat Bytes := ∅
  /-- The events that were set or reset. -/
  events : Table Handle Bool := ∅
  /-- The code of the call that failed last. -/
  lastError : OsCode := ⟨0⟩
  /-- What the next calls of a function do. -/
  scripts : Table Function (List Behaviour) := ∅
  /-- The library was given a callback for its records. -/
  hasCallback : Bool := false
  /-- Where the callback of this process sends the records. -/
  sink : Option Sink := none
  /-- The calls so far, first ones first. -/
  calls : List Call := []

namespace Machine

variable {Value : Type}

/-- The distance of handles. -/
def handleStep : Nat := 16

/-- The code that says that no packet is there. -/
def noMoreItems : UInt32 := 259

/-- What a wait returns when its time is over. -/
def waitTimeout : UInt32 := 258

/-- What a wait returns when it fails. -/
def waitFailed : UInt32 := 0xFFFFFFFF

/-- The time of a wait without an end. -/
def infinite : UInt32 := 0xFFFFFFFF

/-- The version that the driver reports unless told otherwise. -/
def usualVersion : UInt32 := 14

/-- The interface identifier of every adapter unless told otherwise. -/
def usualLuid : UInt64 := 0x0035000001000000

/-- Tell what the next calls of a function do, after those told before. -/
def script
    (function : Function)
    (behaviours : List Behaviour) : Action Machine Unit :=
  Action.change fun machine =>
    { machine with
      scripts := machine.scripts.insert function
        (((machine.scripts.get? function).getD []) ++ behaviours) }

/-- Note a call and take what it does off the script of its function. -/
def begin (call : Call) : Action Machine Behaviour :=
  fun machine =>
    let noted := { machine with calls := machine.calls ++ [call] }
    match machine.scripts.get? call.function with
    | none | some [] => ⟨.usual, noted, []⟩
    | some (first :: rest) =>
        ⟨first, { noted with
          scripts := machine.scripts.insert call.function rest }, []⟩

/-- Note the code of a failure. -/
def fail (code : UInt32) : Action Machine Unit :=
  Action.change fun machine => { machine with lastError := ⟨code⟩ }

/-- Note a call that returns nothing; it can fail all the same. -/
def command (call : Call) : Action Machine Unit := do
  match ← begin call with
  | .fails code => fail code
  | .returns _ | .delivers _ | .usual => return ()

/-- Give out a handle. -/
def newHandle : Action Machine Handle :=
  fun machine =>
    let handle := machine.lastHandle + handleStep
    ⟨handle, { machine with lastHandle := handle }, []⟩

/-- A call that gives out a handle, or none when it fails. -/
def handleCall (call : Call) : Action Machine (Option Handle) := do
  match ← begin call with
  | .fails code =>
      fail code
      return none
  | .returns _ | .delivers _ | .usual => return some (← newHandle)

/-- Keep a new buffer. -/
def newBuffer (content : Bytes) : Action Machine Nat :=
  fun machine =>
    let number := machine.lastBuffer + 1
    ⟨number,
      { machine with
        lastBuffer := number
        buffers := machine.buffers.insert number content }, []⟩

/-- The content of a buffer. -/
def content (machine : Machine) (buffer : Nat) : Bytes :=
  (machine.buffers.get? buffer).getD []

/-- The version of the running driver, zero when the call fails. -/
def runningVersion : Action Machine UInt32 := do
  match ← begin .getRunningDriverVersion with
  | .fails code =>
      fail code
      return 0
  | .returns value => return UInt32.ofNat value
  | .delivers _ | .usual => return usualVersion

/-- Remove the driver; answers whether that was done. -/
def deleteDriver : Action Machine Bool := do
  match ← begin .deleteDriver with
  | .fails code =>
      fail code
      return false
  | .returns value => return UInt32.ofNat value != 0
  | .delivers _ | .usual => return true

/-- The interface identifier of an adapter. -/
def adapterLuid (adapter : Handle) : Action Machine UInt64 := do
  match ← begin (.getAdapterLuid adapter) with
  | .fails code =>
      fail code
      return 0
  | .returns value => return UInt64.ofNat value
  | .delivers _ | .usual => return usualLuid

/-- Take the next packet, if the call does not fail. -/
def receivePacket (session : Handle) : Action Machine (Option Nat) := do
  match ← begin (.receivePacket session) with
  | .delivers content => return some (← newBuffer content)
  | .fails code =>
      fail code
      return none
  | .returns _ | .usual =>
      fail noMoreItems
      return none

/-- Take a buffer of zeros, if the call does not fail. -/
def allocateSendPacket
    (session : Handle)
    (size : Nat) : Action Machine (Option Nat) := do
  match ← begin (.allocateSendPacket session size) with
  | .fails code =>
      fail code
      return none
  | .returns _ | .delivers _ | .usual =>
      return some (← newBuffer (Bytes.zeros size))

/-- Choose whether the library calls back with its records. -/
def setCallback (hasCallback : Bool) : Action Machine Unit := do
  command (.setLogger hasCallback)
  Action.change fun machine => { machine with hasCallback }

/-- Set or reset an event; answers whether that was done. -/
def putEvent (call : Call) (event : Handle) (isSet : Bool) :
    Action Machine Bool := do
  match ← begin call with
  | .fails code =>
      fail code
      return false
  | .returns _ | .delivers _ | .usual =>
      Action.change fun machine =>
        { machine with events := machine.events.insert event isSet }
      return true

/-- The event is set. -/
def isSet (machine : Machine) (event : Handle) : Bool :=
  (machine.events.get? event).getD false

/-- The place of the first event that is set, or the mark of a wait whose time
is over. -/
def firstSet (machine : Machine) (events : List Handle) : UInt32 :=
  match events.findIdx? machine.isSet with
  | some place => UInt32.ofNat place
  | none => waitTimeout

/-- A wait for the first of several events. -/
def wait (call : Call) (events : List Handle) : Action Machine UInt32 := do
  match ← begin call with
  | .fails code =>
      fail code
      return waitFailed
  | .returns value => return UInt32.ofNat value
  | .delivers _ | .usual =>
      Action.inspect fun machine => machine.firstSet events

end Machine
end Kernel
end VirtualAdapter

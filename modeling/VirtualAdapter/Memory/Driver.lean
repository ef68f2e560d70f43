import VirtualAdapter.Memory.Peer

/-!
# The in-memory driver as a driver

Its events are signals of its own bank, and a wait takes the steps of a wait
for signals.
-/

namespace VirtualAdapter
namespace Memory
namespace MemoryDriver

open Signal (Nanoseconds Wait)

/-- Make an event. -/
def newEvent : Action MemoryDriver (Outcome EventHandle) :=
  fun driver =>
    let (signal, signals) := driver.signals.newSignal
    ⟨.ok ⟨signal⟩, { driver with signals }, []⟩

/-- Begin a wait for signals; it breaks off if the clock cannot name its
deadline. -/
def beginWait
    (own cancel : EventHandle)
    (interrupt : Option EventHandle)
    (timeout : Option Nanoseconds)
    (now : Nanoseconds) : Action MemoryDriver (Outcome WaitStart) :=
  fun driver =>
    match Wait.startWithin driver.signals own.number cancel.number
        (interrupt.map (·.number)) timeout now with
    | none => ⟨.error .beyondClock, driver, []⟩
    | some (wait, signals) => ⟨.ok (.waiting wait), { driver with signals }, []⟩

/-- Take one step of a wait for signals. -/
def stepWait
    (wait : Wait)
    (now : Nanoseconds)
    (driver : MemoryDriver) : Wait × MemoryDriver :=
  let (wait, signals) := wait.step now driver.signals
  (wait, { driver with signals })

instance : Driver MemoryDriver where
  capacityBounds := fun _ => .inMemory
  createAdapter := createAdapter
  openAdapter := openAdapter
  closeAdapter := closeAdapter
  adapterLuid := adapterLuid
  runningVersion := runningVersion
  deleteDriver := deleteDriver
  setSink := fun sink => do
    setSink sink
    return .ok ()
  startSession := startSession
  endSession := endSession
  readWaitEvent := readWaitEvent
  receivePacket := receivePacket
  releaseReceived := releaseReceived
  allocateSend := allocateSend
  sendPacket := sendPacket
  readPacket := readPacket
  writePacket := writePacket
  newEvent := newEvent
  setEvent := fun event driver => ⟨.ok (), driver.setSignal event.number, []⟩
  resetEvent := fun event driver => ⟨.ok (), driver.resetSignal event.number, []⟩
  isEventSet := fun event driver =>
    ⟨driver.signals.isSet event.number, driver, []⟩
  dropEvent := fun _ driver => ⟨(), driver, []⟩
  beginWait := beginWait
  stepWait := stepWait
  isWaitAsleep := fun wait now driver => wait.isAsleep now driver.signals
  adapterText := fun _ adapter => adapterText adapter
  sessionText := fun _ session => sessionText session
  text := text

end MemoryDriver
end Memory
end VirtualAdapter

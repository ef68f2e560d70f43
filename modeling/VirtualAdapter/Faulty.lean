import VirtualAdapter.Driver
import VirtualAdapter.Table

/-!
# Drivers with faults

A faulty driver hands every call on to the driver behind it, unless a fault of
the called method is due.  A fault lets some calls pass, then fails some, and
is over after that.  A call that fails does not reach the driver.
-/

namespace VirtualAdapter

/-- What can be made to fail. -/
inductive Method
  | createAdapter
  | openAdapter
  | runningVersion
  | deleteDriver
  | setSink
  | startSession
  | readWaitEvent
  | receivePacket
  | allocateSend
  | newEvent
  | setEvent
  | wait
  /-- Setting up a driver fails before there is one. -/
  | setUp
  /-- Making a driver fails. -/
  | make
  /-- The network side does not put a packet in. -/
  | inject
  /-- The network side puts a damaged packet in. -/
  | damage
  /-- The network side loses what it takes out. -/
  | drain
  /-- The network side does not take a device away. -/
  | fail
  /-- One packet too many is counted as outstanding. -/
  | countOutstanding
  /-- One violation too many is counted. -/
  | countViolations
  deriving DecidableEq

/-- When a method fails, and how. -/
structure Fault where
  /-- How many calls still pass. -/
  skip : Nat
  /-- How many calls fail after them. -/
  times : Nat
  /-- How they fail. -/
  failure : Failure

namespace Fault

/-- The failure of the next call, if it fails, and the fault after it. -/
def next (fault : Fault) : Option Failure × Fault :=
  match fault.skip, fault.times with
  | skip + 1, _ => (none, { fault with skip })
  | 0, times + 1 => (some fault.failure, { fault with times })
  | 0, 0 => (none, fault)

end Fault

/-- A driver with faults. -/
structure Faulty (State : Type) where
  /-- The driver behind it. -/
  driver : State
  /-- The faults by method. -/
  faults : Table Method Fault := ∅
  /-- The capacity bounds that it claims instead of its own. -/
  claimedBounds : Option CapacityBounds := none

namespace Faulty

variable {State Value : Type}

/-- Let a method fail from now on as a fault says. -/
def plant (method : Method) (fault : Fault) : Action (Faulty State) Unit :=
  Action.change fun faulty =>
    { faulty with faults := faulty.faults.insert method fault }

/-- Take all faults out. -/
def heal : Action (Faulty State) Unit :=
  Action.change fun faulty => { faulty with faults := ∅ }

/-- Count a call of a method, and say how it fails if it does. -/
def failureOf (method : Method) : Action (Faulty State) (Option Failure) :=
  fun faulty =>
    match faulty.faults.get? method with
    | none => ⟨none, faulty, []⟩
    | some fault =>
        let (failure, left) := fault.next
        ⟨failure,
          { faulty with faults := faulty.faults.insert method left }, []⟩

/-- A call that reaches the driver in any case. -/
def pass (action : Action State Value) : Action (Faulty State) Value :=
  action.on (·.driver) fun faulty driver => { faulty with driver }

/-- A call that a fault can keep from the driver. -/
def guarded
    (method : Method)
    (action : Action State (Outcome Value)) :
    Action (Faulty State) (Outcome Value) := do
  match ← failureOf method with
  | some failure => return .error failure
  | none => pass action

/-- What a fault makes of a call, given what a refusal stands for; a call that
breaks off does so in any case. -/
def orElse
    (method : Method)
    (refusal passing : Action (Faulty State) (Outcome Value)) :
    Action (Faulty State) (Outcome Value) := do
  match ← failureOf method with
  | none => passing
  | some (.refused _) => refusal
  | some (.crashed message) => return .error (.crashed message)

instance [Driver State] : Driver (Faulty State) where
  capacityBounds := fun faulty =>
    faulty.claimedBounds.getD (Driver.capacityBounds faulty.driver)
  createAdapter := fun name tunnelType guid =>
    guarded .createAdapter (Driver.createAdapter name tunnelType guid)
  openAdapter := fun name => guarded .openAdapter (Driver.openAdapter name)
  closeAdapter := fun adapter => pass (Driver.closeAdapter adapter)
  adapterLuid := fun adapter => pass (Driver.adapterLuid adapter)
  runningVersion := guarded .runningVersion Driver.runningVersion
  deleteDriver := guarded .deleteDriver Driver.deleteDriver
  setSink := fun sink =>
    orElse .setSink (return .ok ()) (pass (Driver.setSink sink))
  startSession := fun adapter capacity =>
    guarded .startSession (Driver.startSession adapter capacity)
  endSession := fun session => pass (Driver.endSession session)
  readWaitEvent := fun session =>
    guarded .readWaitEvent (Driver.readWaitEvent session)
  receivePacket := fun session =>
    guarded .receivePacket (Driver.receivePacket session)
  releaseReceived := fun session packet =>
    pass (Driver.releaseReceived session packet)
  allocateSend := fun session size =>
    guarded .allocateSend (Driver.allocateSend session size)
  sendPacket := fun session packet => pass (Driver.sendPacket session packet)
  readPacket := fun packet faulty => Driver.readPacket packet faulty.driver
  writePacket := fun packet start content faulty =>
    { faulty with
      driver := Driver.writePacket packet start content faulty.driver }
  newEvent := guarded .newEvent Driver.newEvent
  setEvent := fun event => guarded .setEvent (Driver.setEvent event)
  resetEvent := fun event => pass (Driver.resetEvent event)
  isEventSet := fun event => pass (Driver.isEventSet event)
  dropEvent := fun event => pass (Driver.dropEvent event)
  beginWait := fun own cancel interrupt timeout now =>
    guarded .wait (Driver.beginWait own cancel interrupt timeout now)
  stepWait := fun wait now faulty =>
    let (wait, driver) := Driver.stepWait wait now faulty.driver
    (wait, { faulty with driver })
  isWaitAsleep := fun wait now faulty =>
    Driver.isWaitAsleep wait now faulty.driver
  adapterText := fun faulty adapter => Driver.adapterText faulty.driver adapter
  sessionText := fun faulty session => Driver.sessionText faulty.driver session
  text := fun faulty => Driver.text faulty.driver

end Faulty
end VirtualAdapter

import VirtualAdapter.Driver

/-!
# Recorded drivers

A recorded driver hands every call on to the driver behind it.  It writes down
the calls that name an adapter, a session or a packet, and those that make or
set an event, each with its outcome.
-/

namespace VirtualAdapter

/-- A call of a driver that is written down, with its outcome. -/
inductive Exchange
  /-- An adapter was created or opened. -/
  | opened (outcome : Outcome AdapterHandle)
  /-- An adapter was closed. -/
  | closed (adapter : AdapterHandle)
  /-- The interface identifier of an adapter was read. -/
  | identified (adapter : AdapterHandle)
  /-- A session was started on an adapter. -/
  | started (adapter : AdapterHandle) (outcome : Outcome SessionHandle)
  /-- A session was ended. -/
  | ended (session : SessionHandle)
  /-- The read event of a session was asked for. -/
  | askedEvent (session : SessionHandle) (outcome : Outcome EventHandle)
  /-- A packet was received. -/
  | received (session : SessionHandle) (outcome : Outcome RawPacket)
  /-- A received packet was given back. -/
  | released (session : SessionHandle) (packet : RawPacket)
  /-- A buffer to be sent was allocated. -/
  | allocated (session : SessionHandle) (outcome : Outcome RawPacket)
  /-- A buffer was sent. -/
  | sent (session : SessionHandle) (packet : RawPacket)
  /-- The bytes of a packet were changed from a place on. -/
  | wrote (packet : RawPacket) (start : Nat) (content : Bytes)
  /-- An event was made. -/
  | madeEvent (outcome : Outcome EventHandle)
  /-- An event was set. -/
  | setEvent (event : EventHandle) (outcome : Outcome Unit)

/-- A driver and what was written down about it. -/
structure Recorded (State : Type) where
  /-- The driver behind it. -/
  driver : State
  /-- The calls, first ones first. -/
  log : List Exchange := []

namespace Recorded

variable {State Value : Type}

/-- A call that is not written down. -/
def pass (action : Action State Value) : Action (Recorded State) Value :=
  action.on (·.driver) fun recorded driver => { recorded with driver }

/-- A call that is written down with its outcome. -/
def write
    (exchange : Value → Exchange)
    (action : Action State Value) : Action (Recorded State) Value :=
  fun recorded =>
    let reply := action recorded.driver
    ⟨reply.value,
      ⟨reply.state, recorded.log ++ [exchange reply.value]⟩, reply.notes⟩

instance [Driver State] : Driver (Recorded State) where
  capacityBounds := fun recorded => Driver.capacityBounds recorded.driver
  createAdapter := fun name tunnelType guid =>
    write .opened (Driver.createAdapter name tunnelType guid)
  openAdapter := fun name => write .opened (Driver.openAdapter name)
  closeAdapter := fun adapter =>
    write (fun _ => .closed adapter) (Driver.closeAdapter adapter)
  adapterLuid := fun adapter =>
    write (fun _ => .identified adapter) (Driver.adapterLuid adapter)
  runningVersion := pass Driver.runningVersion
  deleteDriver := pass Driver.deleteDriver
  setSink := fun sink => pass (Driver.setSink sink)
  startSession := fun adapter capacity =>
    write (.started adapter) (Driver.startSession adapter capacity)
  endSession := fun session =>
    write (fun _ => .ended session) (Driver.endSession session)
  readWaitEvent := fun session =>
    write (.askedEvent session) (Driver.readWaitEvent session)
  receivePacket := fun session =>
    write (.received session) (Driver.receivePacket session)
  releaseReceived := fun session packet =>
    write (fun _ => .released session packet)
      (Driver.releaseReceived session packet)
  allocateSend := fun session size =>
    write (.allocated session) (Driver.allocateSend session size)
  sendPacket := fun session packet =>
    write (fun _ => .sent session packet) (Driver.sendPacket session packet)
  readPacket := fun packet recorded => Driver.readPacket packet recorded.driver
  writePacket := fun packet start content recorded =>
    ⟨Driver.writePacket packet start content recorded.driver,
      recorded.log ++ [.wrote packet start content]⟩
  newEvent := write .madeEvent Driver.newEvent
  setEvent := fun event => write (.setEvent event) (Driver.setEvent event)
  resetEvent := fun event => pass (Driver.resetEvent event)
  isEventSet := fun event => pass (Driver.isEventSet event)
  dropEvent := fun event => pass (Driver.dropEvent event)
  beginWait := fun own cancel interrupt timeout now =>
    pass (Driver.beginWait own cancel interrupt timeout now)
  stepWait := fun wait now recorded =>
    let (wait, driver) := Driver.stepWait wait now recorded.driver
    (wait, { recorded with driver })
  isWaitAsleep := fun wait now recorded =>
    Driver.isWaitAsleep wait now recorded.driver
  adapterText := fun recorded adapter =>
    Driver.adapterText recorded.driver adapter
  sessionText := fun recorded session =>
    Driver.sessionText recorded.driver session
  text := fun recorded => Driver.text recorded.driver

end Recorded
end VirtualAdapter

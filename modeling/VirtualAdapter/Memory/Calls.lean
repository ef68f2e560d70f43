import VirtualAdapter.Memory.State

/-!
# The in-memory driver: its calls

Every call is one step on the whole state.  Calls with a handle that the
driver does not know, and packets that it did not lend, are noted as
violations and change nothing else.
-/

namespace VirtualAdapter
namespace Memory
namespace MemoryDriver

open VirtualAdapter.Ring (PacketRing RingError SlotHandle SlotPointer)

/-- Some device was created with this identifier. -/
def guidInUse (driver : MemoryDriver) (guid : Guid) : Bool :=
  driver.devices.values.any fun device => device.guid = some guid

/-- Register a device with a handle that opens it. -/
def register
    (driver : MemoryDriver)
    (name : String)
    (guid : Option Guid) : MemoryDriver :=
  let index := driver.lastIndex + 1
  let device := driver.lastNumber + 1
  let handle := device + 1
  { driver with
    installed := true
    lastIndex := index
    lastNumber := handle
    devices := driver.devices.insert device
      { name, luid := .ofParts (UInt32.ofNat index) Luid.virtualInterface,
        guid, handles := 1, session := none }
    adapters := driver.adapters.insert handle ⟨device, true⟩ }

/-- Create a device, unless its name or identifier is in use. -/
def createAdapter
    (name tunnelType : String)
    (guid : Option Guid) : Action MemoryDriver (Outcome AdapterHandle) :=
  fun driver =>
    if (driver.deviceNamed? name).isSome then
      ⟨refuse (.driver s!"adapter {name} already exists"), driver,
        driver.record .error s!"{name}: adapter already exists"⟩
    else
      match guid.filter driver.guidInUse with
      | some guid =>
          ⟨refuse (.driver s!"adapter GUID {guid.text} in use"), driver, []⟩
      | none =>
          let registered := driver.register name guid
          ⟨.ok ⟨registered.lastNumber⟩, registered.noteCall (.create name),
            driver.record .info
              s!"{name}: created adapter of type {tunnelType}"⟩

/-- Open the device of a name once more. -/
def openAdapter
    (name : String) : Action MemoryDriver (Outcome AdapterHandle) :=
  fun driver =>
    match driver.deviceNamed? name with
    | none => ⟨refuse (.notFound name), driver, []⟩
    | some device =>
        let handle := driver.lastNumber + 1
        ⟨.ok ⟨handle⟩,
          { driver with
            lastNumber := handle
            devices := driver.devices.update device fun entry =>
              { entry with handles := entry.handles + 1 }
            adapters := driver.adapters.insert handle ⟨device, false⟩
            calls := driver.calls ++ [.openExisting name] }, []⟩

/-- What closing a handle comes to. -/
structure Closing where
  /-- The driver without the handle. -/
  driver : MemoryDriver
  /-- A session runs on the device. -/
  active : Bool
  /-- The device goes with this handle. -/
  removed : Bool

/-- Take a handle away from its device and remove the device if that was the
handle of its creator or the last one, unless a session runs on it. -/
def forgetHandle
    (driver : MemoryDriver)
    (handle : Nat)
    (entry : OpenHandle) : Closing :=
  let driver := { driver with adapters := driver.adapters.erase handle }
  match driver.devices.get? entry.device with
  | none => ⟨driver, false, entry.created⟩
  | some device =>
      let handles := device.handles - 1
      let removed := entry.created || handles == 0
      let active := device.session.isSome
      let devices :=
        if removed && !active then driver.devices.erase entry.device
        else driver.devices.insert entry.device { device with handles }
      ⟨{ driver with devices }, active, removed⟩

/-- Close a handle. -/
def closeAdapter (adapter : AdapterHandle) : Action MemoryDriver Unit :=
  fun driver =>
    match driver.adapters.get? adapter.number with
    | none =>
        violate "close_adapter" s!"unknown adapter {adapterText adapter}" driver
    | some entry =>
        let name := driver.deviceName entry.device
        let closing := driver.forgetHandle adapter.number entry
        let closed := closing.driver.noteCall (.close name)
        if closing.active then
          violate "close_adapter"
            s!"{name}: closed while a session is active" closed
        else if closing.removed then
          ⟨(), closed, closed.record .info s!"{name}: removed adapter"⟩
        else ⟨(), closed, []⟩

/-- The interface identifier behind a handle. -/
def adapterLuid (adapter : AdapterHandle) : Action MemoryDriver Luid :=
  fun driver =>
    let device := (driver.adapters.get? adapter.number).bind fun entry =>
      driver.devices.get? entry.device
    ⟨(device.map (·.luid)).getD Luid.none, driver, []⟩

/-- The version, while the driver is in the system. -/
def runningVersion : Action MemoryDriver (Outcome DriverVersion) :=
  fun driver =>
    if driver.installed then ⟨.ok driver.version, driver, []⟩
    else ⟨refuse (.driver "driver is not loaded"), driver, []⟩

/-- Remove the driver, unless a session runs or a device is registered. -/
def deleteDriver : Action MemoryDriver (Outcome Unit) :=
  fun driver =>
    let noted := driver.noteCall .delete
    if !noted.sessions.isEmpty then
      let reply := violate "delete_driver" "sessions still active" noted
      { reply with value := refuse (.driver "driver is in use") }
    else if !noted.devices.isEmpty then
      ⟨refuse (.driver
        s!"driver is in use by {noted.devices.size} adapter(s)"), noted, []⟩
    else
      let deleted := { noted with installed := false }
      ⟨.ok (), deleted, deleted.record .info "driver removed"⟩

/-- Choose where records go. -/
def setSink (sink : Option Sink) : Action MemoryDriver Unit :=
  fun driver => ⟨(), { driver with sink }, []⟩

/-- More slots fit the budget. -/
def fitsBudget (driver : MemoryDriver) (slots : Nat) : Bool :=
  match driver.slotBudget with
  | none => true
  | some budget => driver.slotsInUse + slots ≤ budget

/-- The device behind a handle runs a session. -/
def isBusy (driver : MemoryDriver) (device : Nat) : Bool :=
  ((driver.devices.get? device).bind (·.session)).isSome

/-- Put a session with empty rings on a device. -/
def launch
    (driver : MemoryDriver)
    (device : Nat)
    (capacity : UInt32) : MemoryDriver :=
  let number := driver.lastNumber + 1
  let (readEvent, signals) := driver.signals.newSignal
  { driver with
    slotsInUse := driver.slotsInUse + 2 * capacity.toNat
    lastNumber := number
    signals
    sessions := driver.sessions.insert number
      { device, inbound := .ofCapacity capacity,
        outbound := .ofCapacity capacity, readEvent, failed := false }
    devices := driver.devices.update device fun entry =>
      { entry with session := some number } }

/-- Start a session with two rings of a capacity. -/
def startSession
    (adapter : AdapterHandle)
    (capacity : UInt32) : Action MemoryDriver (Outcome SessionHandle) :=
  fun driver =>
    match CapacityBounds.inMemory.validate capacity with
    | .error error => ⟨refuse error, driver, []⟩
    | .ok capacity =>
        match driver.adapters.get? adapter.number with
        | none =>
            ⟨refuse (.driver s!"unknown adapter {adapterText adapter}"),
              driver, []⟩
        | some entry =>
            if driver.isBusy entry.device then
              ⟨refuse .sessionBusy, driver, []⟩
            else if !driver.fitsBudget (2 * capacity.toNat) then
              ⟨refuse (.resourceExhausted "ring memory"), driver, []⟩
            else
              let launched := driver.launch entry.device capacity
              let name := launched.deviceName entry.device
              ⟨.ok ⟨launched.lastNumber⟩, launched.noteCall (.start name),
                [.traced .debug "started in-memory session"
                  [("adapter", name), ("capacity", toString capacity)]]⟩

/-- Take a session off its device, and the device away if nobody holds it. -/
def dismiss
    (driver : MemoryDriver)
    (number : Nat)
    (session : RunningSession) : MemoryDriver :=
  let driver :=
    { driver with
      sessions := driver.sessions.erase number
      slotsInUse := driver.slotsInUse - 2 * session.inbound.capacity }
  match driver.devices.get? session.device with
  | none => driver
  | some device =>
      let devices :=
        if device.handles = 0 then driver.devices.erase session.device
        else driver.devices.insert session.device
          { device with session := none }
      { driver with devices }

/-- Note packets that are left at the end of a session, if there are any. -/
def violateLeft
    (name : String)
    (count : Nat)
    (what : String) : Action MemoryDriver Unit :=
  if count = 0 then .answer ()
  else violate "end_session" s!"{name}: ended with {count} {what} packet(s)"

/-- End a session, waking whoever waits for its event. -/
def endSession (session : SessionHandle) : Action MemoryDriver Unit :=
  fun driver =>
    match driver.sessions.get? session.number with
    | none =>
        violate "end_session" s!"unknown session {sessionText session}" driver
    | some entry =>
        let name := driver.deviceName entry.device
        let ended :=
          ((driver.dismiss session.number entry).noteCall
            (.finish name)).setSignal entry.readEvent
        Action.andThen
          (violateLeft name (entry.inbound.count .delivered) "unreleased")
          (fun _ =>
            violateLeft name (entry.outbound.count .allocated) "unsent")
          ended

/-- The event of a running session. -/
def readWaitEvent
    (session : SessionHandle) : Action MemoryDriver (Outcome EventHandle) :=
  fun driver =>
    match driver.sessions.get? session.number with
    | none => ⟨refuse .sessionEnded, driver, []⟩
    | some entry => ⟨.ok ⟨entry.readEvent⟩, driver, []⟩

/-- The packet in a slot of a ring. -/
def lend
    (session : SessionHandle)
    (direction : Direction)
    (ring : PacketRing)
    (handle : SlotHandle) : Outcome RawPacket :=
  match ring.bufferPointer handle with
  | .error error => refuse (.driver error.message)
  | .ok (pointer, length) =>
      .ok
        { address := ⟨.slot session.number direction pointer.index, 0⟩
          length
          tag := handle.toTag }

/-- Lend the oldest packet that waits; the event is reset with the last one. -/
def receivePacket
    (session : SessionHandle) : Action MemoryDriver (Outcome RawPacket) :=
  fun driver =>
    match driver.sessions.get? session.number with
    | none => ⟨refuse .sessionEnded, driver, []⟩
    | some entry =>
        if entry.failed then ⟨refuse .sessionEnded, driver, []⟩
        else
          match entry.inbound.pop with
          | none =>
              ⟨refuse .wouldBlock, driver.resetSignal entry.readEvent, []⟩
          | some (handle, inbound) =>
              let popped :=
                driver.setSession session.number { entry with inbound }
              let settled :=
                if inbound.isDrained then popped.resetSignal entry.readEvent
                else popped
              ⟨lend session .inbound inbound handle, settled, []⟩

/-- The place in a ring that an address names. -/
def pointerInto
    (session : SessionHandle)
    (direction : Direction)
    (address : Address) : Option SlotPointer :=
  match address.buffer with
  | .slot owner way index =>
      if owner = session.number ∧ way = direction then
        some ⟨index, address.offset⟩
      else none
  | .numbered _ => none

/-- Take a packet back into the ring that lent it. -/
def handBack
    (operation kind : String)
    (accept : RunningSession → Except RingError RunningSession)
    (session : SessionHandle) : Action MemoryDriver Unit :=
  fun driver =>
    match driver.sessions.get? session.number with
    | none => violate operation "unknown session" driver
    | some entry =>
        match accept entry with
        | .error error =>
            violate operation s!"PTR is not {kind} packet: {error.message}"
              driver
        | .ok entry => ⟨(), driver.setSession session.number entry, []⟩

/-- The inbound ring accepts a packet that it lent and that is still out. -/
def acceptReceived
    (session : SessionHandle)
    (packet : RawPacket)
    (entry : RunningSession) : Except RingError RunningSession := do
  let handle ← entry.inbound.resolve (.ofTag packet.tag)
    (pointerInto session .inbound packet.address) .delivered
  let inbound ← entry.inbound.release handle
  return { entry with inbound }

/-- The outbound ring accepts a buffer that it lent and that is still out. -/
def acceptAllocated
    (session : SessionHandle)
    (packet : RawPacket)
    (entry : RunningSession) : Except RingError RunningSession := do
  let handle ← entry.outbound.resolve (.ofTag packet.tag)
    (pointerInto session .outbound packet.address) .allocated
  let outbound ← entry.outbound.commit handle
  return { entry with outbound }

/-- Take a received packet back. -/
def releaseReceived
    (session : SessionHandle)
    (packet : RawPacket) : Action MemoryDriver Unit :=
  handBack "release_receive_packet" "a received"
    (acceptReceived session packet) session

/-- Why no buffer is lent. -/
def allocationError : RingError → Error
  | .full => .resourceExhausted "send ring"
  | other => .driver other.message

/-- Lend a zeroed buffer. -/
def allocateSend
    (session : SessionHandle)
    (size : Nat) : Action MemoryDriver (Outcome RawPacket) :=
  fun driver =>
    match validatePacketSize size with
    | .error error => ⟨refuse error, driver, []⟩
    | .ok size =>
        match driver.sessions.get? session.number with
        | none => ⟨refuse .sessionEnded, driver, []⟩
        | some entry =>
            if entry.failed then ⟨refuse .sessionEnded, driver, []⟩
            else
              match entry.outbound.alloc size with
              | .error error => ⟨refuse (allocationError error), driver, []⟩
              | .ok (handle, outbound) =>
                  ⟨lend session .outbound outbound handle,
                    driver.setSession session.number { entry with outbound },
                    []⟩

/-- Take a buffer back to be sent. -/
def sendPacket
    (session : SessionHandle)
    (packet : RawPacket) : Action MemoryDriver Unit :=
  handBack "send_packet" "an allocated" (acceptAllocated session packet) session

/-- The ring of a session in one direction. -/
def ring (entry : RunningSession) : Direction → PacketRing
  | .inbound => entry.inbound
  | .outbound => entry.outbound

/-- The bytes behind a lent packet. -/
def readPacket (packet : RawPacket) (driver : MemoryDriver) : Bytes :=
  match packet.address.buffer with
  | .numbered _ => []
  | .slot session direction index =>
      match driver.sessions.get? session with
      | none => []
      | some entry =>
          (((ring entry direction).peek index).drop
            packet.address.offset.toNat).take packet.length

/-- Change the bytes behind a lent packet. -/
def writePacket
    (packet : RawPacket)
    (start : Nat)
    (content : Bytes)
    (driver : MemoryDriver) : MemoryDriver :=
  match packet.address.buffer with
  | .numbered _ => driver
  | .slot session direction index =>
      match driver.sessions.get? session with
      | none => driver
      | some entry =>
          let change (ring : PacketRing) :=
            ring.poke index
              (Bytes.overwrite (packet.address.offset.toNat + start)
                (content.take (packet.length - start)) (ring.peek index))
          driver.setSession session
            (match direction with
            | .inbound => { entry with inbound := change entry.inbound }
            | .outbound => { entry with outbound := change entry.outbound })

end MemoryDriver
end Memory
end VirtualAdapter

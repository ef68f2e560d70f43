import VirtualAdapter.Proofs.Action
import VirtualAdapter.Proofs.Ring.Count
import VirtualAdapter.Proofs.Table
import VirtualAdapter.Memory.Driver

/-!
# Devices, handles and sessions of the in-memory driver

A device registers the session that runs on it, and a session knows its
device.  Both agree as long as the device is registered; a device can go while
handles of it stay open, and a session can then run on what is left.
-/

namespace VirtualAdapter
namespace Memory

/-- The record of a close under a running session. -/
def closedEarly (name : String) : Violation :=
  ⟨"close_adapter", s!"{name}: closed while a session is active"⟩

/-- The record of a removal of the driver under a running session. -/
def deletedEarly : Violation := ⟨"delete_driver", "sessions still active"⟩

namespace MemoryDriver

/-- Devices, handles and sessions agree. -/
structure Agreed (driver : MemoryDriver) : Prop where
  /-- No device has two entries. -/
  proper : driver.devices.IsProper
  /-- Devices have been given numbers. -/
  device_le : ∀ number device, driver.devices.get? number = some device →
    number ≤ driver.lastNumber
  /-- A device that is registered knows the session that runs on it. -/
  owned : ∀ number running device,
    driver.sessions.get? number = some running →
    driver.devices.get? running.device = some device →
      device.session = some number
  /-- The session that a device knows runs on it. -/
  runs : ∀ number device session,
    driver.devices.get? number = some device →
    device.session = some session →
      ∃ running, driver.sessions.get? session = some running ∧
        running.device = number
  /-- Sessions and their devices have been given numbers. -/
  session_le : ∀ number running,
    driver.sessions.get? number = some running →
      number ≤ driver.lastNumber ∧ running.device ≤ driver.lastNumber
  /-- Handles and their devices have been given numbers. -/
  handle_le : ∀ number entry,
    driver.adapters.get? number = some entry →
      number ≤ driver.lastNumber ∧ entry.device ≤ driver.lastNumber

/-- Devices and sessions agree, and no packet is out. -/
structure Consistent (driver : MemoryDriver) : Prop extends Agreed driver where
  /-- Neither direction has lent a packet. -/
  quiet : ∀ number running,
    driver.sessions.get? number = some running →
      running.inbound.count .delivered = 0 ∧
        running.outbound.count .allocated = 0

variable {driver : MemoryDriver}

/-- A new driver has no devices, handles and sessions that could disagree. -/
theorem agreed_new
    (version : DriverVersion)
    (slotBudget : Option Nat)
    (sink : Option Sink) :
    Agreed ({ version, slotBudget, sink } : MemoryDriver) :=
  ⟨Table.isProper_empty, fun _ _ present => by simp at present,
    fun _ _ _ present => by simp at present,
    fun _ _ _ present => by simp at present,
    fun _ _ present => by simp at present,
    fun _ _ present => by simp at present⟩

/-- What a session is about shows in no other table. -/
theorem Agreed.of_same
    {next : MemoryDriver}
    (agreed : Agreed driver)
    (devices : next.devices = driver.devices)
    (adapters : next.adapters = driver.adapters)
    (lastNumber : next.lastNumber = driver.lastNumber)
    (sessions : ∀ number, (next.sessions.get? number).map (·.device) =
      (driver.sessions.get? number).map (·.device)) : Agreed next := by
  have earlier : ∀ number running, next.sessions.get? number = some running →
      ∃ before, driver.sessions.get? number = some before ∧
        before.device = running.device := by
    intro number running present
    have same := sessions number
    rw [present] at same
    exact Option.map_eq_some_iff.mp same.symm
  constructor
  case proper => exact devices ▸ agreed.proper
  case device_le =>
    rw [devices, lastNumber]
    exact agreed.device_le
  case owned =>
    intro number running device present found
    obtain ⟨before, known, same⟩ := earlier number running present
    rw [devices, ← same] at found
    exact agreed.owned number before device known found
  case runs =>
    intro number device session found equal
    rw [devices] at found
    obtain ⟨before, known, on⟩ := agreed.runs number device session found equal
    have same := sessions session
    rw [known] at same
    obtain ⟨running, present, kept⟩ := Option.map_eq_some_iff.mp same
    exact ⟨running, present, kept.trans on⟩
  case session_le =>
    intro number running present
    obtain ⟨before, known, same⟩ := earlier number running present
    rw [lastNumber, ← same]
    exact agreed.session_le number before known
  case handle_le =>
    rw [adapters, lastNumber]
    exact agreed.handle_le

/-- A device is busy exactly if it is registered and a session runs on it. -/
theorem Agreed.isBusy_iff
    (agreed : Agreed driver)
    (number : Nat) :
    driver.isBusy number = true ↔
      (driver.devices.get? number).isSome = true ∧
        ∃ session running, driver.sessions.get? session = some running ∧
          running.device = number := by
  unfold isBusy
  cases found : driver.devices.get? number with
  | none => simp
  | some device =>
      simp only [Option.bind_some, Option.isSome_some, true_and]
      constructor
      · intro busy
        obtain ⟨session, equal⟩ := Option.isSome_iff_exists.mp busy
        obtain ⟨running, present, same⟩ :=
          agreed.runs number device session found equal
        exact ⟨session, running, present, same⟩
      · rintro ⟨session, running, present, rfl⟩
        rw [agreed.owned session running device present found]
        rfl

/-! ## Opening -/

/-- A device is created and opened, or nothing happens. -/
theorem createAdapter_cases
    (driver : MemoryDriver)
    (name tunnelType : String)
    (guid : Option Guid) :
    (∃ failure,
      (createAdapter name tunnelType guid driver).value = .error failure ∧
      (createAdapter name tunnelType guid driver).state = driver) ∨
    (createAdapter name tunnelType guid driver).value =
        .ok ⟨driver.lastNumber + 2⟩ ∧
      (createAdapter name tunnelType guid driver).state =
        (driver.register name guid).noteCall (.create name) := by
  unfold createAdapter
  split
  case isTrue => exact .inl ⟨_, rfl, rfl⟩
  case isFalse =>
    split
    · exact .inl ⟨_, rfl, rfl⟩
    · exact .inr ⟨rfl, rfl⟩

/-- Names are the same exactly if they are known by one key. -/
theorem sameName_iff {left right : String} :
    sameName left right = true ↔
      left.toList.map Char.toLower = right.toList.map Char.toLower :=
  beq_iff_eq

/-- The device of a name is registered under a name that is the same. -/
theorem Agreed.exists_of_deviceNamed?
    (agreed : Agreed driver)
    {name : String}
    {number : Nat}
    (found : driver.deviceNamed? name = some number) :
    ∃ device, driver.devices.get? number = some device ∧
      sameName device.name name = true := by
  obtain ⟨⟨other, device⟩, first, rfl⟩ := Option.map_eq_some_iff.mp found
  have same := List.find?_some first
  exact ⟨device,
    (Table.lookup_eq_some_iff agreed.proper).mpr
      (List.mem_of_find?_eq_some first), same⟩

/-- The driver after a device was opened once more. -/
def reopened
    (driver : MemoryDriver)
    (name : String)
    (device : Nat) : MemoryDriver :=
  { driver with
    lastNumber := driver.lastNumber + 1
    devices := driver.devices.update device fun entry =>
      { entry with handles := entry.handles + 1 }
    adapters := driver.adapters.insert (driver.lastNumber + 1) ⟨device, false⟩
    calls := driver.calls ++ [.openExisting name] }

/-- A device of the name is opened, or nothing happens. -/
theorem openAdapter_cases (driver : MemoryDriver) (name : String) :
    (∃ failure, (openAdapter name driver).value = .error failure ∧
      (openAdapter name driver).state = driver) ∨
    ∃ device, driver.deviceNamed? name = some device ∧
      (openAdapter name driver).value = .ok ⟨driver.lastNumber + 1⟩ ∧
      (openAdapter name driver).state = driver.reopened name device := by
  unfold openAdapter
  cases driver.deviceNamed? name with
  | none => exact .inl ⟨_, rfl, rfl⟩
  | some device => exact .inr ⟨device, rfl, rfl, rfl⟩

/-- Opening a device once more keeps what is registered of it but the number
of its handles. -/
theorem get?_devices_reopened
    {name : String}
    {target number : Nat}
    {device : Device}
    (found : (driver.reopened name target).devices.get? number = some device) :
    ∃ earlier, driver.devices.get? number = some earlier ∧
      device.session = earlier.session ∧ device.name = earlier.name := by
  change (driver.devices.update target _).get? number = _ at found
  rw [Table.get?_update] at found
  split at found
  case isTrue same =>
    subst same
    obtain ⟨earlier, present, rfl⟩ := Option.map_eq_some_iff.mp found
    exact ⟨earlier, present, rfl, rfl⟩
  case isFalse => exact ⟨device, found, rfl, rfl⟩

theorem Agreed.noteCall
    (agreed : Agreed driver)
    (call : DriverCall) : Agreed (driver.noteCall call) :=
  agreed.of_same rfl rfl rfl fun _ => rfl

theorem Consistent.noteCall
    (consistent : Consistent driver)
    (call : DriverCall) : Consistent (driver.noteCall call) :=
  ⟨consistent.toAgreed.noteCall call, consistent.quiet⟩

theorem Agreed.register
    (agreed : Agreed driver)
    (name : String)
    (guid : Option Guid) : Agreed (driver.register name guid) := by
  have last : (driver.register name guid).lastNumber =
      driver.lastNumber + 2 := rfl
  constructor
  case proper => exact agreed.proper.insert _ _
  case device_le =>
    intro number device found
    simp only [MemoryDriver.register, Table.get?_insert] at found
    split at found
    · omega
    · have := agreed.device_le number device found
      omega
  case owned =>
    intro number running device present found
    have bound := agreed.session_le number running present
    simp only [MemoryDriver.register, Table.get?_insert] at found
    rw [if_neg (by omega)] at found
    exact agreed.owned number running device present found
  case runs =>
    intro number device session found equal
    simp only [MemoryDriver.register, Table.get?_insert] at found
    split at found
    · obtain rfl := Option.some.inj found
      simp at equal
    · exact agreed.runs number device session found equal
  case session_le =>
    intro number running present
    have := agreed.session_le number running present
    omega
  case handle_le =>
    intro number entry present
    simp only [MemoryDriver.register, Table.get?_insert] at present
    split at present
    · obtain rfl := Option.some.inj present
      simp only [last]
      omega
    · have := agreed.handle_le number entry present
      omega

theorem Consistent.register
    (consistent : Consistent driver)
    (name : String)
    (guid : Option Guid) : Consistent (driver.register name guid) :=
  ⟨consistent.toAgreed.register name guid, consistent.quiet⟩

theorem Agreed.reopened
    (agreed : Agreed driver)
    (name : String)
    {device : Nat}
    (known : device ≤ driver.lastNumber) :
    Agreed (driver.reopened name device) := by
  have last : (driver.reopened name device).lastNumber =
      driver.lastNumber + 1 := rfl
  constructor
  case proper => exact agreed.proper.update _ _
  case device_le =>
    intro number entry found
    obtain ⟨earlier, before, _⟩ := get?_devices_reopened found
    have := agreed.device_le number earlier before
    omega
  case owned =>
    intro number running entry present found
    obtain ⟨earlier, before, equal, _⟩ := get?_devices_reopened found
    rw [equal]
    exact agreed.owned number running earlier present before
  case runs =>
    intro number entry session found equal
    obtain ⟨earlier, before, same, _⟩ := get?_devices_reopened found
    exact agreed.runs number earlier session before (same ▸ equal)
  case session_le =>
    intro number running present
    have := agreed.session_le number running present
    omega
  case handle_le =>
    intro number entry present
    simp only [MemoryDriver.reopened, Table.get?_insert] at present
    split at present
    · obtain rfl := Option.some.inj present
      simp only [last]
      omega
    · have := agreed.handle_le number entry present
      omega

theorem Consistent.reopened
    (consistent : Consistent driver)
    (name : String)
    {device : Nat}
    (known : device ≤ driver.lastNumber) :
    Consistent (driver.reopened name device) :=
  ⟨consistent.toAgreed.reopened name known, consistent.quiet⟩

/-! ## Closing -/

/-- What remains registered when a handle is closed. -/
def devicesWithout
    (driver : MemoryDriver)
    (entry : OpenHandle) : Table Nat Device :=
  match driver.devices.get? entry.device with
  | none => driver.devices
  | some device =>
      if (entry.created || device.handles - 1 == 0) &&
          !device.session.isSome then
        driver.devices.erase entry.device
      else
        driver.devices.insert entry.device
          { device with handles := device.handles - 1 }

/-- What a close has against it. -/
def closingViolations
    (driver : MemoryDriver)
    (entry : OpenHandle) : List Violation :=
  if driver.isBusy entry.device then
    [closedEarly (driver.deviceName entry.device)]
  else []

/-- The driver after a handle was closed. -/
def closed
    (driver : MemoryDriver)
    (handle : Nat)
    (entry : OpenHandle) : MemoryDriver :=
  { driver with
    adapters := driver.adapters.erase handle
    devices := driver.devicesWithout entry
    calls := driver.calls ++ [.close (driver.deviceName entry.device)]
    violations := driver.violations ++ driver.closingViolations entry }

/-- Closing a handle takes it away, and is a violation exactly if the device
is busy. -/
theorem state_closeAdapter
    {handle : AdapterHandle}
    {entry : OpenHandle}
    (found : driver.adapters.get? handle.number = some entry) :
    (closeAdapter handle driver).state = driver.closed handle.number entry := by
  unfold closeAdapter closed devicesWithout closingViolations isBusy
  simp only [found, forgetHandle]
  cases registered : driver.devices.get? entry.device with
  | none => cases entry.created <;> simp [noteCall]
  | some device =>
      simp only [Option.bind_some]
      by_cases active : device.session.isSome = true
      · simp only [active, if_true, noteCall, violate, closedEarly]
      · simp only [active, Bool.false_eq_true, if_false, List.append_nil,
          noteCall]
        cases entry.created || device.handles - 1 == 0 <;> rfl

/-- Closing a handle keeps what else is registered but the number of handles,
or takes the device away. -/
theorem get?_devicesWithout
    {entry : OpenHandle}
    {number : Nat}
    {device : Device}
    (found : (driver.devicesWithout entry).get? number = some device) :
    ∃ earlier, driver.devices.get? number = some earlier ∧
      device.session = earlier.session ∧ device.name = earlier.name := by
  unfold devicesWithout at found
  split at found
  case h_1 => exact ⟨device, found, rfl, rfl⟩
  case h_2 earlier present =>
    split at found
    case isTrue =>
      exact ⟨device, (Table.of_get?_erase found).2, rfl, rfl⟩
    case isFalse =>
      rw [Table.get?_insert] at found
      split at found
      case isTrue same =>
        obtain rfl := Option.some.inj found
        exact ⟨earlier, same ▸ present, rfl, rfl⟩
      case isFalse => exact ⟨device, found, rfl, rfl⟩

theorem Agreed.proper_devicesWithout
    (agreed : Agreed driver)
    (entry : OpenHandle) : (driver.devicesWithout entry).IsProper := by
  unfold devicesWithout
  split
  · exact agreed.proper
  · split
    · exact agreed.proper.erase _
    · exact agreed.proper.insert _ _

theorem Agreed.closed
    (agreed : Agreed driver)
    (handle : Nat)
    (entry : OpenHandle) : Agreed (driver.closed handle entry) := by
  constructor
  case proper => exact agreed.proper_devicesWithout entry
  case device_le =>
    intro number device found
    obtain ⟨earlier, before, _⟩ := get?_devicesWithout found
    exact agreed.device_le number earlier before
  case owned =>
    intro number running device present found
    obtain ⟨earlier, before, equal, _⟩ := get?_devicesWithout found
    rw [equal]
    exact agreed.owned number running earlier present before
  case runs =>
    intro number device session found equal
    obtain ⟨earlier, before, same, _⟩ := get?_devicesWithout found
    exact agreed.runs number earlier session before (same ▸ equal)
  case session_le => exact agreed.session_le
  case handle_le =>
    intro number other present
    exact agreed.handle_le number other (Table.of_get?_erase present).2

theorem Consistent.closed
    (consistent : Consistent driver)
    (handle : Nat)
    (entry : OpenHandle) : Consistent (driver.closed handle entry) :=
  ⟨consistent.toAgreed.closed handle entry, consistent.quiet⟩

/-! ## Starting -/

/-- The driver after a session was started on a device. -/
def started
    (driver : MemoryDriver)
    (device : Nat)
    (capacity : UInt32) : MemoryDriver :=
  (driver.launch device capacity).noteCall
    (.start ((driver.launch device capacity).deviceName device))

/-- A session that is started has empty rings and an event of its own. -/
theorem get?_sessions_started
    (driver : MemoryDriver)
    (device : Nat)
    (capacity : UInt32)
    (number : Nat) :
    (driver.started device capacity).sessions.get? number =
      if number = driver.lastNumber + 1 then
        some { device, inbound := .ofCapacity capacity,
               outbound := .ofCapacity capacity,
               readEvent := driver.signals.nextSignal, failed := false }
      else driver.sessions.get? number :=
  Table.get?_insert _ _ _ _

/-- A capacity that is accepted is accepted as it is. -/
theorem eq_of_validate
    {bounds : CapacityBounds}
    {capacity granted : UInt32}
    (valid : bounds.validate capacity = .ok granted) : granted = capacity := by
  unfold CapacityBounds.validate at valid
  split at valid
  · simp at valid
  · split at valid
    · simp at valid
    · exact (Except.ok.inj valid).symm

/-- A capacity that is accepted is a power of two. -/
theorem isPowerOfTwo_of_validate
    {bounds : CapacityBounds}
    {capacity granted : UInt32}
    (valid : bounds.validate capacity = .ok granted) :
    isPowerOfTwo capacity = true := by
  unfold CapacityBounds.validate at valid
  split at valid
  case isTrue => cases valid
  case isFalse power => simpa using power

/-- A session is started on a device that is not busy, or nothing happens. -/
theorem startSession_cases
    (driver : MemoryDriver)
    (handle : AdapterHandle)
    (capacity : UInt32) :
    (∃ error, (startSession handle capacity driver).value =
        .error (.refused error) ∧
      (startSession handle capacity driver).state = driver) ∨
    ∃ entry, driver.adapters.get? handle.number = some entry ∧
      driver.isBusy entry.device = false ∧
      (startSession handle capacity driver).value =
        .ok ⟨driver.lastNumber + 1⟩ ∧
      (startSession handle capacity driver).state =
        driver.started entry.device capacity := by
  unfold startSession
  split
  case h_1 => exact .inl ⟨_, rfl, rfl⟩
  case h_2 granted valid =>
    obtain rfl := eq_of_validate valid
    split
    case h_1 => exact .inl ⟨_, rfl, rfl⟩
    case h_2 entry found =>
      split
      · exact .inl ⟨_, rfl, rfl⟩
      · split
        · exact .inl ⟨_, rfl, rfl⟩
        · exact .inr ⟨entry, found, by simp_all, rfl, rfl⟩

/-- The event of a session that was just started. -/
theorem readWaitEvent_started (device : Nat) (capacity : UInt32) :
    readWaitEvent ⟨driver.lastNumber + 1⟩ (driver.started device capacity) =
      ⟨.ok ⟨driver.signals.nextSignal⟩, driver.started device capacity, []⟩ := by
  simp [readWaitEvent, started, noteCall, launch, Signal.Bank.newSignal]

/-- Launching changes the device of the session only. -/
theorem get?_devices_launch
    {target number : Nat}
    (capacity : UInt32)
    {device : Device}
    (found : (driver.launch target capacity).devices.get? number =
      some device) :
    ∃ earlier, driver.devices.get? number = some earlier ∧
      device.name = earlier.name ∧
      device.session = if number = target then some (driver.lastNumber + 1)
        else earlier.session := by
  simp only [launch, Table.get?_update] at found
  split at found
  case isTrue same =>
    subst same
    obtain ⟨earlier, present, rfl⟩ := Option.map_eq_some_iff.mp found
    exact ⟨earlier, present, rfl, by rw [if_pos rfl]⟩
  case isFalse other =>
    exact ⟨device, found, rfl, by rw [if_neg other]⟩

/-- A new ring has no slot in a state other than free. -/
theorem count_ofCapacity
    (capacity : UInt32)
    {state : Ring.SlotState}
    (used : state ≠ .free) :
    (Ring.PacketRing.ofCapacity capacity).count state = 0 := by
  unfold Ring.PacketRing.count Ring.PacketRing.ofCapacity
  rw [Array.countP_replicate]
  simp [Ring.Slot.fresh, Ne.symm used]

theorem Agreed.launch
    (agreed : Agreed driver)
    {device : Nat}
    (known : device ≤ driver.lastNumber)
    (idle : driver.isBusy device = false)
    (capacity : UInt32) : Agreed (driver.launch device capacity) := by
  have last : (driver.launch device capacity).lastNumber =
      driver.lastNumber + 1 := rfl
  have sessions : ∀ number,
      (driver.launch device capacity).sessions.get? number =
        if number = driver.lastNumber + 1 then
          some { device, inbound := .ofCapacity capacity,
                 outbound := .ofCapacity capacity,
                 readEvent := driver.signals.newSignal.1, failed := false }
        else driver.sessions.get? number :=
    fun number => Table.get?_insert _ _ _ _
  have alone : ∀ number running,
      driver.sessions.get? number = some running →
      (driver.devices.get? running.device).isSome = true →
        running.device ≠ device := by
    rintro number running present registered rfl
    have := (agreed.isBusy_iff running.device).mpr
      ⟨registered, number, running, present, rfl⟩
    simp [idle] at this
  constructor
  case proper => exact agreed.proper.update _ _
  case device_le =>
    intro number entry found
    obtain ⟨earlier, before, _⟩ := get?_devices_launch capacity found
    have := agreed.device_le number earlier before
    omega
  case owned =>
    intro number running entry present found
    obtain ⟨earlier, before, _, equal⟩ := get?_devices_launch capacity found
    rw [sessions] at present
    split at present
    case isTrue fresh =>
      obtain rfl := Option.some.inj present
      rw [equal, if_pos rfl, fresh]
    case isFalse =>
      have other := alone number running present (by simp [before])
      rw [equal, if_neg other]
      exact agreed.owned number running earlier present before
  case runs =>
    intro number entry session found equal
    obtain ⟨earlier, before, _, same⟩ := get?_devices_launch capacity found
    rw [sessions]
    rw [same] at equal
    split at equal
    case isTrue target =>
      rw [if_pos (Option.some.inj equal).symm]
      exact ⟨_, rfl, target.symm⟩
    case isFalse =>
      obtain ⟨running, present, on⟩ :=
        agreed.runs number earlier session before equal
      have bound := agreed.session_le session running present
      rw [if_neg (by omega)]
      exact ⟨running, present, on⟩
  case session_le =>
    intro number running present
    rw [sessions] at present
    split at present
    · obtain rfl := Option.some.inj present
      simp only [last]
      omega
    · have := agreed.session_le number running present
      omega
  case handle_le =>
    intro number entry present
    have := agreed.handle_le number entry present
    omega

theorem Consistent.launch
    (consistent : Consistent driver)
    {device : Nat}
    (known : device ≤ driver.lastNumber)
    (idle : driver.isBusy device = false)
    (capacity : UInt32) : Consistent (driver.launch device capacity) := by
  refine ⟨consistent.toAgreed.launch known idle capacity, ?_⟩
  intro number running present
  simp only [MemoryDriver.launch, Table.get?_insert] at present
  split at present
  · obtain rfl := Option.some.inj present
    exact ⟨count_ofCapacity capacity (by simp),
      count_ofCapacity capacity (by simp)⟩
  · exact consistent.quiet number running present

/-! ## Ending -/

/-- What remains registered when a session ends. -/
def devicesAfter
    (driver : MemoryDriver)
    (running : RunningSession) : Table Nat Device :=
  match driver.devices.get? running.device with
  | none => driver.devices
  | some device =>
      if device.handles = 0 then driver.devices.erase running.device
      else
        driver.devices.insert running.device { device with session := none }

/-- The driver after a session without packets has ended. -/
def dismissed
    (driver : MemoryDriver)
    (number : Nat)
    (running : RunningSession) : MemoryDriver :=
  { driver with
    sessions := driver.sessions.erase number
    slotsInUse := driver.slotsInUse - 2 * running.inbound.capacity
    devices := driver.devicesAfter running
    calls := driver.calls ++ [.finish (driver.deviceName running.device)]
    signals := driver.signals.set running.readEvent }

/-- Taking a session off its device, noting that and setting its event gives
the driver after its end. -/
theorem dismissed_eq (number : Nat) (running : RunningSession) :
    ((driver.dismiss number running).noteCall
        (.finish (driver.deviceName running.device))).setSignal
      running.readEvent = driver.dismissed number running := by
  simp only [dismissed, devicesAfter, dismiss]
  cases driver.devices.get? running.device with
  | none => rfl
  | some device => rfl

/-- Ending a session that has lent no packet is no violation. -/
theorem state_endSession
    {handle : SessionHandle}
    {running : RunningSession}
    (found : driver.sessions.get? handle.number = some running)
    (inbound : running.inbound.count .delivered = 0)
    (outbound : running.outbound.count .allocated = 0) :
    (endSession handle driver).state =
      driver.dismissed handle.number running := by
  unfold endSession
  simp only [found, inbound, outbound, violateLeft, if_true,
    Action.state_andThen, Action.state_answer]
  exact dismissed_eq handle.number running

/-- The end of a session changes its device only. -/
theorem get?_devicesAfter
    {running : RunningSession}
    {number : Nat}
    {device : Device}
    (found : (driver.devicesAfter running).get? number = some device) :
    ∃ earlier, driver.devices.get? number = some earlier ∧
      device.name = earlier.name ∧
      device.session = if number = running.device then none
        else earlier.session := by
  unfold devicesAfter at found
  split at found
  case h_1 absent =>
    refine ⟨device, found, rfl, ?_⟩
    rw [if_neg]
    rintro rfl
    simp [absent] at found
  case h_2 earlier present =>
    split at found
    case isTrue =>
      obtain ⟨other, before⟩ := Table.of_get?_erase found
      exact ⟨device, before, rfl, by rw [if_neg other]⟩
    case isFalse =>
      rw [Table.get?_insert] at found
      split at found
      case isTrue same =>
        obtain rfl := Option.some.inj found
        exact ⟨earlier, same ▸ present, rfl, by rw [if_pos same]⟩
      case isFalse other => exact ⟨device, found, rfl, by rw [if_neg other]⟩

theorem Agreed.proper_devicesAfter
    (agreed : Agreed driver)
    (running : RunningSession) : (driver.devicesAfter running).IsProper := by
  unfold devicesAfter
  split
  · exact agreed.proper
  · split
    · exact agreed.proper.erase _
    · exact agreed.proper.insert _ _

theorem Agreed.dismissed
    (agreed : Agreed driver)
    {number : Nat}
    {running : RunningSession}
    (found : driver.sessions.get? number = some running) :
    Agreed (driver.dismissed number running) := by
  have sessions : ∀ other session,
      (driver.dismissed number running).sessions.get? other = some session →
        other ≠ number ∧ driver.sessions.get? other = some session :=
    fun _ _ present => Table.of_get?_erase present
  constructor
  case proper => exact agreed.proper_devicesAfter running
  case device_le =>
    intro number device found
    obtain ⟨earlier, before, _⟩ := get?_devicesAfter found
    exact agreed.device_le number earlier before
  case owned =>
    intro other session device present registered
    obtain ⟨differs, before⟩ := sessions other session present
    obtain ⟨earlier, known, _, equal⟩ := get?_devicesAfter registered
    have owner := agreed.owned other session earlier before known
    rw [equal, if_neg, owner]
    -- Two sessions on one registered device would be the same.
    intro same
    have := agreed.owned number running earlier found (same ▸ known)
    exact differs (Option.some.inj (owner.symm.trans this))
  case runs =>
    intro device entry session registered equal
    obtain ⟨earlier, known, _, same⟩ := get?_devicesAfter registered
    rw [same] at equal
    split at equal
    · simp at equal
    case isFalse other =>
      obtain ⟨before, present, on⟩ :=
        agreed.runs device earlier session known equal
      refine ⟨before, ?_, on⟩
      simp only [MemoryDriver.dismissed, Table.get?_erase]
      rw [if_neg, present]
      rintro rfl
      exact other (on.symm.trans
        (congrArg _ (Option.some.inj (present.symm.trans found))))
  case session_le =>
    intro other session present
    exact agreed.session_le other session (sessions other session present).2
  case handle_le => exact agreed.handle_le

theorem Consistent.dismissed
    (consistent : Consistent driver)
    {number : Nat}
    {running : RunningSession}
    (found : driver.sessions.get? number = some running) :
    Consistent (driver.dismissed number running) :=
  ⟨consistent.toAgreed.dismissed found, fun other session present =>
    consistent.quiet other session (Table.of_get?_erase present).2⟩

/-! ## Removing -/

/-- The driver after it was asked to remove itself: that is noted, is a violation
if a session runs, and takes it out of the system if no device is registered
either. -/
def deleted (driver : MemoryDriver) : MemoryDriver :=
  { driver with
    calls := driver.calls ++ [.delete]
    violations := driver.violations ++
      if driver.sessions.isEmpty then [] else [deletedEarly]
    installed := driver.installed &&
      !(driver.sessions.isEmpty && driver.devices.isEmpty) }

theorem state_deleteDriver (driver : MemoryDriver) :
    (deleteDriver driver).state = driver.deleted := by
  have sessions : ∀ call, (driver.noteCall call).sessions = driver.sessions :=
    fun _ => rfl
  have devices : ∀ call, (driver.noteCall call).devices = driver.devices :=
    fun _ => rfl
  unfold deleteDriver deleted
  simp only [sessions, devices]
  cases driver.sessions.isEmpty with
  | false => simp [violate, noteCall, deletedEarly]
  | true => cases driver.devices.isEmpty <;> simp [noteCall]

end MemoryDriver
end Memory
end VirtualAdapter

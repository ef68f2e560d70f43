import VirtualAdapter.Proofs.Host.Handles

/-!
# Adapters and their devices, whatever sessions do

Every adapter is an open handle of its own, and adapters of one device are known
by one name.  None of this depends on sessions, so it also holds between the
steps of starts and ends.
-/

namespace VirtualAdapter
namespace Host

open Memory (MemoryDriver OpenHandle)
open Memory.MemoryDriver (Consistent)

/-- What a manager keeps of adapters agrees with what the driver keeps. -/
structure Moored (manager : ManagerId) (host : Host MemoryDriver) : Prop where
  /-- The driver agrees with itself. -/
  consistent : Consistent host.driver
  /-- A driver with devices was not removed. -/
  installed : ∀ number device, host.driver.devices.get? number = some device →
    host.driver.installed = true
  /-- The manager is there. -/
  managed : ∃ entry, host.managers.get? manager = some entry
  /-- Adapters have been given numbers. -/
  adapter_le : ∀ id adapter, host.adapters.get? id = some adapter →
    id ≤ host.lastNumber
  /-- Every adapter is an open handle. -/
  opened : ∀ id adapter, host.adapters.get? id = some adapter →
    adapter.manager = manager ∧
      ∃ entry, host.driver.adapters.get? adapter.handle.number = some entry
  /-- Adapters have different handles. -/
  distinct : ∀ first second left right,
    host.adapters.get? first = some left →
    host.adapters.get? second = some right →
    left.handle.number = right.handle.number → first = second
  /-- Adapters are known by the names of their devices. -/
  named : ∀ id number device, host.device? id = some number →
    host.driver.devices.get? number = some device →
      host.key? id = some (deviceKey device.name)
  /-- Adapters of one device are known by one name. -/
  alike : ∀ first second number, host.device? first = some number →
    host.device? second = some number → host.key? first = host.key? second

variable {manager : ManagerId} {host : Host MemoryDriver}

/-- Links hold of adapters, too. -/
theorem Linked.moored (linked : Linked manager host) : Moored manager host where
  consistent := linked.consistent
  installed := fun _ _ _ => linked.installed
  managed := linked.managed
  adapter_le := linked.adapter_le
  opened := linked.opened
  distinct := linked.distinct
  named := linked.named
  alike := linked.alike

/-! ## Names and devices after small changes -/

/-- A change that keeps the handles keeps the devices. -/
theorem device?_update
    (host : Host MemoryDriver)
    (id : AdapterId)
    {step : Adapter → Adapter}
    (keeps : ∀ adapter, (step adapter).handle = adapter.handle)
    (other : AdapterId) :
    device? { host with adapters := host.adapters.update id step } other =
      host.device? other := by
  unfold device?
  rw [Table.get?_update]
  split
  case isTrue same =>
    subst same
    cases host.adapters.get? other with
    | none => rfl
    | some adapter => simp [keeps adapter]
  case isFalse => rfl

/-- A change that keeps the names keeps the keys. -/
theorem key?_update
    (host : Host MemoryDriver)
    (id : AdapterId)
    {step : Adapter → Adapter}
    (keeps : ∀ adapter, (step adapter).name = adapter.name)
    (other : AdapterId) :
    key? { host with adapters := host.adapters.update id step } other =
      host.key? other := by
  unfold key?
  rw [Table.get?_update]
  split
  case isTrue same =>
    subst same
    cases host.adapters.get? other with
    | none => rfl
    | some adapter => simp [keeps adapter]
  case isFalse => rfl

theorem device?_flagged
    (host : Host MemoryDriver)
    (id : AdapterId)
    (value : Bool)
    (other : AdapterId) :
    (host.flagged id value).device? other = host.device? other :=
  device?_update host id (by exact fun _ => rfl) other

theorem device?_unheld
    (host : Host MemoryDriver)
    (id other : AdapterId) :
    (host.unheld id).device? other = host.device? other :=
  device?_update host id (by exact fun _ => rfl) other

theorem key?_flagged
    (host : Host MemoryDriver)
    (id : AdapterId)
    (value : Bool)
    (other : AdapterId) :
    (host.flagged id value).key? other = host.key? other :=
  key?_update host id (by exact fun _ => rfl) other

theorem key?_unheld
    (host : Host MemoryDriver)
    (id other : AdapterId) :
    (host.unheld id).key? other = host.key? other :=
  key?_update host id (by exact fun _ => rfl) other

namespace Moored

/-- Only adapters that are there are known by a name, and those have a
device. -/
theorem device_of_adapter
    (moored : Moored manager host)
    {id : AdapterId}
    {adapter : Adapter}
    (found : host.adapters.get? id = some adapter) :
    ∃ entry, host.driver.adapters.get? adapter.handle.number = some entry ∧
      host.device? id = some entry.device := by
  obtain ⟨entry, opened⟩ := (moored.opened id adapter found).2
  exact ⟨entry, opened, by simp [device?, found, opened]⟩

/-- Changing what an adapter keeps besides manager, handle and name. -/
theorem changeAdapter
    (moored : Moored manager host)
    (id : AdapterId)
    {step : Adapter → Adapter}
    (keeps : ∀ adapter, (step adapter).manager = adapter.manager ∧
      (step adapter).handle = adapter.handle ∧
      (step adapter).name = adapter.name) :
    Moored manager { host with adapters := host.adapters.update id step } := by
  have lookup : ∀ {other : AdapterId} {adapter : Adapter},
      (host.adapters.update id step).get? other = some adapter →
      ∃ earlier, host.adapters.get? other = some earlier ∧
        adapter.manager = earlier.manager ∧
        adapter.handle = earlier.handle := by
    intro other adapter found
    obtain ⟨earlier, present, rfl⟩ := Table.exists_of_get?_update found
    refine ⟨earlier, present, ?_⟩
    split
    · exact ⟨(keeps earlier).1, (keeps earlier).2.1⟩
    · exact ⟨rfl, rfl⟩
  have devices := device?_update host id fun adapter => (keeps adapter).2.1
  have keys := key?_update host id fun adapter => (keeps adapter).2.2
  constructor
  case consistent => exact moored.consistent
  case installed => exact moored.installed
  case managed => exact moored.managed
  case adapter_le =>
    intro other adapter found
    obtain ⟨earlier, present, _⟩ := lookup found
    exact moored.adapter_le other earlier present
  case opened =>
    intro other adapter found
    obtain ⟨earlier, present, same, handle⟩ := lookup found
    rw [same, handle]
    exact moored.opened other earlier present
  case distinct =>
    intro first second left right found_first found_second same
    obtain ⟨earlier, present, _, handle⟩ := lookup found_first
    obtain ⟨later, present', _, handle'⟩ := lookup found_second
    rw [handle, handle'] at same
    exact moored.distinct first second earlier later present present' same
  case named => simpa only [devices, keys] using moored.named
  case alike => simpa only [devices, keys] using moored.alike

/-- Setting or clearing a flag. -/
theorem flagging
    (moored : Moored manager host)
    (id : AdapterId)
    (value : Bool) : Moored manager (host.flagged id value) :=
  moored.changeAdapter id fun _ => ⟨rfl, rfl, rfl⟩

/-- Noting that the caller has let go of an adapter. -/
theorem unholding
    (moored : Moored manager host)
    (id : AdapterId) : Moored manager (host.unheld id) :=
  moored.changeAdapter id fun _ => ⟨rfl, rfl, rfl⟩

/-- Changing what a manager keeps. -/
theorem changeManager
    (moored : Moored manager host)
    (id : ManagerId)
    (step : Manager → Manager) :
    Moored manager { host with managers := host.managers.update id step } where
  consistent := moored.consistent
  installed := moored.installed
  managed := by
    obtain ⟨entry, found⟩ := moored.managed
    by_cases same : manager = id
    · exact ⟨step entry, by simp [same ▸ found, same]⟩
    · exact ⟨entry, by simp [found, same]⟩
  adapter_le := moored.adapter_le
  opened := moored.opened
  distinct := moored.distinct
  named := moored.named
  alike := moored.alike

/-- Changing the driver but for handles and names. -/
theorem changeDriver
    (moored : Moored manager host)
    {driver : MemoryDriver}
    (consistent : Consistent driver)
    (installed : ∀ number device, driver.devices.get? number = some device →
      driver.installed = host.driver.installed)
    (adapters : driver.adapters = host.driver.adapters)
    (devices : ∀ number device, driver.devices.get? number = some device →
      ∃ earlier, host.driver.devices.get? number = some earlier ∧
        device.name = earlier.name) :
    Moored manager { host with driver } := by
  have on : ∀ id, device? { host with driver } id = host.device? id :=
    fun id => device?_congr rfl fun _ _ => by rw [adapters]
  constructor
  case consistent => exact consistent
  case installed =>
    intro number device registered
    obtain ⟨earlier, before, _⟩ := devices number device registered
    exact (installed number device registered).trans
      (moored.installed number earlier before)
  case managed => exact moored.managed
  case adapter_le => exact moored.adapter_le
  case opened =>
    intro id adapter found
    rw [adapters]
    exact moored.opened id adapter found
  case distinct => exact moored.distinct
  case named =>
    intro id number device known registered
    obtain ⟨earlier, before, name⟩ := devices number device registered
    rw [name]
    exact moored.named id number earlier ((on id).symm.trans known) before
  case alike =>
    intro first second number known_first known_second
    exact moored.alike first second number ((on first).symm.trans known_first)
      ((on second).symm.trans known_second)

/-- Starting a session at the driver. -/
theorem launching
    (moored : Moored manager host)
    {handle : AdapterHandle}
    {entry : OpenHandle}
    (opened : host.driver.adapters.get? handle.number = some entry)
    (idle : host.driver.isBusy entry.device = false)
    (capacity : UInt32) :
    Moored manager
      { host with driver := host.driver.started entry.device capacity } := by
  have known := moored.consistent.handle_le _ entry opened
  refine moored.changeDriver
    ((moored.consistent.launch known.2 idle capacity).noteCall _)
    (fun _ _ _ => rfl) rfl fun number device registered => ?_
  obtain ⟨earlier, before, name, _⟩ :=
    MemoryDriver.get?_devices_launch capacity registered
  exact ⟨earlier, before, name⟩

/-- Ending a session at the driver. -/
theorem dismissing
    (moored : Moored manager host)
    {number : Nat}
    {running : Memory.RunningSession}
    (runs : host.driver.sessions.get? number = some running) :
    Moored manager
      { host with driver := host.driver.dismissed number running } := by
  refine moored.changeDriver (moored.consistent.dismissed runs)
    (fun _ _ _ => rfl) rfl fun number device registered => ?_
  obtain ⟨earlier, before, name, _⟩ :=
    MemoryDriver.get?_devicesAfter registered
  exact ⟨earlier, before, name⟩

/-- Making or setting an event. -/
theorem changeSignals
    (moored : Moored manager host)
    (signals : Signal.Bank) :
    Moored manager { host with driver := { host.driver with signals } } :=
  moored.changeDriver
    ⟨moored.consistent.of_same rfl rfl rfl fun _ => rfl,
      moored.consistent.quiet⟩
    (fun _ _ _ => rfl) rfl fun _ device registered => ⟨device, registered, rfl⟩

/-- Asking the driver to remove itself. -/
theorem deleting (moored : Moored manager host) :
    Moored manager { host with driver := host.driver.deleted } := by
  refine moored.changeDriver
    ⟨moored.consistent.of_same rfl rfl rfl fun _ => rfl,
      moored.consistent.quiet⟩
    (fun number device registered => ?_) rfl
    fun _ device registered => ⟨device, registered, rfl⟩
  -- A driver with a device is not removed.
  have devices : host.driver.devices.isEmpty = false := by
    by_contra empty
    have none := Table.get?_eq_none_of_isEmpty
      (Bool.not_eq_false _ ▸ empty) number
    exact Option.some_ne_none _ (registered.symm.trans none)
  simp [MemoryDriver.deleted, devices]

/-- Sessions, packets, time and numbers that were given out since do not
matter. -/
theorem of_same
    {next : Host MemoryDriver}
    (moored : Moored manager host)
    (driver : next.driver = host.driver)
    (managers : next.managers = host.managers)
    (adapters : next.adapters = host.adapters)
    (later : host.lastNumber ≤ next.lastNumber) : Moored manager next := by
  have on : next.device? = host.device? := by
    funext id
    unfold device?
    rw [driver, adapters]
  have known : next.key? = host.key? := by
    funext id
    unfold key?
    rw [adapters]
  constructor
  case consistent => exact driver ▸ moored.consistent
  case installed => exact driver ▸ moored.installed
  case managed => exact managers ▸ moored.managed
  case adapter_le =>
    intro id adapter found
    exact (moored.adapter_le id adapter (adapters ▸ found)).trans later
  case opened =>
    rw [driver, adapters]
    exact moored.opened
  case distinct =>
    rw [adapters]
    exact moored.distinct
  case named =>
    rw [driver, on, known]
    exact moored.named
  case alike =>
    rw [on, known]
    exact moored.alike

end Moored
end Host
end VirtualAdapter

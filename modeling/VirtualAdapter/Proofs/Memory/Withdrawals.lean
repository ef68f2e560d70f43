import VirtualAdapter.Proofs.Memory.Registry

/-!
# Openings that are taken back

A handle that was just given out can be closed again, and then nothing that is
registered, open or running tells that it was there, even if other handles open
the device or a session runs on it.
-/

namespace VirtualAdapter
namespace Memory
namespace MemoryDriver

/-- The same devices are registered, the same handles are open, the same
sessions run, and as many slots are in use. -/
structure Unaltered (driver next : MemoryDriver) : Prop where
  /-- Devices keep their names, identifiers, handles and sessions. -/
  devices : next.devices = driver.devices
  /-- No handle was opened or closed. -/
  adapters : next.adapters = driver.adapters
  /-- No session was started or ended, and the rings are as they were. -/
  sessions : next.sessions = driver.sessions
  /-- No slots were taken or given back. -/
  slotsInUse : next.slotsInUse = driver.slotsInUse

theorem Unaltered.refl (driver : MemoryDriver) : Unaltered driver driver :=
  ⟨rfl, rfl, rfl, rfl⟩

variable {driver : MemoryDriver}

/-- Asking for the version changes nothing. -/
theorem state_runningVersion (driver : MemoryDriver) :
    (runningVersion driver).state = driver := by
  unfold runningVersion
  split <;> rfl

/-- A device that was just created is gone with its handle. -/
theorem unaltered_register
    (agreed : Agreed driver)
    (name : String)
    (guid : Option Guid) :
    Unaltered driver
      (closeAdapter ⟨driver.lastNumber + 2⟩
        ((driver.register name guid).noteCall (.create name))).state := by
  let created := (driver.register name guid).noteCall (.create name)
  have found : created.adapters.get? (driver.lastNumber + 2) =
      some ⟨driver.lastNumber + 1, true⟩ :=
    (Table.get?_insert _ _ _ _).trans (if_pos rfl)
  have registered : ∃ device,
      created.devices.get? (driver.lastNumber + 1) = some device ∧
        device.session = none :=
    ⟨_, (Table.get?_insert _ _ _ _).trans (if_pos rfl), rfl⟩
  obtain ⟨device, present, idle⟩ := registered
  have absent : driver.devices.get? (driver.lastNumber + 1) = none :=
    Option.eq_none_iff_forall_ne_some.mpr fun device there =>
      absurd (agreed.device_le _ device there) (Nat.not_succ_le_self _)
  have devices : created.devicesWithout ⟨driver.lastNumber + 1, true⟩ =
      driver.devices := by
    simp only [devicesWithout, present, idle, Bool.true_or, Bool.true_and,
      Option.isSome_none, Bool.not_false, if_true]
    exact (Table.erase_insert _ _ _).trans (Table.erase_of_absent absent)
  rw [state_closeAdapter found]
  exact {
    devices
    adapters := (Table.erase_insert _ _ _).trans
      (Table.erase_of_absent (agreed.get?_adapters_of_lt
          (Nat.lt_add_of_pos_right Nat.two_pos)))
    sessions := rfl
    slotsInUse := rfl }

/-- A device that was opened once more has its handles back, and stays: it had
one, or a session runs on it. -/
theorem unaltered_reopened
    (registry : Registry driver)
    {name : String}
    {number : Nat}
    (named : driver.deviceNamed? name = some number) :
    Unaltered driver
      (closeAdapter ⟨driver.lastNumber + 1⟩
        (driver.reopened name number)).state := by
  obtain ⟨device, registered, _⟩ :=
    registry.toAgreed.exists_of_deviceNamed? named
  have found : (driver.reopened name number).adapters.get?
      (driver.lastNumber + 1) = some ⟨number, false⟩ :=
    (Table.get?_insert _ _ _ _).trans (if_pos rfl)
  have counted : (driver.reopened name number).devices.get? number =
      some { device with handles := device.handles + 1 } := by
    refine (Table.get?_update _ _ _ _).trans ?_
    rw [if_pos rfl, registered]
    rfl
  have stays : (device.handles == 0 && !device.session.isSome) = false := by
    have used := registry.tallied.used number device registered
    cases running : device.session.isSome <;> simp_all
  have devices : (driver.reopened name number).devicesWithout
      ⟨number, false⟩ = driver.devices := by
    simp only [devicesWithout, counted, Nat.add_sub_cancel, Bool.false_or,
      stays, Bool.false_eq_true, if_false]
    exact Table.insert_update_of_present registered _
  rw [state_closeAdapter found]
  exact {
    devices
    adapters := (Table.erase_insert _ _ _).trans
      (Table.erase_of_absent
        (registry.toAgreed.get?_adapters_of_lt (Nat.lt_succ_self _)))
    sessions := rfl
    slotsInUse := rfl }

/-- A call either opens nothing and changes nothing, or what it opens can be
taken back. -/
structure TakesBack
    (driver : MemoryDriver)
    (call : Action MemoryDriver (Outcome AdapterHandle)) : Prop where
  /-- Nothing is opened. -/
  refused : ∀ failure, (call driver).value = .error failure →
    (call driver).state = driver
  /-- The version is the same. -/
  version : (call driver).state.version = driver.version
  /-- What was opened is closed again. -/
  opened : ∀ handle, (call driver).value = .ok handle →
    Unaltered driver (closeAdapter handle (call driver).state).state

theorem takesBack_createAdapter
    (registry : Registry driver)
    (name tunnelType : String)
    (guid : Option Guid) :
    TakesBack driver (createAdapter name tunnelType guid) := by
  rcases createAdapter_cases driver name tunnelType guid with
    ⟨failure, value, state⟩ | ⟨value, state⟩
  · refine ⟨fun _ _ => state, congrArg _ state, fun handle opened => ?_⟩
    cases value.symm.trans opened
  · refine ⟨fun other refused => ?_, state ▸ rfl, fun handle opened => ?_⟩
    · cases value.symm.trans refused
    cases value.symm.trans opened
    rw [state]
    exact unaltered_register registry.toAgreed name guid

theorem takesBack_openAdapter
    (registry : Registry driver)
    (name : String) : TakesBack driver (openAdapter name) := by
  rcases openAdapter_cases driver name with
    ⟨failure, value, state⟩ | ⟨device, named, value, state⟩
  · refine ⟨fun _ _ => state, congrArg _ state, fun handle opened => ?_⟩
    cases value.symm.trans opened
  · refine ⟨fun other refused => ?_, state ▸ rfl, fun handle opened => ?_⟩
    · cases value.symm.trans refused
    cases value.symm.trans opened
    rw [state]
    exact unaltered_reopened registry named

end MemoryDriver
end Memory
end VirtualAdapter

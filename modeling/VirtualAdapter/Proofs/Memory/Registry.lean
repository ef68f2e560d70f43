import VirtualAdapter.Proofs.Memory.Names

/-!
# What is registered

Devices have names, identifiers and interface identifiers of their own, each
one counts the handles that open it and knows the session that runs on it, and
none is left registered without either.  Numbers are given out once.
-/

namespace VirtualAdapter

namespace Luid

/-- The low bits of an identifier are those of its index. -/
theorem toNat_raw_ofParts_mod (index : UInt32) (interfaceType : UInt16) :
    (ofParts index interfaceType).raw.toNat % 2 ^ 48 =
      index.toNat % 2 ^ 24 * 2 ^ 24 := by
  have cut : (index &&& 0x00FFFFFF).toNat = index.toNat % 2 ^ 24 := by
    rw [UInt32.toNat_and]
    exact Nat.and_two_pow_sub_one_eq_mod index.toNat 24
  have bound : index.toNat % 2 ^ 24 < 2 ^ 24 := Nat.mod_lt _ (by decide)
  have low : ((index &&& 0x00FFFFFF).toUInt64 <<< 24).toNat =
      index.toNat % 2 ^ 24 * 2 ^ 24 := by
    rw [UInt64.toNat_shiftLeft, UInt32.toNat_toUInt64, cut, Nat.shiftLeft_eq]
    exact Nat.mod_eq_of_lt (by change _ * 2 ^ 24 < _; omega)
  have high : (interfaceType.toUInt64 <<< 48).toNat % 2 ^ 48 = 0 := by
    rw [UInt64.toNat_shiftLeft, Nat.shiftLeft_eq]
    change _ * 2 ^ 48 % 2 ^ 64 % 2 ^ 48 = 0
    omega
  change (_ ||| _ : UInt64).toNat % 2 ^ 48 = _
  rw [UInt64.toNat_or, Nat.or_mod_two_pow, high, Nat.or_zero, low]
  exact Nat.mod_eq_of_lt (by omega)

/-- The identifiers of the first 2^24 interfaces are different. -/
theorem ofParts_inj
    {first second : Nat}
    {interfaceType : UInt16}
    (first_pos : 0 < first)
    (second_pos : 0 < second)
    (first_le : first ≤ 2 ^ 24)
    (second_le : second ≤ 2 ^ 24)
    (same : ofParts (UInt32.ofNat first) interfaceType =
      ofParts (UInt32.ofNat second) interfaceType) : first = second := by
  have low := congrArg (fun luid => luid.raw.toNat % 2 ^ 48) same
  simp only [toNat_raw_ofParts_mod, UInt32.toNat_ofNat'] at low
  omega

end Luid

namespace Memory

/-- The interface identifier of the device that is registered after others. -/
def luidOf (index : Nat) : Luid :=
  .ofParts (UInt32.ofNat index) Luid.virtualInterface

/-- The number of open handles that name a device. -/
def handlesOn (adapters : Table Nat OpenHandle) (device : Nat) : Nat :=
  adapters.values.countP fun entry => entry.device = device

section HandlesOn

variable
  {adapters : Table Nat OpenHandle}
  {handle : Nat}
  {entry : OpenHandle}

/-- A handle that is opened counts for its device. -/
theorem handlesOn_insert
    (absent : adapters.get? handle = none)
    (entry : OpenHandle)
    (device : Nat) :
    handlesOn (adapters.insert handle entry) device =
      handlesOn adapters device + if entry.device = device then 1 else 0 := by
  unfold handlesOn Table.values
  rw [Table.entries_insert_of_absent absent, List.map_append, List.countP_append]
  simp [List.countP_cons]

/-- A handle that is closed has counted for its device. -/
theorem handlesOn_erase
    (proper : adapters.IsProper)
    (found : adapters.get? handle = some entry)
    (device : Nat) :
    handlesOn adapters device =
      handlesOn (adapters.erase handle) device +
        if entry.device = device then 1 else 0 := by
  have split := ((proper.perm_erase found).map (·.2)).countP_eq
    fun entry => entry.device = device
  rw [List.map_cons, List.countP_cons] at split
  simpa [handlesOn, Table.values] using split

/-- An open handle that names a device counts. -/
theorem handlesOn_pos
    (found : adapters.get? handle = some entry) :
    0 < handlesOn adapters entry.device :=
  List.countP_pos_iff.mpr
    ⟨entry, Table.mem_values_of_get? found, decide_eq_true rfl⟩

/-- No handle names a device whose number was not given out. -/
theorem handlesOn_eq_zero
    {device : Nat}
    (proper : adapters.IsProper)
    (unnamed : ∀ handle entry, adapters.get? handle = some entry →
      entry.device ≠ device) : handlesOn adapters device = 0 := by
  refine List.countP_eq_zero.mpr fun entry member => ?_
  obtain ⟨handle, found⟩ := proper.mem_values_iff.mp member
  simpa using unnamed handle entry found

end HandlesOn

namespace MemoryDriver

variable {driver : MemoryDriver}

/-- Numbers that were not given out name no handle. -/
theorem Agreed.get?_adapters_of_lt
    (agreed : Agreed driver)
    {number : Nat}
    (beyond : driver.lastNumber < number) :
    driver.adapters.get? number = none := by
  by_contra present
  obtain ⟨entry, found⟩ := Option.ne_none_iff_exists'.mp present
  exact absurd (agreed.handle_le number entry found).1 (Nat.not_le.mpr beyond)

/-! ## What closing and ending do to a device -/

/-- What is left of a device when a handle of it is closed. -/
def withoutHandle (entry : OpenHandle) (device : Device) : Option Device :=
  if (entry.created || device.handles - 1 == 0) && !device.session.isSome then
    none
  else some { device with handles := device.handles - 1 }

/-- What is left of a device when its session ends. -/
def withoutSession (device : Device) : Option Device :=
  if device.handles = 0 then none else some { device with session := none }

/-- Closing a handle changes its device only. -/
theorem get?_devicesWithout_eq (entry : OpenHandle) (number : Nat) :
    (driver.devicesWithout entry).get? number =
      if number = entry.device then
        (driver.devices.get? number).bind (withoutHandle entry)
      else driver.devices.get? number := by
  by_cases same : number = entry.device
  · subst same
    unfold devicesWithout withoutHandle
    rw [if_pos rfl]
    split
    case h_1 absent => rw [absent, Option.bind_none]
    case h_2 device registered =>
      rw [registered, Option.bind_some]
      split
      · exact (Table.get?_erase _ _ _).trans (if_pos rfl)
      · exact (Table.get?_insert _ _ _ _).trans (if_pos rfl)
  · unfold devicesWithout
    rw [if_neg same]
    split
    case h_1 => rfl
    case h_2 =>
      split
      · exact (Table.get?_erase _ _ _).trans (if_neg same)
      · exact (Table.get?_insert _ _ _ _).trans (if_neg same)

/-- Ending a session changes its device only. -/
theorem get?_devicesAfter_eq (running : RunningSession) (number : Nat) :
    (driver.devicesAfter running).get? number =
      if number = running.device then
        (driver.devices.get? number).bind withoutSession
      else driver.devices.get? number := by
  by_cases same : number = running.device
  · subst same
    unfold devicesAfter withoutSession
    rw [if_pos rfl]
    split
    case h_1 absent => rw [absent, Option.bind_none]
    case h_2 device registered =>
      rw [registered, Option.bind_some]
      split
      · exact (Table.get?_erase _ _ _).trans (if_pos rfl)
      · exact (Table.get?_insert _ _ _ _).trans (if_pos rfl)
  · unfold devicesAfter
    rw [if_neg same]
    split
    case h_1 => rfl
    case h_2 =>
      split
      · exact (Table.get?_erase _ _ _).trans (if_neg same)
      · exact (Table.get?_insert _ _ _ _).trans (if_neg same)

/-- What is left of a device has its identifiers, and a handle less. -/
theorem eq_of_withoutHandle
    {entry : OpenHandle}
    {device left : Device}
    (kept : withoutHandle entry device = some left) :
    left = { device with handles := device.handles - 1 } ∧
      (device.handles - 1 ≠ 0 ∨ device.session.isSome = true) := by
  unfold withoutHandle at kept
  split at kept
  case isTrue => cases kept
  case isFalse stays =>
    refine ⟨(Option.some.inj kept).symm, ?_⟩
    cases active : device.session.isSome with
    | true => exact .inr rfl
    | false =>
        simp only [active, Bool.not_false, Bool.and_true, Bool.or_eq_true,
          beq_iff_eq, not_or] at stays
        exact .inl stays.2

theorem eq_of_withoutSession
    {device left : Device}
    (kept : withoutSession device = some left) :
    left = { device with session := none } ∧ device.handles ≠ 0 := by
  unfold withoutSession at kept
  split at kept
  case isTrue => cases kept
  case isFalse held => exact ⟨(Option.some.inj kept).symm, held⟩

/-! ## Identifiers -/

/-- A device is created only with an identifier that is not in use. -/
theorem guidInUse_of_registers
    {name tunnelType : String}
    {guid : Guid}
    (registers : driver.lastNumber <
      (driver.serve (.createAdapter name tunnelType (some guid))).lastNumber) :
    driver.guidInUse guid = false := by
  by_contra used
  rw [Bool.not_eq_false] at used
  have same : (createAdapter name tunnelType (some guid) driver).state =
      driver := by
    unfold createAdapter
    split
    case isTrue => rfl
    case isFalse => simp [Option.filter, used]
  exact absurd (congrArg MemoryDriver.lastNumber same) registers.ne'

/-- A device that is registered after a request has its identifiers from
before, or the request has created it under new ones. -/
theorem identifiers_serve_cases
    {request : Request}
    {number : Nat}
    {device : Device}
    (found : (driver.serve request).devices.get? number = some device) :
    (∃ earlier, driver.devices.get? number = some earlier ∧
      device.guid = earlier.guid ∧ device.luid = earlier.luid) ∨
    number = driver.lastNumber + 1 ∧
      (∃ name tunnelType guid, request = .createAdapter name tunnelType guid ∧
        (createAdapter name tunnelType guid driver).value =
          .ok ⟨driver.lastNumber + 2⟩) ∧
      device.luid = luidOf (driver.lastIndex + 1) ∧
      ∀ guid, device.guid = some guid → driver.guidInUse guid = false := by
  have served := driver.served request
  generalize state : driver.serve request = next at served found
  cases served with
  | noted _ alike => exact .inl ⟨device, alike.devices ▸ found, rfl, rfl⟩
  | deleted _ _ alike =>
      rw [alike.devices] at found
      exact .inl ⟨device, found, rfl, rfl⟩
  | created name tunnelType guid =>
      have registers : driver.lastNumber <
          (driver.serve (.createAdapter name tunnelType guid)).lastNumber := by
        rw [state]
        exact Nat.lt_add_of_pos_right Nat.two_pos
      change (driver.devices.insert _ _).get? number = _ at found
      rw [Table.get?_insert] at found
      split at found
      case isTrue new =>
        obtain rfl := Option.some.inj found
        refine .inr ⟨new, ⟨name, tunnelType, guid, rfl, ?_⟩, rfl, ?_⟩
        · rcases createAdapter_cases driver name tunnelType guid with
            ⟨_, _, same⟩ | ⟨value, _⟩
          · exact absurd (congrArg MemoryDriver.lastNumber same) registers.ne'
          · exact value
        · rintro asked rfl
          exact guidInUse_of_registers registers
      case isFalse => exact .inl ⟨device, found, rfl, rfl⟩
  | opened =>
      obtain ⟨earlier, before, same⟩ := Table.exists_of_get?_update found
      refine .inl ⟨earlier, before, ?_⟩
      rw [same]
      split <;> exact ⟨rfl, rfl⟩
  | @closed _ entry =>
      change (driver.devicesWithout entry).get? number = _ at found
      rw [get?_devicesWithout_eq] at found
      split at found
      case isTrue =>
        obtain ⟨earlier, before, kept⟩ := Option.bind_eq_some_iff.mp found
        obtain ⟨rfl, _⟩ := eq_of_withoutHandle kept
        exact .inl ⟨earlier, before, rfl, rfl⟩
      case isFalse => exact .inl ⟨device, found, rfl, rfl⟩
  | started =>
      obtain ⟨earlier, before, same⟩ := Table.exists_of_get?_update found
      refine .inl ⟨earlier, before, ?_⟩
      rw [same]
      split <;> exact ⟨rfl, rfl⟩
  | @ended _ entry _ _ alike =>
      rw [alike.devices] at found
      change (driver.devicesAfter entry).get? number = _ at found
      rw [get?_devicesAfter_eq] at found
      split at found
      case isTrue =>
        obtain ⟨earlier, before, kept⟩ := Option.bind_eq_some_iff.mp found
        obtain ⟨rfl, _⟩ := eq_of_withoutSession kept
        exact .inl ⟨earlier, before, rfl, rfl⟩
      case isFalse => exact .inl ⟨device, found, rfl, rfl⟩
  | emptied | turned | signalled => exact .inl ⟨device, found, rfl, rfl⟩

/-! ## Handles -/

/-- Devices count the handles that name them, and have a handle or a
session. -/
structure Tallied
    (devices : Table Nat Device)
    (adapters : Table Nat OpenHandle) : Prop where
  /-- No handle has two entries. -/
  proper : adapters.IsProper
  /-- A device counts the handles that name it. -/
  handles_eq : ∀ number device, devices.get? number = some device →
    device.handles = handlesOn adapters number
  /-- A device without a handle runs a session. -/
  used : ∀ number device, devices.get? number = some device →
    device.handles ≠ 0 ∨ device.session.isSome = true

namespace Tallied

variable (tallied : Tallied driver.devices driver.adapters)

include tallied

/-- A new device has one handle. -/
theorem registered
    (agreed : Agreed driver)
    (name : String)
    (guid : Option Guid) :
    Tallied (driver.register name guid).devices
      (driver.register name guid).adapters := by
  have unnamed : handlesOn driver.adapters (driver.lastNumber + 1) = 0 :=
    handlesOn_eq_zero tallied.proper fun handle entry found => by
      have := (agreed.handle_le handle entry found).2
      omega
  have counted := fun number => handlesOn_insert
    (agreed.get?_adapters_of_lt (Nat.lt_add_of_pos_right Nat.two_pos))
    ⟨driver.lastNumber + 1, true⟩ number
  refine ⟨tallied.proper.insert _ _, fun number device found => ?_,
    fun number device found => ?_⟩
  · change (driver.devices.insert _ _).get? number = _ at found
    rw [Table.get?_insert] at found
    refine Eq.trans ?_ (counted number).symm
    split at found
    case isTrue new =>
      obtain rfl := Option.some.inj found
      subst new
      rw [unnamed, if_pos rfl]
    case isFalse other =>
      rw [if_neg (Ne.symm other)]
      exact tallied.handles_eq number device found
  · change (driver.devices.insert _ _).get? number = _ at found
    rw [Table.get?_insert] at found
    split at found
    case isTrue =>
      obtain rfl := Option.some.inj found
      exact .inl Nat.one_ne_zero
    case isFalse => exact tallied.used number device found

/-- A device that is opened once more has one handle more. -/
theorem reopened
    (agreed : Agreed driver)
    (name : String)
    (target : Nat) :
    Tallied (driver.reopened name target).devices
      (driver.reopened name target).adapters := by
  have counted := fun number => handlesOn_insert
    (agreed.get?_adapters_of_lt (Nat.lt_succ_self _)) ⟨target, false⟩ number
  refine ⟨tallied.proper.insert _ _, fun number device found => ?_,
    fun number device found => ?_⟩
  · obtain ⟨earlier, before, equal⟩ := Table.exists_of_get?_update found
    refine Eq.trans ?_ (counted number).symm
    rw [equal, ← tallied.handles_eq number earlier before]
    by_cases own : number = target
    · rw [if_pos own, if_pos own.symm]
    · rw [if_neg own, if_neg (Ne.symm own)]
      rfl
  · obtain ⟨earlier, before, equal⟩ := Table.exists_of_get?_update found
    rw [equal]
    split
    case isTrue => exact .inl (Nat.succ_ne_zero _)
    case isFalse => exact tallied.used number earlier before

/-- A device of which a handle is closed has one handle less. -/
theorem closed
    {handle : Nat}
    {entry : OpenHandle}
    (opened : driver.adapters.get? handle = some entry) :
    Tallied (driver.devicesWithout entry) (driver.adapters.erase handle) := by
  refine ⟨tallied.proper.erase _, fun number device found => ?_,
    fun number device found => ?_⟩
  · have counted := handlesOn_erase tallied.proper opened number
    rw [get?_devicesWithout_eq] at found
    split at found
    case isTrue own =>
      obtain ⟨earlier, before, kept⟩ := Option.bind_eq_some_iff.mp found
      obtain ⟨rfl, _⟩ := eq_of_withoutHandle kept
      rw [if_pos own.symm, ← tallied.handles_eq number earlier before] at counted
      exact Nat.sub_eq_of_eq_add counted
    case isFalse other =>
      rw [if_neg (Ne.symm other)] at counted
      exact (tallied.handles_eq number device found).trans counted
  · rw [get?_devicesWithout_eq] at found
    split at found
    case isTrue =>
      obtain ⟨earlier, _, kept⟩ := Option.bind_eq_some_iff.mp found
      obtain ⟨rfl, held⟩ := eq_of_withoutHandle kept
      exact held
    case isFalse => exact tallied.used number device found

/-- A session that is launched changes no handle. -/
theorem launched (target : Nat) (capacity : UInt32) :
    Tallied (driver.launch target capacity).devices driver.adapters := by
  refine ⟨tallied.proper, fun number device found => ?_,
    fun number device found => ?_⟩
  · obtain ⟨earlier, before, equal⟩ := Table.exists_of_get?_update found
    refine Eq.trans ?_ (tallied.handles_eq number earlier before)
    rw [equal]
    split <;> rfl
  · obtain ⟨earlier, before, equal⟩ := Table.exists_of_get?_update found
    rw [equal]
    split
    case isTrue => exact .inr rfl
    case isFalse => exact tallied.used number earlier before

/-- A device that nobody holds goes with its session. -/
theorem dismissed (running : RunningSession) :
    Tallied (driver.devicesAfter running) driver.adapters := by
  refine ⟨tallied.proper, fun number device found => ?_,
    fun number device found => ?_⟩
  · rw [get?_devicesAfter_eq] at found
    split at found
    case isTrue =>
      obtain ⟨earlier, before, kept⟩ := Option.bind_eq_some_iff.mp found
      obtain ⟨rfl, _⟩ := eq_of_withoutSession kept
      exact tallied.handles_eq number earlier before
    case isFalse => exact tallied.handles_eq number device found
  · rw [get?_devicesAfter_eq] at found
    split at found
    case isTrue =>
      obtain ⟨earlier, _, kept⟩ := Option.bind_eq_some_iff.mp found
      obtain ⟨rfl, held⟩ := eq_of_withoutSession kept
      exact .inl held
    case isFalse => exact tallied.used number device found

end Tallied

/-! ## What every request keeps -/

/-- Devices, handles and sessions agree, devices are told apart by names and
identifiers, and handles are counted. -/
structure Registry (driver : MemoryDriver) : Prop extends Distinct driver where
  /-- Devices that ask for one identifier are one device. -/
  guid_apart : ∀ first second left right guid,
    driver.devices.get? first = some left →
    driver.devices.get? second = some right →
    left.guid = some guid → right.guid = some guid → first = second
  /-- Devices count their handles. -/
  tallied : Tallied driver.devices driver.adapters

namespace Registry

theorem guid_apart_serve
    (registry : Registry driver)
    (request : Request)
    (first second : Nat)
    (left right : Device)
    (guid : Guid)
    (found_first : (driver.serve request).devices.get? first = some left)
    (found_second : (driver.serve request).devices.get? second = some right)
    (left_eq : left.guid = some guid)
    (right_eq : right.guid = some guid) : first = second := by
  -- An identifier of a device that was there before is in use.
  have used : ∀ {number : Nat} {earlier : Device},
      driver.devices.get? number = some earlier → earlier.guid = some guid →
        driver.guidInUse guid = true := by
    intro number earlier before same
    exact List.any_eq_true.mpr
      ⟨earlier, Table.mem_values_of_get? before, decide_eq_true same⟩
  rcases identifiers_serve_cases found_first with
      ⟨former, before_first, guid_first, _⟩ | ⟨new_first, _, _, free_first⟩ <;>
    rcases identifiers_serve_cases found_second with
      ⟨latter, before_second, guid_second, _⟩ | ⟨new_second, _, _, free_second⟩
  · exact registry.guid_apart first second former latter guid before_first
      before_second (guid_first ▸ left_eq) (guid_second ▸ right_eq)
  · have := (free_second guid right_eq).symm.trans
      (used before_first (guid_first ▸ left_eq))
    cases this
  · have := (free_first guid left_eq).symm.trans
      (used before_second (guid_second ▸ right_eq))
    cases this
  · exact new_first.trans new_second.symm

theorem tallied_serve
    (registry : Registry driver)
    (request : Request) :
    Tallied (driver.serve request).devices (driver.serve request).adapters := by
  have tallied := registry.tallied
  have served := driver.served request
  generalize driver.serve request = next at served
  cases served with
  | noted _ alike => rwa [alike.devices, alike.adapters]
  | deleted _ _ alike => rwa [alike.devices, alike.adapters]
  | emptied | turned | signalled => exact tallied
  | created name _ guid => exact tallied.registered registry.toAgreed name guid
  | @opened name device => exact tallied.reopened registry.toAgreed name device
  | closed opened => exact tallied.closed opened
  | @started _ capacity entry => exact tallied.launched entry.device capacity
  | @ended _ entry _ _ alike =>
      rw [alike.devices, alike.adapters]
      exact tallied.dismissed entry

/-- Every request keeps the registry in order. -/
theorem serve (registry : Registry driver) (request : Request) :
    Registry (driver.serve request) where
  toDistinct := registry.toDistinct.serve request
  guid_apart := registry.guid_apart_serve request
  tallied := registry.tallied_serve request

theorem serveAll
    (registry : Registry driver)
    (requests : List Request) : Registry (driver.serveAll requests) :=
  serveAll_keeps (fun _ => Registry.serve) registry requests

end Registry

theorem registry_fresh (version : DriverVersion) (slotBudget : Option Nat) :
    Registry (fresh version slotBudget) where
  toDistinct := distinct_fresh version slotBudget
  guid_apart := fun _ _ _ _ _ present => by simp [fresh] at present
  tallied := ⟨Table.isProper_empty, fun _ _ present => by simp [fresh] at present,
    fun _ _ present => by simp [fresh] at present⟩

end MemoryDriver
end Memory
end VirtualAdapter

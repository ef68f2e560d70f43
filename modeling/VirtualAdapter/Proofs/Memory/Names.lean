import VirtualAdapter.Proofs.Memory.Strays

/-!
# Names lead to sessions

No two devices have the same name up to the case of ASCII letters, so a name
leads to one session at most: the one that runs on the device of that name.
-/

namespace VirtualAdapter
namespace Memory
namespace MemoryDriver

/-- A session runs on a registered device of a name. -/
def runsUnder
    (driver : MemoryDriver)
    (number : Nat)
    (name : String) : Bool :=
  ((driver.sessions.get? number).bind fun running =>
    driver.devices.get? running.device).any fun device =>
      sameName device.name name

/-- Devices, handles and sessions agree, and no two devices have one name. -/
structure Distinct (driver : MemoryDriver) : Prop extends Orderly driver where
  /-- Devices of the same name are one device. -/
  apart : ∀ first second left right,
    driver.devices.get? first = some left →
    driver.devices.get? second = some right →
    sameName left.name right.name = true → first = second

variable {driver : MemoryDriver}

/-- A name of no device is that of none of those registered. -/
theorem Agreed.sameName_of_unknown
    (agreed : Agreed driver)
    {name : String}
    (unknown : driver.deviceNamed? name = none)
    {number : Nat}
    {device : Device}
    (found : driver.devices.get? number = some device) :
    sameName device.name name = false := by
  have none := Option.map_eq_none_iff.mp unknown
  have member := (Table.lookup_eq_some_iff agreed.proper).mp found
  exact Bool.eq_false_iff.mpr (List.find?_eq_none.mp none _ member)

/-! ## Which devices a request leaves -/

/-- A device is created only under a name that was unknown. -/
theorem unknown_of_registers
    {name tunnelType : String}
    {guid : Option Guid}
    (registers : driver.lastNumber <
      (driver.serve (.createAdapter name tunnelType guid)).lastNumber) :
    driver.deviceNamed? name = none := by
  by_contra known
  have same : (createAdapter name tunnelType guid driver).state = driver := by
    unfold createAdapter
    rw [if_pos (Option.isSome_iff_ne_none.mpr known)]
  exact absurd (congrArg MemoryDriver.lastNumber same) registers.ne'

/-- A device that is registered after a request was so before, under the same
name, or the request has created it. -/
theorem device_serve_cases
    {request : Request}
    {number : Nat}
    {device : Device}
    (found : (driver.serve request).devices.get? number = some device) :
    (∃ earlier, driver.devices.get? number = some earlier ∧
      device.name = earlier.name) ∨
    driver.deviceNamed? device.name = none ∧ number = driver.lastNumber + 1 := by
  have served := driver.served request
  generalize state : driver.serve request = next at served found
  cases served with
  | noted _ alike => exact .inl ⟨device, alike.devices ▸ found, rfl⟩
  | deleted _ _ alike =>
      rw [alike.devices] at found
      exact .inl ⟨device, found, rfl⟩
  | created name tunnelType guid =>
      have registers : driver.lastNumber <
          (driver.serve (.createAdapter name tunnelType guid)).lastNumber := by
        rw [state]
        exact Nat.lt_add_of_pos_right Nat.two_pos
      change (driver.devices.insert _ _).get? number = _ at found
      rw [Table.get?_insert] at found
      split at found
      case isTrue new =>
        obtain rfl := Option.some.inj found
        exact .inr ⟨unknown_of_registers registers, new⟩
      case isFalse => exact .inl ⟨device, found, rfl⟩
  | opened =>
      obtain ⟨earlier, before, _, same⟩ := get?_devices_reopened found
      exact .inl ⟨earlier, before, same⟩
  | closed =>
      obtain ⟨earlier, before, _, same⟩ := get?_devicesWithout found
      exact .inl ⟨earlier, before, same⟩
  | @started _ capacity =>
      obtain ⟨earlier, before, same, _⟩ := get?_devices_launch capacity found
      exact .inl ⟨earlier, before, same⟩
  | ended _ alike =>
      rw [alike.devices] at found
      obtain ⟨earlier, before, same, _⟩ := get?_devicesAfter found
      exact .inl ⟨earlier, before, same⟩
  | emptied | turned | signalled => exact .inl ⟨device, found, rfl⟩

/-! ## What every request keeps -/

namespace Distinct

theorem serve (distinct : Distinct driver) (request : Request) :
    Distinct (driver.serve request) := by
  refine ⟨distinct.toOrderly.serve request,
    fun first second left right found_first found_second same => ?_⟩
  -- The name of a device that was there before is not an unknown one.
  have contrary : ∀ {number : Nat} {earlier : Device} {name other : String},
      driver.devices.get? number = some earlier → name = earlier.name →
      driver.deviceNamed? other = none → sameName name other = true → False := by
    rintro number earlier _ other before rfl unknown same
    have := distinct.sameName_of_unknown unknown before
    rw [same] at this
    cases this
  rcases device_serve_cases found_first with
      ⟨former, before_first, name_first⟩ | ⟨unknown_first, new_first⟩ <;>
    rcases device_serve_cases found_second with
      ⟨latter, before_second, name_second⟩ | ⟨unknown_second, new_second⟩
  · rw [name_first, name_second] at same
    exact distinct.apart first second former latter before_first before_second
      same
  · exact (contrary before_first name_first unknown_second same).elim
  · have turned : sameName right.name left.name = true :=
      sameName_iff.mpr (sameName_iff.mp same).symm
    exact (contrary before_second name_second unknown_first turned).elim
  · exact new_first.trans new_second.symm

theorem serveAll
    (distinct : Distinct driver)
    (requests : List Request) : Distinct (driver.serveAll requests) :=
  serveAll_keeps (fun _ => Distinct.serve) distinct requests

/-- A name leads to the session that runs under it. -/
theorem sessionFor?_eq_some_iff
    (distinct : Distinct driver)
    {name : String}
    {number : Nat}
    {entry : RunningSession} :
    driver.sessionFor? name = some (number, entry) ↔
      driver.sessions.get? number = some entry ∧
        driver.runsUnder number name = true := by
  simp only [sessionFor?, Option.bind_eq_bind, Option.bind_eq_some_iff,
    Option.pure_def, Option.some.injEq, Prod.mk.injEq]
  constructor
  · rintro ⟨place, named, device, registered, session, runs, running, found,
      rfl, rfl⟩
    obtain ⟨other, present, same⟩ := distinct.exists_of_deviceNamed? named
    obtain rfl := Option.some.inj (registered.symm.trans present)
    obtain ⟨known, present, on⟩ :=
      distinct.runs place device session registered runs
    obtain rfl := Option.some.inj (found.symm.trans present)
    refine ⟨found, ?_⟩
    simp [runsUnder, found, on, registered, same]
  · rintro ⟨found, under⟩
    rw [runsUnder, found, Option.bind_some, Option.any_eq_true] at under
    obtain ⟨device, registered, same⟩ := under
    have owned := distinct.owned number entry device found registered
    refine ⟨entry.device, ?_, device, registered, number, owned, entry, found,
      rfl, rfl⟩
    -- Some device has the name; there is no other than this one.
    cases named : driver.deviceNamed? name with
    | none =>
        have := distinct.sameName_of_unknown named registered
        rw [same] at this
        cases this
    | some place =>
        obtain ⟨other, present, alike⟩ := distinct.exists_of_deviceNamed? named
        rw [sameName_iff] at same alike
        exact congrArg some (distinct.apart place entry.device other device
          present registered (sameName_iff.mpr (alike.trans same.symm)))

/-- A session to which a name leads runs under it. -/
theorem runsUnder_of_leads
    (distinct : Distinct driver)
    {name : String}
    {number : Nat}
    (leads : (driver.sessionFor? name).map (·.1) = some number) :
    driver.runsUnder number name = true := by
  obtain ⟨⟨_, entry⟩, found, rfl⟩ := Option.map_eq_some_iff.mp leads
  exact (distinct.sessionFor?_eq_some_iff.mp found).2

end Distinct

theorem distinct_fresh (version : DriverVersion) (slotBudget : Option Nat) :
    Distinct (fresh version slotBudget) :=
  ⟨orderly_fresh version slotBudget,
    fun _ _ _ _ present => by simp [fresh] at present⟩

end MemoryDriver
end Memory
end VirtualAdapter

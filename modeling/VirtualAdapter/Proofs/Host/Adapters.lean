import VirtualAdapter.Proofs.Host.Changes

/-!
# Adapters that come and go

An adapter that is given back had no session, and one that is opened has none
yet.  The other adapters keep their devices and their names, and with them all
sessions stay linked.
-/

namespace VirtualAdapter
namespace Host

open Memory (MemoryDriver OpenHandle)
open Memory.MemoryDriver (Consistent)

variable {manager : ManagerId} {host : Host MemoryDriver}

/-! ## Giving back -/

/-- Close the handle of an adapter and forget it, still counted. -/
def removed
    (host : Host MemoryDriver)
    (id : AdapterId)
    (adapter : Adapter)
    (entry : OpenHandle) : Host MemoryDriver :=
  { host with
    driver := host.driver.closed adapter.handle.number entry
    adapters := host.adapters.erase id }

/-- The other adapters keep their names. -/
theorem key?_removed
    (adapter : Adapter)
    (entry : OpenHandle)
    {id other : AdapterId}
    (differs : other ≠ id) :
    (host.removed id adapter entry).key? other = host.key? other := by
  unfold key? removed
  rw [Table.get?_erase, if_neg differs]

/-- What is kept after a removal is another adapter that was there before. -/
theorem of_get?_removed
    {id other : AdapterId}
    {adapter present : Adapter}
    {entry : OpenHandle}
    (seen : (host.removed id adapter entry).adapters.get? other =
      some present) :
    other ≠ id ∧ host.adapters.get? other = some present :=
  Table.of_get?_erase seen

namespace Moored

/-- The other adapters keep their handles. -/
theorem get?_handle_removed
    (moored : Moored manager host)
    {id other : AdapterId}
    {adapter present : Adapter}
    (entry : OpenHandle)
    (found : host.adapters.get? id = some adapter)
    (differs : other ≠ id)
    (seen : host.adapters.get? other = some present) :
    (host.removed id adapter entry).driver.adapters.get?
        present.handle.number =
      host.driver.adapters.get? present.handle.number :=
  (Table.get?_erase _ _ _).trans (if_neg fun same =>
    differs (moored.distinct other id present adapter seen found same))

/-- The other adapters keep their devices. -/
theorem device?_removed
    (moored : Moored manager host)
    {id other : AdapterId}
    {adapter : Adapter}
    (entry : OpenHandle)
    (found : host.adapters.get? id = some adapter)
    (differs : other ≠ id) :
    (host.removed id adapter entry).device? other = host.device? other :=
  device?_congr ((Table.get?_erase _ _ _).trans (if_neg differs))
    fun _ seen => moored.get?_handle_removed entry found differs seen

/-- Removing an adapter. -/
theorem removing
    (moored : Moored manager host)
    {id : AdapterId}
    {adapter : Adapter}
    (entry : OpenHandle)
    (found : host.adapters.get? id = some adapter) :
    Moored manager (host.removed id adapter entry) := by
  have device_kept : ∀ {other : AdapterId} {number : Nat},
      (host.removed id adapter entry).device? other = some number →
        other ≠ id ∧ host.device? other = some number := by
    intro other number on
    obtain ⟨present, _, seen, _⟩ := exists_of_device? on
    have differs := (of_get?_removed seen).1
    exact ⟨differs, (moored.device?_removed entry found differs).symm.trans on⟩
  constructor
  case consistent => exact moored.consistent.closed _ _
  case installed =>
    intro number device registered
    obtain ⟨earlier, before, _⟩ :=
      MemoryDriver.get?_devicesWithout registered
    exact moored.installed number earlier before
  case managed => exact moored.managed
  case adapter_le =>
    intro other present seen
    exact moored.adapter_le other present (of_get?_removed seen).2
  case opened =>
    intro other present seen
    obtain ⟨differs, before⟩ := of_get?_removed seen
    rw [moored.get?_handle_removed entry found differs before]
    exact moored.opened other present before
  case distinct =>
    intro first second left right found_first found_second
    exact moored.distinct first second left right
      (of_get?_removed found_first).2 (of_get?_removed found_second).2
  case named =>
    intro other number device on registered
    obtain ⟨differs, on⟩ := device_kept on
    obtain ⟨earlier, before, _, name⟩ :=
      MemoryDriver.get?_devicesWithout registered
    rw [key?_removed adapter entry differs, name]
    exact moored.named other number earlier on before
  case alike =>
    intro first second number on_first on_second
    obtain ⟨differs_first, on_first⟩ := device_kept on_first
    obtain ⟨differs_second, on_second⟩ := device_kept on_second
    rw [key?_removed adapter entry differs_first,
      key?_removed adapter entry differs_second]
    exact moored.alike first second number on_first on_second

/-- Letting go of an adapter, whether it is given back or not. -/
theorem lettingGo
    (moored : Moored manager host)
    {id : AdapterId}
    {next : Host MemoryDriver}
    (letGo : LetGo host id next) : Moored manager next := by
  cases letGo with
  | kept => exact moored
  | @without adapter entry found opened unheld unused =>
      exact (moored.removing entry found).changeManager adapter.manager _

end Moored

namespace Linked

/-- No session was started on an adapter that is not used. -/
theorem adapter_ne_of_unused
    (linked : Linked manager host)
    {id : AdapterId}
    (unused : host.isUsed id = false)
    {number : SessionId}
    {session : Session}
    (found : host.sessions.get? number = some session) :
    session.adapter ≠ id := by
  intro same
  have used := (linked.isUsed_iff id).mpr ⟨number, session, found, same⟩
  simp [unused] at used

/-- Removing an adapter on which no session was started. -/
theorem removing
    (linked : Linked manager host)
    {id : AdapterId}
    {adapter : Adapter}
    (entry : OpenHandle)
    (found : host.adapters.get? id = some adapter)
    (unused : host.isUsed id = false) :
    Linked manager (host.removed id adapter entry) := by
  have moored := linked.moored.removing entry found
  constructor
  case consistent => exact moored.consistent
  case installed => exact linked.installed
  case proper => exact linked.proper
  case managed => exact linked.managed
  case adapter_le => exact moored.adapter_le
  case session_le => exact linked.session_le
  case opened => exact moored.opened
  case distinct => exact moored.distinct
  case named => exact moored.named
  case alike => exact moored.alike
  case started =>
    intro number session present
    obtain ⟨running, runs, on⟩ := linked.started number session present
    rw [linked.moored.device?_removed entry found
      (linked.adapter_ne_of_unused unused present)]
    exact ⟨running, runs, on⟩
  case complete => exact linked.complete
  case claimed =>
    intro number session present
    rw [key?_removed adapter entry
      (linked.adapter_ne_of_unused unused present)]
    exact linked.claimed number session present
  case apart =>
    intro first second left right found_first found_second same
    rw [key?_removed adapter entry
        (linked.adapter_ne_of_unused unused found_first),
      key?_removed adapter entry
        (linked.adapter_ne_of_unused unused found_second)] at same
    exact linked.apart first second left right found_first found_second same

/-- Giving back an adapter on which no session was started. -/
theorem givingBack
    (linked : Linked manager host)
    {id : AdapterId}
    {adapter : Adapter}
    {entry : OpenHandle}
    (found : host.adapters.get? id = some adapter)
    (unused : host.isUsed id = false) :
    Linked manager (host.without id adapter entry) :=
  (linked.removing entry found unused).changeManager adapter.manager
    fun _ _ _ _ _ _ member => member

/-- Letting go of an adapter keeps the links, whether it is given back or
not. -/
theorem lettingGo
    (linked : Linked manager host)
    {id : AdapterId}
    {next : Host MemoryDriver}
    (letGo : LetGo host id next) : Linked manager next := by
  cases letGo with
  | kept => exact linked
  | without found opened unheld unused =>
      exact linked.givingBack found unused

end Linked

/-! ## Opening -/

/-- What the driver does when it opens a device under a new handle. -/
structure Opens
    (host : Host MemoryDriver)
    (driver : MemoryDriver)
    (handle : AdapterHandle)
    (entry : OpenHandle)
    (name : String) : Prop where
  /-- The driver agrees with itself. -/
  consistent : Consistent driver
  /-- The driver was not removed. -/
  installed : driver.installed = true
  /-- The handle has a number that was not given before. -/
  fresh : host.driver.lastNumber < handle.number
  /-- The other handles are what they were. -/
  adapters : ∀ number, driver.adapters.get? number =
    if number = handle.number then some entry
    else host.driver.adapters.get? number
  /-- Sessions go on. -/
  sessions : driver.sessions = host.driver.sessions
  /-- The device is known by the name. -/
  target : ∀ device, driver.devices.get? entry.device = some device →
    deviceKey device.name = deviceKey name
  /-- The other devices keep their names. -/
  devices : ∀ number device, driver.devices.get? number = some device →
    number ≠ entry.device →
      ∃ earlier, host.driver.devices.get? number = some earlier ∧
        device.name = earlier.name
  /-- The other adapters of the device are known by the name. -/
  alike : ∀ id, host.device? id = some entry.device →
    host.key? id = some (deviceKey name)

/-- Keep an adapter that the driver has opened under a new number, not yet
counted. -/
def added
    (host : Host MemoryDriver)
    (driver : MemoryDriver)
    (adapter : Adapter) : Host MemoryDriver :=
  { host with
    driver
    lastNumber := host.lastNumber + 1
    adapters := host.adapters.insert (host.lastNumber + 1) adapter }

theorem get?_added
    (host : Host MemoryDriver)
    (driver : MemoryDriver)
    (adapter : Adapter)
    (id : AdapterId) :
    (host.added driver adapter).adapters.get? id =
      if id = host.lastNumber + 1 then some adapter
      else host.adapters.get? id := Table.get?_insert _ _ _ _

/-- The new adapter brings its name, the others keep theirs. -/
theorem key?_added
    (host : Host MemoryDriver)
    (driver : MemoryDriver)
    (adapter : Adapter)
    (id : AdapterId) :
    (host.added driver adapter).key? id =
      if id = host.lastNumber + 1 then some (deviceKey adapter.name)
      else host.key? id := by
  unfold key?
  rw [get?_added]
  split <;> rfl

/-- The number of the next adapter is not taken. -/
theorem Moored.ne_new
    (moored : Moored manager host)
    {id : AdapterId}
    {adapter : Adapter}
    (found : host.adapters.get? id = some adapter) :
    id ≠ host.lastNumber + 1 :=
  Nat.ne_of_lt (Nat.lt_succ_of_le (moored.adapter_le id adapter found))

/-- Sessions are not on the next adapter. -/
theorem Linked.key?_added_of_session
    (linked : Linked manager host)
    (driver : MemoryDriver)
    (adapter : Adapter)
    {number : SessionId}
    {session : Session}
    (found : host.sessions.get? number = some session) :
    (host.added driver adapter).key? session.adapter =
      host.key? session.adapter := by
  obtain ⟨earlier, present⟩ := linked.adapter_of_session found
  rw [key?_added, if_neg (linked.moored.ne_new present)]

namespace Opens

variable {driver : MemoryDriver} {handle : AdapterHandle} {entry : OpenHandle}
  {name : String}

/-- The handle of no adapter is new. -/
theorem handle_ne
    (opens : Opens host driver handle entry name)
    (moored : Moored manager host)
    {id : AdapterId}
    {adapter : Adapter}
    (found : host.adapters.get? id = some adapter) :
    adapter.handle.number ≠ handle.number := by
  obtain ⟨other, opened⟩ := (moored.opened id adapter found).2
  have known := moored.consistent.handle_le _ other opened
  have fresh := opens.fresh
  omega

/-- The new adapter is for the device that was opened, the others keep
theirs. -/
theorem device?_added
    (opens : Opens host driver handle entry name)
    (moored : Moored manager host)
    (id : AdapterId) :
    (host.added driver { manager, handle, name }).device? id =
      if id = host.lastNumber + 1 then some entry.device
      else host.device? id := by
  split
  case isTrue new =>
    unfold device?
    rw [get?_added, if_pos new]
    change (driver.adapters.get? handle.number).map _ = _
    rw [opens.adapters, if_pos rfl]
    rfl
  case isFalse old =>
    refine device?_congr ((get?_added _ _ _ _).trans (if_neg old)) ?_
    intro adapter found
    change driver.adapters.get? adapter.handle.number = _
    rw [opens.adapters, if_neg (opens.handle_ne moored found)]

/-- All adapters of the device are known by the name. -/
theorem key?_of_device?
    (opens : Opens host driver handle entry name)
    (moored : Moored manager host)
    {id : AdapterId}
    (on : (host.added driver { manager, handle, name }).device? id =
      some entry.device) :
    (host.added driver { manager, handle, name }).key? id =
      some (deviceKey name) := by
  rw [opens.device?_added moored] at on
  rw [key?_added]
  split at on
  case isTrue new => rw [if_pos new]
  case isFalse old =>
    rw [if_neg old]
    exact opens.alike id on

/-- The adapters of other devices were there before. -/
theorem kept_of_device?
    (opens : Opens host driver handle entry name)
    (moored : Moored manager host)
    {id : AdapterId}
    {number : Nat}
    (on : (host.added driver { manager, handle, name }).device? id =
      some number)
    (other : number ≠ entry.device) :
    host.device? id = some number ∧
      (host.added driver { manager, handle, name }).key? id =
        host.key? id := by
  rw [opens.device?_added moored] at on
  rw [key?_added]
  split at on
  case isTrue => exact absurd (Option.some.inj on).symm other
  case isFalse old => exact ⟨on, if_neg old⟩

/-- Keeping the new adapter moors it. -/
theorem mooring
    (opens : Opens host driver handle entry name)
    (moored : Moored manager host) :
    Moored manager (host.added driver { manager, handle, name }) := by
  constructor
  case consistent => exact opens.consistent
  case installed => exact fun _ _ _ => opens.installed
  case managed => exact moored.managed
  case adapter_le =>
    intro id adapter found
    rw [get?_added] at found
    split at found
    case isTrue same => exact same.le
    case isFalse => exact Nat.le_succ_of_le (moored.adapter_le id adapter found)
  case opened =>
    intro id adapter found
    change _ ∧ ∃ entry, driver.adapters.get? adapter.handle.number = some entry
    rw [get?_added] at found
    rw [opens.adapters]
    split at found
    case isTrue =>
      obtain rfl := Option.some.inj found
      exact ⟨rfl, entry, if_pos rfl⟩
    case isFalse =>
      rw [if_neg (opens.handle_ne moored found)]
      exact moored.opened id adapter found
  case distinct =>
    intro first second left right found_first found_second same
    exact Table.eq_of_get?_insert (fun adapter => adapter.handle.number)
      moored.distinct (fun _ _ found => opens.handle_ne moored found)
      found_first found_second same
  case named =>
    intro id number device on registered
    by_cases same : number = entry.device
    · subst same
      rw [opens.key?_of_device? moored on, opens.target device registered]
    · obtain ⟨before, key⟩ := opens.kept_of_device? moored on same
      obtain ⟨earlier, present, equal⟩ :=
        opens.devices number device registered same
      rw [key, equal]
      exact moored.named id number earlier before present
  case alike =>
    intro first second number on_first on_second
    by_cases same : number = entry.device
    · subst same
      rw [opens.key?_of_device? moored on_first,
        opens.key?_of_device? moored on_second]
    · obtain ⟨before_first, key_first⟩ :=
        opens.kept_of_device? moored on_first same
      obtain ⟨before_second, key_second⟩ :=
        opens.kept_of_device? moored on_second same
      rw [key_first, key_second]
      exact moored.alike first second number before_first before_second

/-- Keeping the new adapter. -/
theorem adding
    (opens : Opens host driver handle entry name)
    (linked : Linked manager host) :
    Linked manager (host.added driver { manager, handle, name }) := by
  have moored := opens.mooring linked.moored
  constructor
  case consistent => exact opens.consistent
  case installed => exact opens.installed
  case proper => exact linked.proper
  case managed => exact linked.managed
  case adapter_le => exact moored.adapter_le
  case session_le =>
    intro id session found
    exact Nat.le_succ_of_le (linked.session_le id session found)
  case opened => exact moored.opened
  case distinct => exact moored.distinct
  case named => exact moored.named
  case alike => exact moored.alike
  case started =>
    intro number session found
    obtain ⟨adapter, present⟩ := linked.adapter_of_session found
    obtain ⟨running, runs, on⟩ := linked.started number session found
    refine ⟨running, ?_, ?_⟩
    · change driver.sessions.get? _ = _
      rw [opens.sessions, runs]
    · rw [opens.device?_added linked.moored,
        if_neg (linked.moored.ne_new present), on]
  case complete =>
    intro number running runs
    change driver.sessions.get? _ = _ at runs
    rw [opens.sessions] at runs
    exact linked.complete number running runs
  case claimed =>
    intro number session found
    rw [linked.key?_added_of_session driver _ found]
    exact linked.claimed number session found
  case apart =>
    intro first second left right found_first found_second same
    rw [linked.key?_added_of_session driver _ found_first,
      linked.key?_added_of_session driver _ found_second] at same
    exact linked.apart first second left right found_first found_second same

/-- Keeping and counting the new adapter. -/
theorem adopting
    (opens : Opens host driver handle entry name)
    (linked : Linked manager host) :
    Linked manager ({ host with driver }.adopted manager handle name) :=
  (opens.adding linked).changeManager manager
    fun _ _ _ _ _ _ member => member

end Opens

namespace Moored

/-- Creating a device opens it under a new handle. -/
theorem opens_registered
    (moored : Moored manager host)
    (name : String)
    (guid : Option Guid) :
    Opens host ((host.driver.register name guid).noteCall (.create name))
      ⟨host.driver.lastNumber + 2⟩ ⟨host.driver.lastNumber + 1, true⟩ name := by
  have devices : ∀ number,
      ((host.driver.register name guid).noteCall
        (.create name)).devices.get? number =
        if number = host.driver.lastNumber + 1 then
          some
            { name, guid, handles := 1, session := none
              luid := .ofParts (UInt32.ofNat (host.driver.lastIndex + 1))
                Luid.virtualInterface }
        else host.driver.devices.get? number := fun _ => Table.get?_insert _ _ _ _
  constructor
  case consistent =>
    exact (moored.consistent.register name guid).noteCall (.create name)
  case installed => rfl
  case fresh => exact Nat.lt_add_of_pos_right (by decide)
  case adapters => exact fun _ => Table.get?_insert _ _ _ _
  case sessions => rfl
  case target =>
    intro device registered
    rw [devices, if_pos rfl] at registered
    rw [← Option.some.inj registered]
  case devices =>
    intro number device registered differs
    rw [devices, if_neg differs] at registered
    exact ⟨device, registered, rfl⟩
  case alike =>
    intro id on
    obtain ⟨adapter, entry, _, opened, same⟩ := exists_of_device? on
    have known := moored.consistent.handle_le _ entry opened
    simp only at same
    omega

/-- Opening a device once more opens it under a new handle. -/
theorem opens_reopened
    (moored : Moored manager host)
    {name : String}
    {device : Nat}
    (found : host.driver.deviceNamed? name = some device) :
    Opens host (host.driver.reopened name device)
      ⟨host.driver.lastNumber + 1⟩ ⟨device, false⟩ name := by
  obtain ⟨target, registered, same⟩ :=
    moored.consistent.exists_of_deviceNamed? found
  have key : deviceKey target.name = deviceKey name :=
    congrArg String.ofList (MemoryDriver.sameName_iff.mp same)
  constructor
  case consistent =>
    exact moored.consistent.reopened name
      (moored.consistent.device_le device target registered)
  case installed => exact moored.installed device target registered
  case fresh => exact Nat.lt_succ_self _
  case adapters => exact fun _ => Table.get?_insert _ _ _ _
  case sessions => rfl
  case target =>
    intro entry reopened
    obtain ⟨earlier, present, _, equal⟩ :=
      MemoryDriver.get?_devices_reopened reopened
    rw [equal, Option.some.inj (present.symm.trans registered)]
    exact key
  case devices =>
    intro number entry registered _
    obtain ⟨earlier, present, _, same⟩ :=
      MemoryDriver.get?_devices_reopened registered
    exact ⟨earlier, present, same⟩
  case alike =>
    intro id on
    rw [moored.named id device target on registered, key]

end Moored

namespace Linked

/-- Keeping an adapter whose device was just created. -/
theorem registering
    (linked : Linked manager host)
    (name : String)
    (guid : Option Guid) :
    Linked manager
      ({ host with
          driver := (host.driver.register name guid).noteCall
            (.create name) }.adopted manager ⟨host.driver.lastNumber + 2⟩
              name) :=
  (linked.moored.opens_registered name guid).adopting linked

/-- Keeping an adapter whose device was opened once more. -/
theorem reopening
    (linked : Linked manager host)
    {name : String}
    {device : Nat}
    (found : host.driver.deviceNamed? name = some device) :
    Linked manager
      ({ host with driver := host.driver.reopened name device }.adopted manager
        ⟨host.driver.lastNumber + 1⟩ name) :=
  (linked.moored.opens_reopened found).adopting linked

end Linked
end Host
end VirtualAdapter

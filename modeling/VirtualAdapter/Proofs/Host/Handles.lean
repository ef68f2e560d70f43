import VirtualAdapter.Proofs.Host.Outcomes

/-!
# Adapters, sessions and their devices

Several adapters can stand for one device, and a session belongs to the device
and not only to the adapter on which it was started.  What one manager keeps
agrees with what the in-memory driver keeps: every adapter is an open handle,
every session runs on the device of its adapter, and the names that are
claimed keep sessions apart.
-/

namespace VirtualAdapter
namespace Host

open Memory (MemoryDriver OpenHandle RunningSession)
open Memory.MemoryDriver (Consistent)

/-- The device of an adapter. -/
def device? (host : Host MemoryDriver) (id : AdapterId) : Option Nat :=
  (host.adapters.get? id).bind fun adapter =>
    (host.driver.adapters.get? adapter.handle.number).map (·.device)

/-- The name by which the device of an adapter is known. -/
def key? (host : Host MemoryDriver) (id : AdapterId) : Option String :=
  (host.adapters.get? id).map fun adapter => deviceKey adapter.name

/-- What a manager keeps agrees with what the driver keeps. -/
structure Linked (manager : ManagerId) (host : Host MemoryDriver) : Prop where
  /-- The driver agrees with itself. -/
  consistent : Consistent host.driver
  /-- The driver was not removed. -/
  installed : host.driver.installed = true
  /-- No session has two entries. -/
  proper : host.sessions.IsProper
  /-- The manager is there. -/
  managed : ∃ entry, host.managers.get? manager = some entry
  /-- Adapters have been given numbers. -/
  adapter_le : ∀ id adapter, host.adapters.get? id = some adapter →
    id ≤ host.lastNumber
  /-- Sessions have been given numbers. -/
  session_le : ∀ id session, host.sessions.get? id = some session →
    id ≤ host.lastNumber
  /-- Every adapter is an open handle. -/
  opened : ∀ id adapter, host.adapters.get? id = some adapter →
    adapter.manager = manager ∧
      ∃ entry, host.driver.adapters.get? adapter.handle.number = some entry
  /-- Adapters have different handles. -/
  distinct : ∀ first second left right,
    host.adapters.get? first = some left →
    host.adapters.get? second = some right →
    left.handle.number = right.handle.number → first = second
  /-- Adapters are known by the names of their devices. -/
  named : ∀ id number device, host.device? id = some number →
    host.driver.devices.get? number = some device →
      host.key? id = some (deviceKey device.name)
  /-- Adapters of one device are known by one name. -/
  alike : ∀ first second number, host.device? first = some number →
    host.device? second = some number → host.key? first = host.key? second
  /-- Sessions run on the devices of their adapters. -/
  started : ∀ id session, host.sessions.get? id = some session →
    ∃ running, host.driver.sessions.get? session.handle.number = some running ∧
      host.device? session.adapter = some running.device
  /-- Every running session was started here. -/
  complete : ∀ number running,
    host.driver.sessions.get? number = some running →
      ∃ id session, host.sessions.get? id = some session ∧
        session.handle.number = number
  /-- Sessions have claimed their names. -/
  claimed : ∀ id session, host.sessions.get? id = some session →
    ∃ key entry, host.key? session.adapter = some key ∧
      host.managers.get? manager = some entry ∧ key ∈ entry.running
  /-- Sessions have claimed different names. -/
  apart : ∀ first second left right,
    host.sessions.get? first = some left →
    host.sessions.get? second = some right →
    host.key? left.adapter = host.key? right.adapter → first = second

variable {manager : ManagerId} {host : Host MemoryDriver}

/-- A driver from which nothing was obtained. -/
def untouched
    (version : DriverVersion)
    (slotBudget : Option Nat) : Host MemoryDriver :=
  { driver := { version, slotBudget } }

/-- A new manager over a new driver. -/
theorem linked_newManager
    (config : ManagerConfig)
    (version : DriverVersion)
    (slotBudget : Option Nat) :
    Linked 1 (newManager config (untouched version slotBudget)).state := by
  have driver : ∀ sink : Option Sink,
      Consistent ({ version, slotBudget, sink } : MemoryDriver) := fun _ =>
    ⟨Memory.MemoryDriver.agreed_new version slotBudget _,
      fun _ _ present => by simp at present⟩
  have state : (newManager config (untouched version slotBudget)).state =
      { driver := { version, slotBudget, sink := config.logger.sink? }
        managers := (∅ : Table ManagerId Manager).insert 1
          { minVersion := config.minVersion
            deleteOnDrop := config.deleteOnDrop }
        lastNumber := 1 } := rfl
  rw [state]
  constructor
  case consistent => exact driver _
  case installed => rfl
  case proper => exact Table.isProper_empty
  case managed => exact ⟨_, Table.get?_insert _ _ _ _⟩
  all_goals
    intros
    simp_all [device?]

/-! ## The device of an adapter -/

/-- Only adapters that are there have a device. -/
theorem exists_of_device?
    {id : AdapterId}
    {number : Nat}
    (found : host.device? id = some number) :
    ∃ adapter entry, host.adapters.get? id = some adapter ∧
      host.driver.adapters.get? adapter.handle.number = some entry ∧
      entry.device = number := by
  obtain ⟨adapter, present, entry⟩ := Option.bind_eq_some_iff.mp found
  obtain ⟨entry, opened, same⟩ := Option.map_eq_some_iff.mp entry
  exact ⟨adapter, entry, present, opened, same⟩

/-- An adapter whose entry and handle are kept keeps its device. -/
theorem device?_congr
    {next : Host MemoryDriver}
    {id : AdapterId}
    (adapters : next.adapters.get? id = host.adapters.get? id)
    (handles : ∀ adapter, host.adapters.get? id = some adapter →
      next.driver.adapters.get? adapter.handle.number =
        host.driver.adapters.get? adapter.handle.number) :
    next.device? id = host.device? id := by
  unfold device?
  rw [adapters]
  cases found : host.adapters.get? id with
  | none => rfl
  | some adapter =>
      simp only [Option.bind_some]
      rw [handles adapter found]

/-- A session keeps its adapter open. -/
theorem Linked.adapter_of_session
    (linked : Linked manager host)
    {id : SessionId}
    {session : Session}
    (found : host.sessions.get? id = some session) :
    ∃ adapter, host.adapters.get? session.adapter = some adapter := by
  obtain ⟨running, _, device⟩ := linked.started id session found
  obtain ⟨adapter, _, present, _⟩ := exists_of_device? device
  exact ⟨adapter, present⟩

/-- Two sessions are never on one device. -/
theorem Linked.session_eq
    (linked : Linked manager host)
    {first second : SessionId}
    {left right : Session}
    (found_first : host.sessions.get? first = some left)
    (found_second : host.sessions.get? second = some right)
    (same : host.device? left.adapter = host.device? right.adapter) :
    first = second := by
  obtain ⟨running, _, device⟩ := linked.started first left found_first
  exact linked.apart first second left right found_first found_second
    (linked.alike _ _ running.device device (same ▸ device))

/-- An adapter is used exactly if some session was started on it. -/
theorem Linked.isUsed_iff (linked : Linked manager host) (id : AdapterId) :
    host.isUsed id = true ↔
      ∃ number session, host.sessions.get? number = some session ∧
        session.adapter = id := by
  unfold isUsed
  rw [List.any_eq_true]
  constructor
  · rintro ⟨session, member, same⟩
    obtain ⟨number, found⟩ := linked.proper.mem_values_iff.mp member
    exact ⟨number, session, found, of_decide_eq_true same⟩
  · rintro ⟨number, session, found, same⟩
    exact ⟨session, linked.proper.mem_values_iff.mpr ⟨number, found⟩,
      decide_eq_true same⟩

end Host
end VirtualAdapter

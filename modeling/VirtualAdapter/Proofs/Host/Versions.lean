import VirtualAdapter.Proofs.Host.Adapters

/-!
# Versions

No call changes the driver's version or what a manager accepts, and the first
adapter is opened only through a manager that accepts the driver.
-/

namespace VirtualAdapter
namespace Host

open Memory (MemoryDriver RunningSession)

variable {manager : ManagerId} {host next : Host MemoryDriver}

/-- The oldest driver version that a manager accepts. -/
def required? (host : Host MemoryDriver) (id : ManagerId) :
    Option DriverVersion :=
  (host.managers.get? id).bind (·.minVersion)

/-- A change that keeps what managers accept. -/
theorem required?_update
    (host : Host MemoryDriver)
    (id : ManagerId)
    {step : Manager → Manager}
    (keeps : ∀ entry, (step entry).minVersion = entry.minVersion)
    (other : ManagerId) :
    required? { host with managers := host.managers.update id step } other =
      host.required? other := by
  unfold required?
  rw [Table.get?_update]
  split
  case isTrue same =>
    subst same
    cases host.managers.get? other with
    | none => rfl
    | some entry => exact keeps entry
  case isFalse => rfl

theorem required?_adopted
    (host : Host MemoryDriver)
    (id : ManagerId)
    (handle : AdapterHandle)
    (name : String)
    (other : ManagerId) :
    (host.adopted id handle name).required? other = host.required? other :=
  required?_update host id (by exact fun _ => rfl) other

/-- A manager accepts the driver. -/
def Accepting (host : Host MemoryDriver) (id : ManagerId) : Prop :=
  ∀ required, host.required? id = some required →
    host.driver.version.isOlder required = false

theorem accepting_adopted
    {driver : MemoryDriver}
    {handle : AdapterHandle}
    {name : String}
    (version : driver.version = host.driver.version) :
    ({ host with driver }.adopted manager handle name).Accepting manager ↔
      host.Accepting manager := by
  unfold Accepting
  rw [required?_adopted]
  change (∀ required, host.required? manager = some required →
    driver.version.isOlder required = false) ↔ _
  rw [version]

/-- There is an adapter. -/
def HasAdapter (host : Host MemoryDriver) : Prop :=
  ∃ id adapter, host.adapters.get? id = some adapter

/-- A call changes neither version, and opens no adapter. -/
structure Frame (manager : ManagerId) (host next : Host MemoryDriver) : Prop where
  /-- The driver's version is the same. -/
  version_eq : next.driver.version = host.driver.version
  /-- The manager accepts the same versions. -/
  required_eq : next.required? manager = host.required? manager
  /-- There was an adapter before. -/
  hasAdapter : next.HasAdapter → host.HasAdapter

namespace Frame

theorem refl (manager : ManagerId) (host : Host MemoryDriver) :
    Frame manager host host := ⟨rfl, rfl, id⟩

theorem trans
    {last : Host MemoryDriver}
    (first : Frame manager host next)
    (second : Frame manager next last) : Frame manager host last :=
  ⟨second.version_eq.trans first.version_eq,
    second.required_eq.trans first.required_eq,
    first.hasAdapter ∘ second.hasAdapter⟩

/-- Changing what adapters keep. -/
theorem changeAdapter
    (host : Host MemoryDriver)
    (id : AdapterId)
    (step : Adapter → Adapter) :
    Frame manager host
      { host with adapters := host.adapters.update id step } := by
  refine ⟨rfl, rfl, ?_⟩
  rintro ⟨other, adapter, found⟩
  obtain ⟨earlier, present, _⟩ := Table.exists_of_get?_update found
  exact ⟨other, earlier, present⟩

/-- Changing what managers keep besides the version. -/
theorem changeManager
    (host : Host MemoryDriver)
    (id : ManagerId)
    {step : Manager → Manager}
    (keeps : ∀ entry, (step entry).minVersion = entry.minVersion) :
    Frame manager host
      { host with managers := host.managers.update id step } :=
  ⟨rfl, required?_update host id keeps manager, fun present => present⟩

/-- Changing the driver but for its version. -/
theorem changeDriver
    (host : Host MemoryDriver)
    {driver : MemoryDriver}
    (version : driver.version = host.driver.version) :
    Frame manager host { host with driver } :=
  ⟨version, rfl, fun present => present⟩

theorem accepting (frame : Frame manager host next) :
    next.Accepting manager ↔ host.Accepting manager := by
  unfold Accepting
  rw [frame.version_eq, frame.required_eq]

/-- Setting or clearing a flag. -/
theorem flagged (host : Host MemoryDriver) (id : AdapterId) (value : Bool) :
    Frame manager host (host.flagged id value) := changeAdapter host id _

/-- Claiming a name. -/
theorem named (host : Host MemoryDriver) (id : ManagerId) (key : String) :
    Frame manager host (host.named id key) :=
  changeManager host id fun _ => rfl

/-- Releasing a name. -/
theorem unnamed (host : Host MemoryDriver) (id : ManagerId) (key : String) :
    Frame manager host (host.unnamed id key) :=
  changeManager host id fun _ => rfl

/-- Counting sessions. -/
theorem recounted
    (host : Host MemoryDriver)
    (id : ManagerId)
    (change : Nat → Nat) : Frame manager host (host.recounted id change) :=
  changeManager host id fun _ => rfl

/-- Launching a session. -/
theorem launched
    (host : Host MemoryDriver)
    (id : AdapterId)
    (device : Nat)
    (capacity : UInt32)
    (config : SessionConfig) :
    Frame manager host (host.launched id device capacity config) :=
  ⟨rfl, rfl, fun present => present⟩

/-- A start. -/
theorem starting
    {id : AdapterId}
    (started : Started host id next) : Frame manager host next := by
  cases started with
  | refused => exact refl manager host
  | returned => exact (flagged host id true).trans (flagged _ id false)
  | undone =>
      exact (((flagged host id true).trans (named _ _ _)).trans
        (unnamed _ _ _)).trans (flagged _ id false)
  | launched found managed free opened idle capacity config =>
      exact (((flagged host id true).trans (named _ _ _)).trans
        (launched _ _ _ _ _)).trans (recounted _ _ _)

/-- An end, up to letting go of the adapter. -/
theorem ended
    (host : Host MemoryDriver)
    (id : SessionId)
    (session : Session)
    (adapter : Adapter)
    (running : RunningSession) :
    Frame manager host (host.ended id session adapter running) := by
  have driver : Frame manager host
      { host with
        driver := (host.driver.setSignal session.shutdownEvent.number).dismissed
          session.handle.number running } := changeDriver host rfl
  have frame := ((driver.trans (unnamed _ adapter.manager
    (deviceKey adapter.name))).trans (flagged _ session.adapter false)).trans
      (recounted _ adapter.manager (· - 1))
  exact ⟨frame.version_eq, frame.required_eq, frame.hasAdapter⟩

/-- Letting go of an adapter. -/
theorem lettingGo
    {id : AdapterId}
    (letGo : LetGo host id next) : Frame manager host next := by
  cases letGo with
  | kept => exact refl manager host
  | @without adapter entry found opened unheld unused =>
      have counted : Frame manager host { host with
          managers := host.managers.update adapter.manager fun entry =>
            { entry with openAdapters := entry.openAdapters - 1 } } :=
        changeManager host adapter.manager fun _ => rfl
      refine ⟨rfl, counted.required_eq, ?_⟩
      rintro ⟨other, present, seen⟩
      exact ⟨other, present, (Table.of_get?_erase seen).2⟩

end Frame

/-- What holds between the calls of one manager. -/
structure Sound (manager : ManagerId) (host : Host MemoryDriver) : Prop
    extends Linked manager host where
  /-- Adapters are only kept over a driver that is new enough. -/
  accepted : host.HasAdapter → host.Accepting manager

/-- A change that keeps the links and the versions. -/
theorem Sound.of_frame
    (sound : Sound manager host)
    (linked : Linked manager next)
    (frame : Frame manager host next) : Sound manager next :=
  ⟨linked, fun present =>
    frame.accepting.mpr (sound.accepted (frame.hasAdapter present))⟩

end Host
end VirtualAdapter

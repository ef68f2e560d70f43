import VirtualAdapter.Proofs.Host.Moorings

/-!
# Changes that keep adapters, sessions and devices linked

Flags and counts are no part of the links, names matter only while a session
has claimed them.  A session that is launched, and one that is ended, keep
everything linked.
-/

namespace VirtualAdapter
namespace Host

open Memory (MemoryDriver OpenHandle RunningSession)
open Memory.MemoryDriver (Consistent)

variable {manager : ManagerId} {host : Host MemoryDriver}

namespace Linked

/-- Changing what an adapter keeps besides manager, handle and name. -/
theorem changeAdapter
    (linked : Linked manager host)
    (id : AdapterId)
    {step : Adapter → Adapter}
    (keeps : ∀ adapter, (step adapter).manager = adapter.manager ∧
      (step adapter).handle = adapter.handle ∧
      (step adapter).name = adapter.name) :
    Linked manager { host with adapters := host.adapters.update id step } := by
  have moored := linked.moored.changeAdapter id keeps
  have devices := device?_update host id fun adapter => (keeps adapter).2.1
  have keys := key?_update host id fun adapter => (keeps adapter).2.2
  constructor
  case consistent => exact linked.consistent
  case installed => exact linked.installed
  case proper => exact linked.proper
  case managed => exact linked.managed
  case adapter_le => exact moored.adapter_le
  case session_le => exact linked.session_le
  case opened => exact moored.opened
  case distinct => exact moored.distinct
  case named => exact moored.named
  case alike => exact moored.alike
  case started => simpa only [devices] using linked.started
  case complete => exact linked.complete
  case claimed => simpa only [keys] using linked.claimed
  case apart => simpa only [keys] using linked.apart

/-- Changing managers so that names that sessions have claimed stay claimed. -/
theorem changeManager
    (linked : Linked manager host)
    (id : ManagerId)
    {step : Manager → Manager}
    (keeps : ∀ number session entry key,
      host.sessions.get? number = some session →
      host.key? session.adapter = some key →
        key ∈ entry.running → key ∈ (step entry).running) :
    Linked manager { host with managers := host.managers.update id step } := by
  have lookup : ∀ {other : ManagerId} {entry : Manager},
      host.managers.get? other = some entry →
      (host.managers.update id step).get? other =
        some (if other = id then step entry else entry) := by
    intro other entry found
    rw [Table.get?_update]
    split
    case isTrue same =>
      subst same
      rw [found]
      rfl
    case isFalse => exact found
  constructor
  case consistent => exact linked.consistent
  case installed => exact linked.installed
  case proper => exact linked.proper
  case managed =>
    obtain ⟨entry, found⟩ := linked.managed
    exact ⟨_, lookup found⟩
  case adapter_le => exact linked.adapter_le
  case session_le => exact linked.session_le
  case opened => exact linked.opened
  case distinct => exact linked.distinct
  case named => exact linked.named
  case alike => exact linked.alike
  case started => exact linked.started
  case complete => exact linked.complete
  case claimed =>
    intro number session found
    obtain ⟨key, entry, known, present, member⟩ :=
      linked.claimed number session found
    refine ⟨key, _, known, lookup present, ?_⟩
    split
    · exact keeps number session entry key found known member
    · exact member
  case apart => exact linked.apart

/-- Setting or clearing a flag. -/
theorem flagging
    (linked : Linked manager host)
    (id : AdapterId)
    (value : Bool) : Linked manager (host.flagged id value) :=
  linked.changeAdapter id fun _ => ⟨rfl, rfl, rfl⟩

/-- Noting that the caller has let go of an adapter. -/
theorem unholding
    (linked : Linked manager host)
    (id : AdapterId) : Linked manager (host.unheld id) :=
  linked.changeAdapter id fun _ => ⟨rfl, rfl, rfl⟩

/-- Claiming a name. -/
theorem claiming
    (linked : Linked manager host)
    (id : ManagerId)
    (key : String) : Linked manager (host.named id key) :=
  linked.changeManager id fun _ _ _ _ _ _ member =>
    List.mem_append_left _ member

/-- Releasing a name that no session has claimed. -/
theorem releasing
    (linked : Linked manager host)
    (id : ManagerId)
    {key : String}
    (unclaimed : ∀ number session,
      host.sessions.get? number = some session →
        host.key? session.adapter ≠ some key) :
    Linked manager (host.unnamed id key) :=
  linked.changeManager id fun number session entry other found known member =>
    List.mem_filter.mpr ⟨member, by
      simpa using fun same : other = key =>
        unclaimed number session found (same ▸ known)⟩

/-- Counting sessions. -/
theorem recounting
    (linked : Linked manager host)
    (id : ManagerId)
    (change : Nat → Nat) : Linked manager (host.recounted id change) :=
  linked.changeManager id fun _ _ _ _ _ _ member => member

/-! ## Sessions -/

/-- Launching a session on an adapter whose name was claimed for it. -/
theorem launching
    (linked : Linked manager host)
    {id : AdapterId}
    {adapter : Adapter}
    {entry : OpenHandle}
    {claims : Manager}
    (found : host.adapters.get? id = some adapter)
    (opened : host.driver.adapters.get? adapter.handle.number = some entry)
    (idle : host.driver.isBusy entry.device = false)
    (managed : host.managers.get? manager = some claims)
    (claimed : deviceKey adapter.name ∈ claims.running)
    (alone : ∀ number session, host.sessions.get? number = some session →
      host.key? session.adapter ≠ some (deviceKey adapter.name))
    (capacity : UInt32)
    (config : SessionConfig) :
    Linked manager (host.launched id entry.device capacity config) := by
  have known := linked.consistent.handle_le _ entry opened
  have key : host.key? id = some (deviceKey adapter.name) := by
    simp [key?, found]
  have device : host.device? id = some entry.device := by
    simp [device?, found, opened]
  have sessions : ∀ number,
      (host.launched id entry.device capacity config).sessions.get? number =
        if number = host.lastNumber + 1 then
          some
            { adapter := id, handle := ⟨host.driver.lastNumber + 1⟩
              readEvent := ⟨host.driver.signals.nextSignal⟩
              shutdownEvent := ⟨(host.driver.started entry.device
                capacity).signals.nextSignal⟩
              capacity, config }
        else host.sessions.get? number := fun _ => Table.get?_insert _ _ _ _
  have running : ∀ number,
      (host.launched id entry.device capacity config).driver.sessions.get?
          number =
        if number = host.driver.lastNumber + 1 then
          some
            { device := entry.device, inbound := .ofCapacity capacity
              outbound := .ofCapacity capacity
              readEvent := host.driver.signals.nextSignal, failed := false }
        else host.driver.sessions.get? number :=
    fun _ => Table.get?_insert _ _ _ _
  constructor
  case consistent =>
    have started := linked.consistent.launch known.2 idle capacity
    exact ⟨started.of_same rfl rfl rfl fun _ => rfl, started.quiet⟩
  case installed => exact linked.installed
  case proper => exact linked.proper.insert _ _
  case managed => exact linked.managed
  case adapter_le =>
    intro other entry present
    exact Nat.le_succ_of_le (linked.adapter_le other entry present)
  case session_le =>
    intro number session present
    rw [sessions] at present
    split at present
    case isTrue same => exact same.le
    case isFalse =>
      exact Nat.le_succ_of_le (linked.session_le number session present)
  case opened => exact linked.opened
  case distinct => exact linked.distinct
  case named =>
    intro other number target on registered
    obtain ⟨earlier, before, name, _⟩ :=
      MemoryDriver.get?_devices_launch capacity registered
    rw [name]
    exact linked.named other number earlier on before
  case alike => exact linked.alike
  case started =>
    intro number session present
    rw [sessions] at present
    split at present
    case isTrue =>
      obtain rfl := Option.some.inj present
      exact ⟨_, (running _).trans (if_pos rfl), device⟩
    case isFalse =>
      obtain ⟨before, runs, on⟩ := linked.started number session present
      have bound := linked.consistent.session_le _ before runs
      refine ⟨before, ?_, on⟩
      rw [running, if_neg (by omega)]
      exact runs
  case complete =>
    intro number before runs
    rw [running] at runs
    split at runs
    case isTrue same =>
      exact ⟨host.lastNumber + 1, _, (sessions _).trans (if_pos rfl), same.symm⟩
    case isFalse =>
      obtain ⟨other, session, present, same⟩ :=
        linked.complete number before runs
      have bound := linked.session_le other session present
      refine ⟨other, session, ?_, same⟩
      rw [sessions, if_neg (Nat.ne_of_lt (Nat.lt_succ_of_le bound))]
      exact present
  case claimed =>
    intro number session present
    rw [sessions] at present
    split at present
    case isTrue =>
      obtain rfl := Option.some.inj present
      exact ⟨_, claims, key, managed, claimed⟩
    case isFalse => exact linked.claimed number session present
  case apart =>
    intro first second left right found_first found_second same
    refine Table.eq_of_get?_insert
      (fun session : Session => host.key? session.adapter)
      linked.apart ?_ found_first found_second same
    intro number session present
    rw [key]
    exact alone number session present

/-- Ending a session and forgetting it. -/
theorem dismissing
    (linked : Linked manager host)
    {id : SessionId}
    {session : Session}
    {running : RunningSession}
    (found : host.sessions.get? id = some session)
    (runs : host.driver.sessions.get? session.handle.number = some running) :
    Linked manager
      { host with
        driver := (host.driver.setSignal session.shutdownEvent.number).dismissed
          session.handle.number running
        sessions := host.sessions.erase id } := by
  have kept : ∀ {other : SessionId} {entry : Session},
      (host.sessions.erase id).get? other = some entry →
        other ≠ id ∧ host.sessions.get? other = some entry :=
    fun present => Table.of_get?_erase present
  constructor
  case consistent =>
    have signalled :
        Consistent (host.driver.setSignal session.shutdownEvent.number) :=
      ⟨linked.consistent.of_same rfl rfl rfl fun _ => rfl,
        linked.consistent.quiet⟩
    exact signalled.dismissed runs
  case installed => exact linked.installed
  case proper => exact linked.proper.erase id
  case managed => exact linked.managed
  case adapter_le => exact linked.adapter_le
  case session_le =>
    intro other entry present
    exact linked.session_le other entry (kept present).2
  case opened => exact linked.opened
  case distinct => exact linked.distinct
  case named =>
    intro other number device on registered
    obtain ⟨earlier, before, name, _⟩ :=
      MemoryDriver.get?_devicesAfter registered
    rw [name]
    exact linked.named other number earlier on before
  case alike => exact linked.alike
  case started =>
    intro other entry present
    obtain ⟨differs, present⟩ := kept present
    obtain ⟨before, runs_other, on⟩ := linked.started other entry present
    refine ⟨before, (Table.get?_erase _ _ _).trans ?_, on⟩
    rw [if_neg]
    · exact runs_other
    -- One driver session would be on one device for both of them.
    intro same
    obtain ⟨_, runs', on'⟩ := linked.started id session found
    rw [same] at runs_other
    rw [runs_other] at runs'
    rw [← Option.some.inj runs'] at on'
    exact differs (linked.session_eq present found (on.trans on'.symm))
  case complete =>
    intro number before runs_number
    obtain ⟨differs, runs_number⟩ := Table.of_get?_erase runs_number
    obtain ⟨other, entry, present, same⟩ :=
      linked.complete number before runs_number
    refine ⟨other, entry, (Table.get?_erase _ _ _).trans ?_, same⟩
    rw [if_neg, present]
    rintro rfl
    rw [Option.some.inj (found.symm.trans present)] at differs
    exact differs same.symm
  case claimed =>
    intro other entry present
    exact linked.claimed other entry (kept present).2
  case apart =>
    intro first second left right found_first found_second
    exact linked.apart first second left right (kept found_first).2
      (kept found_second).2

/-- Ending a session, up to letting go of its adapter. -/
theorem ending
    (linked : Linked manager host)
    {id : SessionId}
    {session : Session}
    {adapter : Adapter}
    {running : RunningSession}
    (found : host.sessions.get? id = some session)
    (opened : host.adapters.get? session.adapter = some adapter)
    (runs : host.driver.sessions.get? session.handle.number = some running) :
    Linked manager (host.ended id session adapter running) := by
  have key : host.key? session.adapter = some (deviceKey adapter.name) := by
    simp [key?, opened]
  refine (((linked.dismissing found runs).releasing adapter.manager ?_).flagging
    session.adapter false).recounting adapter.manager (· - 1)
  intro other entry present same
  obtain ⟨differs, present⟩ := Table.of_get?_erase present
  exact differs (linked.apart other id entry session present found
    (same.trans key.symm))

/-- A name that is not claimed belongs to no session. -/
theorem unclaimed
    (linked : Linked manager host)
    {claims : Manager}
    (managed : host.managers.get? manager = some claims)
    {key : String}
    (free : key ∉ claims.running)
    (number : SessionId)
    (session : Session)
    (found : host.sessions.get? number = some session) :
    host.key? session.adapter ≠ some key := by
  intro same
  obtain ⟨other, entry, known, present, member⟩ :=
    linked.claimed number session found
  obtain rfl := Option.some.inj (managed.symm.trans present)
  obtain rfl := Option.some.inj (known.symm.trans same)
  exact free member

/-- A start keeps the links, whatever it comes to. -/
theorem starting
    (linked : Linked manager host)
    {id : AdapterId}
    {next : Host MemoryDriver}
    (started : Started host id next) : Linked manager next := by
  have flagged := linked.flagging id true
  cases started with
  | refused => exact linked
  | returned => exact flagged.flagging id false
  | undone found managed free =>
      obtain ⟨same, _⟩ := linked.opened id _ found
      rw [same] at managed ⊢
      exact ((flagged.claiming manager _).releasing manager
        (flagged.unclaimed managed free)).flagging id false
  | @launched adapter claims entry found managed free opened idle capacity
      config =>
      obtain ⟨same, _⟩ := linked.opened id _ found
      rw [same] at managed ⊢
      have found' : (host.flagged id true).adapters.get? id =
          some { adapter with sessionActive := true } :=
        (Table.get?_update _ _ _ _).trans (by rw [if_pos rfl, found]; rfl)
      have managed' : ((host.flagged id true).named manager
          (deviceKey adapter.name)).managers.get? manager =
          some { claims with
            running := claims.running ++ [deviceKey adapter.name] } :=
        (Table.get?_update _ _ _ _).trans
          ((if_pos rfl).trans (congrArg (Option.map _) managed))
      exact ((flagged.claiming manager _).launching found' opened idle managed'
        (List.mem_append_right _ (List.mem_singleton_self _))
        (flagged.unclaimed managed free) capacity config).recounting manager _

end Linked
end Host
end VirtualAdapter

import Mathlib.Data.List.Induction
import VirtualAdapter.Proofs.Memory.Requests

/-!
# Sessions of devices that are gone

Closing the handle that created a device removes the device, while other
handles of it stay open.  A session that is started on one of these runs, but
no device registers it: such a session is astray.  All other sessions run on a
registered device that names them.
-/

namespace VirtualAdapter
namespace Memory
namespace MemoryDriver

/-- A request starts a session on an open handle whose device is gone. -/
def StartsAstray
    (driver : MemoryDriver)
    (request : Request)
    (number : Nat) : Prop :=
  ∃ handle capacity entry,
    request = .startSession handle capacity ∧
    driver.adapters.get? handle.number = some entry ∧
    driver.devices.get? entry.device = none ∧
    (startSession handle capacity driver).value = .ok ⟨number⟩

/-- One of the requests to a driver starts a session on an open handle whose
device is gone. -/
def StartedAstray
    (driver : MemoryDriver)
    (requests : List Request)
    (number : Nat) : Prop :=
  ∃ earlier request later, requests = earlier ++ request :: later ∧
    StartsAstray (driver.serveAll earlier) request number

variable {driver : MemoryDriver}

theorem not_startedAstray_nil (number : Nat) :
    ¬ StartedAstray driver [] number := by
  rintro ⟨earlier, request, later, equal, _⟩
  simp at equal

/-- Something is true of one item of a list and those before it: of the last item
or of one before it. -/
theorem exists_split_concat
    {Item : Type}
    {holds : List Item → Item → Prop}
    (items : List Item)
    (last : Item) :
    (∃ earlier item later, items ++ [last] = earlier ++ item :: later ∧
        holds earlier item) ↔
      (∃ earlier item later, items = earlier ++ item :: later ∧
        holds earlier item) ∨ holds items last := by
  constructor
  · rintro ⟨earlier, other, later, equal, true_of⟩
    induction later using List.reverseRecOn with
    | nil =>
        obtain ⟨rfl, same⟩ := List.append_inj' equal rfl
        obtain rfl := (List.singleton_inj.mp same).symm
        exact .inr true_of
    | append_singleton later final _ =>
        rw [← List.cons_append, ← List.append_assoc] at equal
        obtain ⟨rfl, _⟩ := List.append_inj' equal rfl
        exact .inl ⟨earlier, other, later, rfl, true_of⟩
  · rintro (⟨earlier, other, later, rfl, true_of⟩ | true_of)
    · exact ⟨earlier, other, later ++ [last], by simp, true_of⟩
    · exact ⟨items, last, [], rfl, true_of⟩

/-- A session was started astray by the last request or by one before it. -/
theorem startedAstray_concat
    (requests : List Request)
    (request : Request)
    (number : Nat) :
    StartedAstray driver (requests ++ [request]) number ↔
      StartedAstray driver requests number ∨
        StartsAstray (driver.serveAll requests) request number :=
  exists_split_concat requests request

/-! ## Numbers -/

/-- A start that succeeds gives out the next number. -/
theorem StartsAstray.number_eq
    {request : Request}
    {number : Nat}
    (starts : StartsAstray driver request number) :
    number = driver.lastNumber + 1 ∧
      (driver.serve request).lastNumber = driver.lastNumber + 1 := by
  obtain ⟨handle, capacity, entry, rfl, _, _, granted⟩ := starts
  rcases startSession_cases driver handle capacity with
    ⟨error, refused, _⟩ | ⟨other, _, _, value, state⟩
  · rw [refused] at granted
    cases granted
  · rw [value] at granted
    refine ⟨(congrArg SessionHandle.number (Except.ok.inj granted)).symm, ?_⟩
    exact congrArg MemoryDriver.lastNumber state

/-- Sessions that were started astray have been given numbers. -/
theorem StartedAstray.number_le
    {requests : List Request}
    {number : Nat}
    (started : StartedAstray driver requests number) :
    number ≤ (driver.serveAll requests).lastNumber := by
  induction requests using List.reverseRecOn with
  | nil => exact absurd started (not_startedAstray_nil number)
  | append_singleton requests request hypothesis =>
      rw [serveAll_concat]
      rcases (startedAstray_concat requests request number).mp started with
        earlier | last
      · exact (hypothesis earlier).trans (lastNumber_le_serve request)
      · obtain ⟨same, given⟩ := last.number_eq
        exact (same.trans given.symm).le

/-! ## What every request keeps -/

/-- Devices, handles and sessions agree, and the driver is in the system while
a device is registered. -/
structure Orderly (driver : MemoryDriver) : Prop extends Agreed driver where
  /-- The driver is not removed under a device. -/
  installed : ∀ number device, driver.devices.get? number = some device →
    driver.installed = true

namespace Orderly

theorem of_alike
    {next : MemoryDriver}
    (orderly : Orderly driver)
    (alike : Alike driver next) : Orderly next where
  toAgreed := orderly.of_same alike.devices alike.adapters alike.lastNumber
    fun _ => by rw [alike.sessions]
  installed := by
    rw [alike.devices, alike.installed]
    exact orderly.installed

/-- Every request keeps devices, handles and sessions in order. -/
theorem serve (orderly : Orderly driver) (request : Request) :
    Orderly (driver.serve request) := by
  have served := driver.served request
  generalize driver.serve request = next at served
  cases served with
  | noted _ alike => exact orderly.of_alike alike
  | created name _ guid =>
      exact ⟨(orderly.toAgreed.register name guid).noteCall _, fun _ _ _ => rfl⟩
  | @opened name device found =>
      obtain ⟨target, registered, _⟩ := orderly.exists_of_deviceNamed? found
      refine ⟨orderly.reopened name (orderly.device_le device target registered),
        fun number _ present => ?_⟩
      obtain ⟨earlier, before, _⟩ := get?_devices_reopened present
      exact orderly.installed number earlier before
  | closed found =>
      refine ⟨orderly.toAgreed.closed _ _, fun number _ present => ?_⟩
      obtain ⟨earlier, before, _⟩ := get?_devicesWithout present
      exact orderly.installed number earlier before
  | deleted _ devices alike =>
      have deleted : Orderly { driver with installed := false } := by
        refine ⟨orderly.of_same rfl rfl rfl fun _ => rfl,
          fun number device present => ?_⟩
        change driver.devices.get? number = _ at present
        rw [Table.get?_eq_none_of_isEmpty devices] at present
        cases present
      exact deleted.of_alike alike
  | @started _ capacity _ _ found idle =>
      refine ⟨(orderly.toAgreed.launch (orderly.handle_le _ _ found).2 idle
        capacity).noteCall _, fun number _ present => ?_⟩
      obtain ⟨earlier, before, _⟩ := get?_devices_launch capacity present
      exact orderly.installed number earlier before
  | ended found alike =>
      refine of_alike ⟨orderly.dismissed found, fun number _ present => ?_⟩ alike
      obtain ⟨earlier, before, _⟩ := get?_devicesAfter present
      exact orderly.installed number earlier before
  | emptied =>
      exact ⟨orderly.of_same rfl rfl rfl fun _ => rfl, orderly.installed⟩
  | @turned _ number entry changed _ found turned =>
      refine ⟨orderly.of_same rfl rfl rfl fun other => ?_, orderly.installed⟩
      change ((driver.sessions.insert number changed).get? other).map _ = _
      rw [Table.get?_insert]
      split
      case isTrue same => rw [same, found, Option.map_some, turned.device_eq]; rfl
      case isFalse => rfl
  | signalled =>
      exact ⟨orderly.of_same rfl rfl rfl fun _ => rfl, orderly.installed⟩

theorem serveAll
    (orderly : Orderly driver)
    (requests : List Request) : Orderly (driver.serveAll requests) :=
  serveAll_keeps (fun _ => Orderly.serve) orderly requests

/-- While a session runs, its device stays registered, and no device comes to
be registered under its number. -/
theorem get?_devices_serve_eq_none_iff
    (orderly : Orderly driver)
    {request : Request}
    {number : Nat}
    {running : RunningSession}
    (found : driver.sessions.get? number = some running)
    (runs : (driver.serve request).sessions.get? number ≠ none) :
    (driver.serve request).devices.get? running.device = none ↔
      driver.devices.get? running.device = none := by
  have served := driver.served request
  generalize driver.serve request = next at served runs
  cases served with
  | noted _ alike => rw [alike.devices]
  | created name _ guid =>
      have known := (orderly.session_le number running found).2
      change (driver.devices.insert (driver.lastNumber + 1) _).get? _ = _ ↔ _
      rw [Table.get?_insert, if_neg (by omega)]
  | @opened name device =>
      change (driver.devices.update device _).get? _ = _ ↔ _
      rw [Table.get?_update]
      split
      case isTrue same => rw [same, Option.map_eq_none_iff]
      case isFalse => rfl
  | @closed handle entry =>
      change (driver.devicesWithout entry).get? _ = _ ↔ _
      unfold devicesWithout
      split
      case h_1 => rfl
      case h_2 device registered =>
        split
        case isTrue removed =>
          rw [Table.get?_erase]
          split
          case isTrue same =>
            -- A device is not removed under its session.
            have owned := orderly.owned number running device found
              (same ▸ registered)
            simp [owned] at removed
          case isFalse => rfl
        case isFalse =>
          rw [Table.get?_insert]
          split
          case isTrue same => simp [same, registered]
          case isFalse => rfl
  | deleted _ _ alike => rw [alike.devices]
  | @started handle capacity entry =>
      change (driver.devices.update entry.device _).get? _ = _ ↔ _
      rw [Table.get?_update]
      split
      case isTrue same => rw [same, Option.map_eq_none_iff]
      case isFalse => rfl
  | @ended handle entry next known alike =>
      rw [alike.devices]
      rw [alike.sessions] at runs
      change (driver.devicesAfter entry).get? _ = _ ↔ _
      unfold devicesAfter
      split
      case h_1 => rfl
      case h_2 device registered =>
        split
        case isTrue =>
          rw [Table.get?_erase]
          split
          case isTrue same =>
            -- Both sessions would be the one that the device names.
            have owned := orderly.owned number running device found
              (same ▸ registered)
            have ended := orderly.owned handle.number entry device known
              registered
            have equal := Option.some.inj (owned.symm.trans ended)
            exact absurd ((Table.get?_erase _ _ _).trans (if_pos equal)) runs
          case isFalse => rfl
        case isFalse =>
          rw [Table.get?_insert]
          split
          case isTrue same => simp [same, registered]
          case isFalse => rfl
  | emptied | turned | signalled => rfl

end Orderly

theorem orderly_fresh (version : DriverVersion) (slotBudget : Option Nat) :
    Orderly (fresh version slotBudget) :=
  ⟨agreed_new version slotBudget none, fun _ _ present => by simp [fresh] at present⟩

/-! ## Whole runs -/

/-- After any requests to a new driver, the device of a running session is gone
exactly if the session was started astray. -/
theorem get?_device_eq_none_iff
    (version : DriverVersion)
    (slotBudget : Option Nat)
    (requests : List Request)
    {number : Nat}
    {running : RunningSession}
    (found : ((fresh version slotBudget).serveAll requests).sessions.get?
      number = some running) :
    ((fresh version slotBudget).serveAll requests).devices.get?
        running.device = none ↔
      StartedAstray (fresh version slotBudget) requests number := by
  induction requests using List.reverseRecOn generalizing running with
  | nil => simp [serveAll, fresh] at found
  | append_singleton requests request hypothesis =>
      have orderly := (orderly_fresh version slotBudget).serveAll requests
      rw [startedAstray_concat]
      rw [serveAll_concat] at found ⊢
      rcases session_serve_cases found with
        ⟨before, known, device, _⟩ |
        ⟨handle, capacity, entry, rfl, opened, granted, started, rfl, device, _⟩
      · -- The session ran before: the request neither starts it nor takes its
        -- device.
        have older : ¬ StartsAstray ((fresh version slotBudget).serveAll
            requests) request number := fun starts => by
          have bound := (orderly.session_le number before known).1
          have := starts.number_eq.1
          omega
        rw [or_iff_left older, ← hypothesis known, ← device]
        exact orderly.get?_devices_serve_eq_none_iff known (by simp [found])
      · -- The request starts the session: its number is new.
        have newer : ¬ StartedAstray (fresh version slotBudget) requests _ :=
          fun started => absurd started.number_le (Nat.not_succ_le_self _)
        rw [or_iff_right newer, started, device]
        change (Table.update _ entry.device _).get? entry.device = none ↔ _
        rw [Table.get?_update, if_pos rfl, Option.map_eq_none_iff]
        constructor
        · intro gone
          exact ⟨handle, capacity, entry, rfl, opened, gone, granted⟩
        · rintro ⟨_, _, other, same, found, gone, _⟩
          obtain ⟨rfl, rfl⟩ := Request.startSession.inj same
          obtain rfl := Option.some.inj (opened.symm.trans found)
          exact gone

/-- On an open handle whose device is gone, a session is started like on one
whose device is idle. -/
theorem startSession_of_gone
    {handle : AdapterHandle}
    {entry : OpenHandle}
    (found : driver.adapters.get? handle.number = some entry)
    (gone : driver.devices.get? entry.device = none)
    (capacity : UInt32) :
    (startSession handle capacity driver).value =
        .ok ⟨driver.lastNumber + 1⟩ ↔
      CapacityBounds.inMemory.validate capacity = .ok capacity ∧
        driver.fitsBudget (2 * capacity.toNat) = true := by
  have idle : driver.isBusy entry.device = false := by simp [isBusy, gone]
  unfold startSession
  split
  case h_1 error invalid => simp [invalid, refuse]
  case h_2 granted valid =>
    obtain rfl := eq_of_validate valid
    simp only [found, idle, Bool.false_eq_true, if_false, valid, true_and]
    split
    case isTrue full =>
      rw [Bool.not_eq_true'] at full
      simp [refuse, full]
    case isFalse fits =>
      rw [Bool.not_eq_true, Bool.not_eq_false'] at fits
      exact ⟨fun _ => fits, fun _ => rfl⟩

/-- After any requests to a new driver, a running session belongs to a
registered device that names it, unless it was started on an open handle whose
device was gone.  While one that was not so started runs, the driver is in the
system, and no other session runs on its device.  A handle whose device is gone
takes any number of sessions, as far as the budget goes. -/
theorem belongs_iff_not_startedAstray
    (version : DriverVersion)
    (slotBudget : Option Nat)
    (requests : List Request) :
    let driver := (fresh version slotBudget).serveAll requests
    let astray := StartedAstray (fresh version slotBudget) requests
    (∀ number running, driver.sessions.get? number = some running →
      ((∃ device, driver.devices.get? running.device = some device ∧
        device.session = some number) ↔ ¬ astray number) ∧
      (¬ astray number → driver.installed = true ∧
        ∀ other beside, driver.sessions.get? other = some beside →
          beside.device = running.device → other = number)) ∧
    (∀ handle capacity entry,
      driver.adapters.get? handle.number = some entry →
      driver.devices.get? entry.device = none →
        ((startSession handle capacity driver).value =
            .ok ⟨driver.lastNumber + 1⟩ ↔
          CapacityBounds.inMemory.validate capacity = .ok capacity ∧
            driver.fitsBudget (2 * capacity.toNat) = true)) := by
  intro driver astray
  have orderly : Orderly driver :=
    (orderly_fresh version slotBudget).serveAll requests
  refine ⟨fun number running found => ?_, fun handle capacity entry opened gone =>
    startSession_of_gone opened gone capacity⟩
  have gone_iff : driver.devices.get? running.device = none ↔ astray number :=
    get?_device_eq_none_iff version slotBudget requests found
  refine ⟨?_, fun kept => ?_⟩
  · rw [← gone_iff]
    constructor
    · rintro ⟨device, registered, _⟩ gone
      cases registered.symm.trans gone
    · intro present
      obtain ⟨device, registered⟩ := Option.ne_none_iff_exists'.mp present
      exact ⟨device, registered, orderly.owned number running device found
        registered⟩
  · rw [← gone_iff] at kept
    obtain ⟨device, registered⟩ := Option.ne_none_iff_exists'.mp kept
    refine ⟨orderly.installed _ device registered,
      fun other beside known same => ?_⟩
    have first := orderly.owned number running device found registered
    have second := orderly.owned other beside device known (same ▸ registered)
    exact Option.some.inj (second.symm.trans first)

/-- A device is opened twice and closed by its creator, and the driver is
removed; the handle that is left takes a session that belongs to no device. -/
theorem belongs_iff_not_startedAstray_of_reopened :
    let requests : List Request :=
      [.createAdapter "x" "t" none, .openAdapter "x", .closeAdapter ⟨2⟩,
        .deleteDriver, .startSession ⟨3⟩ 4]
    let driver := (fresh defaultVersion none).serveAll requests
    ∃ running, driver.sessions.get? 4 = some running ∧
      driver.devices.get? running.device = none ∧ driver.installed = false ∧
      StartedAstray (fresh defaultVersion none) requests 4 := by
  intro requests driver
  have shown : (driver.sessions.get? 4).map (·.device) = some 1 := by
    decide +kernel
  obtain ⟨running, found, device⟩ := Option.map_eq_some_iff.mp shown
  have gone : driver.devices.get? running.device = none := by
    rw [device, ← Option.isNone_iff_eq_none]
    decide +kernel
  obtain ⟨belongs, _⟩ :=
    (belongs_iff_not_startedAstray defaultVersion none requests).1 4 running found
  refine ⟨running, found, gone, by decide +kernel, ?_⟩
  by_contra kept
  obtain ⟨device, registered, _⟩ := belongs.mpr kept
  cases registered.symm.trans gone

end MemoryDriver
end Memory
end VirtualAdapter

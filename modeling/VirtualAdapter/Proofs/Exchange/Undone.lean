import VirtualAdapter.Faulty
import VirtualAdapter.Proofs.DriverVersion
import VirtualAdapter.Proofs.Exchange.Dependability
import VirtualAdapter.Proofs.Exchange.Starts
import VirtualAdapter.Proofs.Host.Openings
import VirtualAdapter.Proofs.Memory.Withdrawals

/-!
# Calls that fail leave no trace

Wherever a run over the in-memory driver has come to, creating or opening an
adapter or starting a session either succeeds or changes nothing that is
counted, held, registered, open or running, whatever else is alive.
-/

namespace VirtualAdapter
namespace Host

open Ledger
open Memory (MemoryDriver Request)
open Memory.MemoryDriver (Registry TakesBack Unaltered)

/-- The managers have counted and claimed the same, the adapters have the same
flags, the same sessions and packets are held, and the driver keeps the same. -/
structure Unchanged (before after : Host (Recorded MemoryDriver)) : Prop where
  /-- Managers keep their counts and the names that are claimed. -/
  managers : after.managers = before.managers
  /-- Adapters keep their flags. -/
  adapters : after.adapters = before.adapters
  /-- The same sessions are held. -/
  sessions : after.sessions = before.sessions
  /-- The same packets are held. -/
  packets : after.packets = before.packets
  /-- The driver keeps what is registered, open and running. -/
  driver : Unaltered before.driver.driver after.driver.driver

theorem Unchanged.of_driver
    {host : Host (Recorded MemoryDriver)}
    {driver : Recorded MemoryDriver}
    (unaltered : Unaltered host.driver.driver driver.driver)
    (lastNumber : Nat) :
    Unchanged host { host with driver, lastNumber } :=
  ⟨rfl, rfl, rfl, rfl, unaltered⟩

variable {host : Host (Recorded MemoryDriver)}

/-! ## Adapters -/

/-- After every run the next number is free, whatever became of the adapters
and sessions before. -/
theorem Books.nextFree
    {hands : Hands}
    (books : Books hands none (holdings host)) : host.NextFree := by
  have adapter_le (id : AdapterId) (adapter : Adapter)
      (found : host.adapters.get? id = some adapter) :
      id ≤ host.lastNumber := by
    refine books.adapter_le id adapter.core ?_
    rw [holdings, Table.get?_map, found]
    rfl
  refine ⟨Holdings.absent_of_le adapter_le, ?_⟩
  rw [isUsed, List.any_eq_false]
  intro session listed
  have proper : host.sessions.IsProper :=
    (Table.isProper_map_iff _ _).mp books.sessions_proper
  obtain ⟨id, found⟩ := proper.mem_values_iff.mp listed
  have kept : (holdings host).sessions.get? id = some session.core := by
    rw [holdings, Table.get?_map, found]
    rfl
  obtain ⟨adapter, based, _⟩ := books.based id _ kept
  have given : session.adapter ≤ host.lastNumber :=
    books.adapter_le _ adapter based
  rw [decide_eq_true_eq]
  exact Nat.ne_of_lt (Nat.lt_succ_of_le given)

variable
  {call : Action MemoryDriver (Outcome AdapterHandle)}
  {id : ManagerId}
  {next : Host (Recorded MemoryDriver)}

/-- An adapter that is not handed out leaves no trace: the driver has opened
nothing, or the adapter was closed again. -/
theorem unchanged_of_obtained
    (free : host.NextFree)
    (takesBack : TakesBack host.driver.driver call)
    {failure : Failure}
    (obtained : Obtained host id (Recorded.write .opened call)
      (.error failure) next) : Unchanged host next := by
  cases obtained with
  | declined error => exact .of_driver (.refl _) host.lastNumber
  | refused unopened =>
      have same : (call host.driver.driver).state = host.driver.driver :=
        takesBack.refused _ unopened
      refine .of_driver ?_ host.lastNumber
      exact same.symm ▸ Unaltered.refl host.driver.driver
  | @withdrawn handle _ _ opened undone =>
      rw [undone free]
      refine .of_driver ?_ (host.lastNumber + 1)
      have asked := MemoryDriver.state_runningVersion
        (call host.driver.driver).state
      have closed := takesBack.opened handle opened
      rw [← asked] at closed
      exact closed

/-- An adapter that is handed out is run by a driver that is new enough. -/
theorem atMost_of_obtained
    (takesBack : TakesBack host.driver.driver call)
    {adapter : AdapterId}
    (obtained : Obtained host id (Recorded.write .opened call)
      (.ok adapter) next) :
    ∃ entry, host.managers.get? id = some entry ∧
      ∀ required, entry.minVersion = some required →
        required.AtMost host.driver.driver.version := by
  cases obtained with
  | @kept handle manager _ managed opened accepts =>
      refine ⟨manager, managed, fun required asked => ?_⟩
      obtain ⟨running, answered, newer⟩ := accepts required asked
      have reported : (MemoryDriver.runningVersion
          (call host.driver.driver).state).value = .ok running := answered
      have same : running = host.driver.driver.version := by
        unfold MemoryDriver.runningVersion at reported
        split at reported
        case isTrue =>
          exact (Except.ok.inj reported).symm.trans takesBack.version
        case isFalse => cases reported
      rw [← same]
      exact (DriverVersion.isOlder_eq_false_iff running required).mp newer

/-! ## Sessions -/

/-- The in-memory driver gives a session that it starts both events, so that a
bargain that fails has started none. -/
theorem driver_bargain
    {driver : Recorded MemoryDriver}
    {adapter : AdapterHandle}
    {capacity : UInt32}
    {failure : Failure}
    (failed : (bargain adapter capacity driver).value = .error failure) :
    ∃ error, failure = .refused error ∧
      (bargain adapter capacity driver).state.driver = driver.driver := by
  have starts : (Driver.startSession adapter capacity driver).value =
      (MemoryDriver.startSession adapter capacity driver.driver).value := rfl
  rcases MemoryDriver.startSession_cases driver.driver adapter capacity with
    ⟨error, value, state⟩ | ⟨entry, _, _, value, state⟩
  · rw [value] at starts
    have untouched :
        (Driver.startSession adapter capacity driver).state.driver =
          driver.driver := state
    refine ⟨error, ?_, ?_⟩
    · simpa [bargain, starts, eq_comm] using failed
    · simpa [bargain, starts] using untouched
  · rw [value] at starts
    have asks : (Driver.readWaitEvent ⟨driver.driver.lastNumber + 1⟩
        (Driver.startSession adapter capacity driver).state).value =
          .ok ⟨driver.driver.signals.nextSignal⟩ := by
      show (MemoryDriver.readWaitEvent _ (MemoryDriver.startSession adapter
        capacity driver.driver).state).value = _
      rw [state, MemoryDriver.readWaitEvent_started]
    have makes (driver : Recorded MemoryDriver) :
        (Driver.newEvent driver).value =
          .ok ⟨driver.driver.signals.nextSignal⟩ := rfl
    simp [bargain, obtainEvents, obtainShutdown, starts, asks, makes] at failed

/-- A start that fails leaves no trace. -/
theorem unchanged_startSession
    {id : AdapterId}
    {config : SessionConfig}
    {failure : Failure}
    (failed : (startSession id config host).value = .error failure) :
    Unchanged host (startSession id config host).state := by
  rcases startSession_cases host id config with
    ⟨error, value, state⟩ | ⟨adapter, capacity, _, _, same⟩
  · rw [state]
    exact .of_driver (.refl _) host.lastNumber
  · have value : (startSession id config host).value = _ :=
      congrArg Prod.fst same
    have state : (startSession id config host).state = _ :=
      congrArg Prod.snd same
    rw [state]
    rw [value] at failed
    unfold Start.settled at failed ⊢
    cases outcome : (bargain adapter.handle capacity host.driver).value with
    | ok means =>
        rw [outcome] at failed
        cases failed
    | error failure =>
        obtain ⟨error, rfl, untouched⟩ := driver_bargain outcome
        exact .of_driver (untouched.symm ▸ .refl _) host.lastNumber

/-- What was written down before a start stays. -/
theorem log_startSession_prefix
    {State : Type}
    [Driver State]
    (host : Host (Recorded State))
    (id : AdapterId)
    (config : SessionConfig) :
    host.driver.log <+: (startSession id config host).state.driver.log :=
  (startSession_leads Hands.orderly_empty id config).grows host

/-- A start that was refused a call of any driver has ended each session that it
has started, and whatever the driver is then, the next start calls it again. -/
theorem startSession_undone
    {State : Type}
    [Driver State]
    {host : Host (Recorded State)}
    {id : AdapterId}
    {config : SessionConfig}
    {exchanges : List Exchange}
    (log : (startSession id config host).state.driver.log =
      host.driver.log ++ exchanges)
    {exchange : Exchange}
    (member : exchange ∈ exchanges)
    {error : Error}
    (refused : exchange.refusal? = some error) :
    let reply := startSession id config host
    let last := reply.state
    reply.value = refuse error ∧
      Ledger.ended exchanges = Ledger.begun exchanges ∧
      (Ledger.begun exchanges).length ≤ 1 ∧
      last = { host with driver := last.driver } ∧
      ∀ later capacity,
        Start.capacity? (Driver.capacityBounds last.driver) later =
          .ok capacity →
        ∃ adapter outcome rest, host.adapters.get? id = some adapter ∧
          (startSession id later last).state.driver.log =
            last.driver.log ++ .started adapter.handle outcome :: rest := by
  intro reply last
  obtain ⟨value, ends, single, adapter, driver, free, state⟩ :=
    startSession_of_refusal log member refused
  have same : last = { host with driver } := state
  refine ⟨value, ends, single, by rw [same], fun later capacity asked => ?_⟩
  have still : last.IsFree id adapter := same ▸ free.changeDriver driver
  obtain ⟨outcome, rest, calls⟩ := log_startSession_of_free still asked
  exact ⟨adapter, outcome, rest, free.found, calls⟩

/-! ## Every call that fails -/

/-- Over every run of the in-memory driver, with several managers, with other
adapters, sessions and packets alive, with sessions being started and ended, and
with any requests from elsewhere: creating or opening an adapter or starting a
session, whenever it fails, leaves everything that is counted, held, registered,
open or running as it was, and an adapter is handed out only if the driver's
version is at least what the manager requires.  Versions are in the order of the
words that stand for them.  Over any driver, a start that is refused one of its
calls has ended the session that it has started, exactly once, and does not keep
the adapter from being started again. -/
theorem failed_calls_leave_no_trace
    (version : DriverVersion)
    (slotBudget : Option Nat)
    (calls : List (Call MemoryDriver))
    (spare : ∀ call ∈ calls, call.Spares []) :
    let host := ((Scene.ofDriver (.fresh version slotBudget)).playAll calls).host
    (∀ manager config failure,
      (createAdapter manager config host).value = .error failure →
        Unchanged host (createAdapter manager config host).state) ∧
    (∀ manager name failure,
      (openAdapter manager name host).value = .error failure →
        Unchanged host (openAdapter manager name host).state) ∧
    (∀ adapter config failure,
      (startSession adapter config host).value = .error failure →
        Unchanged host (startSession adapter config host).state) ∧
    (∀ manager adapter,
      (∃ config, (createAdapter manager config host).value = .ok adapter) ∨
          (∃ name, (openAdapter manager name host).value = .ok adapter) →
        ∃ entry, host.managers.get? manager = some entry ∧
          ∀ required, entry.minVersion = some required →
            required.AtMost host.driver.driver.version) ∧
    (∀ left right : DriverVersion,
      left.AtMost right ↔ left.raw ≤ right.raw) ∧
    ∀ (State : Type) [Driver State] (host : Host (Recorded State))
      (id : AdapterId) (config : SessionConfig) (exchanges : List Exchange),
      (startSession id config host).state.driver.log =
        host.driver.log ++ exchanges →
      ∀ exchange ∈ exchanges, ∀ error, exchange.refusal? = some error →
        let last := (startSession id config host).state
        (startSession id config host).value = refuse error ∧
          Ledger.ended exchanges = Ledger.begun exchanges ∧
          (Ledger.begun exchanges).length ≤ 1 ∧
          last = { host with driver := last.driver } ∧
          ∀ later capacity,
            Start.capacity? (Driver.capacityBounds last.driver) later =
              .ok capacity →
            ∃ adapter outcome rest, host.adapters.get? id = some adapter ∧
              (startSession id later last).state.driver.log =
                last.driver.log ++ .started adapter.handle outcome :: rest := by
  intro host
  have free : host.NextFree :=
    (Scene.books_playAll version slotBudget spare).nextFree
  have registry : Registry host.driver.driver := by
    obtain ⟨requests, served⟩ :=
      (Scene.trusty_playAll version slotBudget spare).served
    rw [served]
    exact (MemoryDriver.registry_fresh version slotBudget).serveAll requests
  have creates (manager : ManagerId) (config : AdapterConfig) :
      Obtained host manager
        (Recorded.write .opened (MemoryDriver.createAdapter config.name
          config.tunnelType config.guid))
        (createAdapter manager config host).value
        (createAdapter manager config host).state := by
    rw [createAdapter_eq]
    exact obtained host manager config.validate "created adapter" config.name _
  have opens (manager : ManagerId) (name : String) :
      Obtained host manager
        (Recorded.write .opened (MemoryDriver.openAdapter name))
        (openAdapter manager name host).value
        (openAdapter manager name host).state := by
    rw [openAdapter_eq]
    exact obtained host manager (validatePoolString "adapter name" name)
      "opened adapter" name _
  refine ⟨fun manager config failure failed => ?_,
    fun manager name failure failed => ?_,
    fun _ _ _ => unchanged_startSession, ?_,
    fun left right => (DriverVersion.raw_le_raw_iff left right).symm,
    fun _ _ _ _ _ _ log _ member _ refused =>
      startSession_undone log member refused⟩
  · exact unchanged_of_obtained free
      (MemoryDriver.takesBack_createAdapter registry _ _ _)
      (failed ▸ creates manager config)
  · exact unchanged_of_obtained free
      (MemoryDriver.takesBack_openAdapter registry name)
      (failed ▸ opens manager name)
  · rintro manager adapter (⟨config, given⟩ | ⟨name, given⟩)
    · exact atMost_of_obtained
        (MemoryDriver.takesBack_createAdapter registry _ _ _)
        (given ▸ creates manager config)
    · exact atMost_of_obtained
        (MemoryDriver.takesBack_openAdapter registry name)
        (given ▸ opens manager name)

/-- A session runs on one of two adapters.  A name that is taken, a driver that
is too old for a second manager, a session that is in the way and a budget that
is too small each leave no trace; over a driver with a fault, neither does an
event that is refused. -/
theorem failed_calls_leave_no_trace_of_running_session :
    let config : SessionConfig := { ringCapacity := some 4 }
    let large : SessionConfig := { ringCapacity := some 8 }
    let calls : List (Call MemoryDriver) :=
      [.perform (.newManager {}),
        .perform (.newManager { minVersion := some ⟨0, 15⟩ }),
        .perform (.createAdapter 1 { name := "a" }),
        .perform (.createAdapter 1 { name := "b" }),
        .perform (.startSession 3 config),
        .perform (.elsewhere (·.serve (.inject "a" [1, 2, 3])) 0)]
    let host :=
      ((Scene.ofDriver (.fresh ⟨0, 14⟩ (some 16))).playAll calls).host
    let faulty : Faulty MemoryDriver :=
      (Faulty.plant .newEvent ⟨0, 1, .refused .interrupted⟩
        ⟨{}, ∅, none⟩).state
    let other := ((Scene.ofDriver faulty).playAll
      [.perform (.newManager {}),
        .perform (.createAdapter 1 { name := "a" })]).host
    let last := (startSession 2 config other).state
    Unchanged host (createAdapter 1 { name := "A" } host).state ∧
      Unchanged host (openAdapter 2 "a" host).state ∧
      Unchanged host (startSession 3 config host).state ∧
      Unchanged host (startSession 4 large host).state ∧
      (openAdapter 2 "a" host).value = refuse
        (.driver "driver version 0.14 is older than required 0.15") ∧
      (startSession 3 config host).value = refuse .sessionBusy ∧
      (startSession 4 large host).value =
        refuse (.resourceExhausted "ring memory") ∧
      (startSession 2 config other).value = refuse .interrupted ∧
      last = { other with driver := last.driver } ∧
      Ledger.ended last.driver.log = [⟨3⟩] ∧
      Ledger.begun last.driver.log = [⟨3⟩] ∧
      (startSession 2 config last).value = .ok 3 := by
  intro config large calls host faulty other last
  have spare : ∀ call ∈ calls, call.Spares [] := by
    simp only [calls, List.forall_mem_cons]
    exact ⟨trivial, trivial, trivial, trivial, trivial,
      ⟨.inject "a" [1, 2, 3], nofun, rfl⟩, List.forall_mem_nil _⟩
  obtain ⟨creates, opens, starts, _, _, undoes⟩ :=
    failed_calls_leave_no_trace ⟨0, 14⟩ (some 16) calls spare
  obtain ⟨exchanges, log⟩ := log_startSession_prefix other 2 config
  have refusals : ((startSession 2 config other).state.driver.log.drop
      other.driver.log.length).filterMap (·.refusal?) = [.interrupted] := by
    decide +kernel
  rw [← log, List.drop_left] at refusals
  obtain ⟨exchange, member, refused⟩ : ∃ exchange ∈ exchanges,
      exchange.refusal? = some .interrupted :=
    List.mem_filterMap.mp (refusals ▸ List.mem_singleton_self _)
  obtain ⟨value, _, _, still, _⟩ := undoes (Faulty MemoryDriver) other 2 config
    exchanges log.symm exchange member .interrupted refused
  have old : (openAdapter 2 "a" host).value = refuse
      (.driver "driver version 0.14 is older than required 0.15") := by
    decide +kernel
  have busy : (startSession 3 config host).value = refuse .sessionBusy := by
    decide +kernel
  have full : (startSession 4 large host).value =
      refuse (.resourceExhausted "ring memory") := by decide +kernel
  have taken : (createAdapter 1 { name := "A" } host).value =
      refuse (.driver "adapter A already exists") := by decide +kernel
  exact ⟨creates 1 _ _ taken, opens 2 "a" _ old, starts 3 config _ busy,
    starts 4 large _ full, old, busy, full, value, still,
    by decide +kernel, by decide +kernel, by decide +kernel⟩

end Host
end VirtualAdapter

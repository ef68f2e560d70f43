import VirtualAdapter.Proofs.Exchange.Signalled

/-!
# The in-memory driver is dependable

The in-memory driver draws the numbers of handles and sessions from one
sequence, and none of its calls breaks off.  So over every run it gives out
each handle once, and the books that are kept about it are right.
-/

namespace VirtualAdapter

namespace Exchange

/-- An opening that has opened an adapter went well. -/
theorem ok_of_opens?
    {outcome : Outcome AdapterHandle}
    {handle : AdapterHandle}
    (opens : (opened outcome).opens? = some handle) :
    outcome = .ok handle := by
  cases outcome with
  | ok given => exact congrArg Except.ok (Option.some.inj opens)
  | error failure => cases opens

/-- A start that has started a session went well. -/
theorem ok_of_starts?
    {adapter other : AdapterHandle}
    {outcome : Outcome SessionHandle}
    {handle : SessionHandle}
    (starts : (started adapter outcome).starts? = some (handle, other)) :
    outcome = .ok handle := by
  cases outcome with
  | ok given => exact congrArg (Except.ok ∘ Prod.fst) (Option.some.inj starts)
  | error failure => cases starts

end Exchange

namespace Memory
namespace MemoryDriver

/-- The number was given out on the way. -/
def IsNew (driver next : MemoryDriver) (number : Nat) : Prop :=
  driver.lastNumber < number ∧ number ≤ next.lastNumber

variable {driver : MemoryDriver}

theorem isNew_createAdapter
    {name tunnelType : String}
    {guid : Option Guid}
    {handle : AdapterHandle}
    (given : (createAdapter name tunnelType guid driver).value =
      .ok handle) :
    IsNew driver (createAdapter name tunnelType guid driver).state
      handle.number := by
  rcases createAdapter_cases driver name tunnelType guid with
    ⟨failure, refused, _⟩ | ⟨value, state⟩
  · cases refused.symm.trans given
  · cases value.symm.trans given
    rw [state]
    exact ⟨Nat.lt_add_of_pos_right Nat.two_pos, Nat.le_refl _⟩

theorem isNew_openAdapter
    {name : String}
    {handle : AdapterHandle}
    (given : (openAdapter name driver).value = .ok handle) :
    IsNew driver (openAdapter name driver).state
      handle.number := by
  rcases openAdapter_cases driver name with
    ⟨failure, refused, _⟩ | ⟨device, _, value, state⟩
  · cases refused.symm.trans given
  · cases value.symm.trans given
    rw [state]
    exact ⟨Nat.lt_succ_self _, Nat.le_refl _⟩

theorem isNew_startSession
    {adapter : AdapterHandle}
    {capacity : UInt32}
    {handle : SessionHandle}
    (given : (startSession adapter capacity driver).value =
      .ok handle) :
    IsNew driver (startSession adapter capacity driver).state
      handle.number := by
  rcases startSession_cases driver adapter capacity with
    ⟨error, refused, _⟩ | ⟨entry, _, _, value, state⟩
  · cases refused.symm.trans given
  · cases value.symm.trans given
    rw [state]
    exact ⟨Nat.lt_succ_self _, Nat.le_refl _⟩

/-- A session answers with its event or is not there. -/
theorem readWaitEvent_answers
    (driver : MemoryDriver)
    (session : SessionHandle) :
    (∃ error, (readWaitEvent session driver).value =
        refuse error) ∨
      ∃ event, (readWaitEvent session driver).value =
        .ok event := by
  unfold readWaitEvent
  cases driver.sessions.get? session.number with
  | none => exact .inl ⟨_, rfl⟩
  | some entry => exact .inr ⟨_, rfl⟩

end MemoryDriver
end Memory

namespace Host

open Ledger
open Memory (MemoryDriver Request)
open Memory.MemoryDriver (IsNew)

/-! ## Numbers -/

/-- What has a number above all that were given out can be added to them. -/
theorem numbered_append
    {Handle : Type}
    {number : Handle → Nat}
    {given : List Handle}
    {last next : Nat}
    (given_le : ∀ handle ∈ given, number handle ≤ last)
    (different : given.Nodup)
    (last_le : last ≤ next)
    {new : Option Handle}
    (isNew : ∀ handle, new = some handle →
      last < number handle ∧ number handle ≤ next) :
    (∀ handle ∈ given ++ new.toList, number handle ≤ next) ∧
      (given ++ new.toList).Nodup := by
  cases new with
  | none =>
      rw [Option.toList_none, List.append_nil]
      exact ⟨fun handle member => (given_le handle member).trans last_le,
        different⟩
  | some handle =>
      obtain ⟨above, within⟩ := isNew handle rfl
      have absent : handle ∉ given := fun member =>
        absurd (given_le handle member) (Nat.not_le.mpr above)
      refine ⟨fun other member => ?_, ?_⟩
      · obtain old | same := List.mem_append.mp member
        · exact (given_le other old).trans last_le
        · exact List.mem_singleton.mp same ▸ within
      · exact List.nodup_append.mpr ⟨different, List.nodup_singleton _,
          fun other old third same => fun equal =>
            absent (List.mem_singleton.mp same ▸ equal ▸ old)⟩

/-! ## Calls -/

/-- An in-memory driver came to where it is by requests, and what was written
down about it fits the numbers that it has given out. -/
structure Trusty
    (origin : MemoryDriver)
    (recorded : Recorded MemoryDriver) : Prop where
  /-- It has served requests only. -/
  served : ∃ requests, recorded.driver = origin.serveAll requests
  /-- The adapters that were opened have been given numbers. -/
  adapter_le : ∀ handle ∈ opened recorded.log,
    handle.number ≤ recorded.driver.lastNumber
  /-- The sessions that were started have been given numbers. -/
  session_le : ∀ handle ∈ begun recorded.log,
    handle.number ≤ recorded.driver.lastNumber
  /-- It has given out nothing twice, and no call broke off. -/
  dependable : Dependable recorded.log

namespace Trusty

variable
  {origin : MemoryDriver}
  {recorded next : Recorded MemoryDriver}

/-- A request that is not written down. -/
theorem serve
    (trusty : Trusty origin recorded)
    (request : Request)
    (driver : next.driver = recorded.driver.serve request)
    (log : next.log = recorded.log) : Trusty origin next where
  served := by
    obtain ⟨requests, served⟩ := trusty.served
    exact ⟨requests ++ [request], by
      rw [driver, served, MemoryDriver.serveAll_concat]⟩
  adapter_le := fun handle member =>
    (trusty.adapter_le handle (log ▸ member)).trans
      (driver ▸ MemoryDriver.lastNumber_le_serve request)
  session_le := fun handle member =>
    (trusty.session_le handle (log ▸ member)).trans
      (driver ▸ MemoryDriver.lastNumber_le_serve request)
  dependable := log ▸ trusty.dependable

/-- A request that is written down, and that gives out new numbers only. -/
theorem write
    (trusty : Trusty origin recorded)
    (request : Request)
    {exchange : Exchange}
    (driver : next.driver = recorded.driver.serve request)
    (log : next.log = recorded.log ++ [exchange])
    (opens : ∀ handle, exchange.opens? = some handle →
      IsNew recorded.driver next.driver handle.number)
    (starts : ∀ handle adapter, exchange.starts? = some (handle, adapter) →
      IsNew recorded.driver next.driver handle.number)
    (answers : exchange.breaksOff = false) : Trusty origin next := by
  have later : recorded.driver.lastNumber ≤ next.driver.lastNumber :=
    driver ▸ MemoryDriver.lastNumber_le_serve request
  have opened_eq : opened next.log =
      opened recorded.log ++ exchange.opens?.toList := by
    rw [log, opened_append]
    cases opens : exchange.opens? <;> simp [Ledger.opened, opens]
  have begun_eq : begun next.log =
      begun recorded.log ++ (exchange.starts?.map (·.1)).toList := by
    rw [log, begun_append]
    cases starts : exchange.starts? <;>
      simp [Ledger.begun, Ledger.started, starts]
  have adapters := numbered_append trusty.adapter_le
    trusty.dependable.adapters_fresh later opens
  have isNew : ∀ handle, exchange.starts?.map (·.1) = some handle →
      IsNew recorded.driver next.driver handle.number := by
    rintro _ same
    obtain ⟨⟨_, adapter⟩, started, rfl⟩ := Option.map_eq_some_iff.mp same
    exact starts _ adapter started
  have sessions := numbered_append trusty.session_le
    trusty.dependable.sessions_fresh later isNew
  rw [← opened_eq] at adapters
  rw [← begun_eq] at sessions
  obtain ⟨requests, served⟩ := trusty.served
  exact {
    served := ⟨requests ++ [request], by
      rw [driver, served, MemoryDriver.serveAll_concat]⟩
    adapter_le := adapters.1
    session_le := sessions.1
    dependable := {
      adapters_fresh := adapters.2
      sessions_fresh := sessions.2
      unbroken := fun other member => by
        rw [log] at member
        obtain old | same := List.mem_append.mp member
        · exact trusty.dependable.unbroken other old
        · exact List.mem_singleton.mp same ▸ answers } }

/-- Whatever the library asks of the driver is answered with numbers that are
new. -/
theorem ask
    (trusty : Trusty origin recorded)
    (asked : Asked recorded next) : Trusty origin next := by
  cases asked with
  | createAdapter name tunnelType guid =>
      exact trusty.write (.createAdapter name tunnelType guid) rfl rfl
        (fun handle opens =>
          MemoryDriver.isNew_createAdapter (Exchange.ok_of_opens? opens))
        nofun rfl
  | openAdapter name =>
      exact trusty.write (.openAdapter name) rfl rfl
        (fun handle opens =>
          MemoryDriver.isNew_openAdapter (Exchange.ok_of_opens? opens))
        nofun rfl
  | startSession adapter capacity =>
      exact trusty.write (.startSession adapter capacity) rfl rfl nofun
        (fun handle _ starts =>
          MemoryDriver.isNew_startSession (Exchange.ok_of_starts? starts)) rfl
  | closeAdapter adapter =>
      exact trusty.write (.closeAdapter adapter) rfl rfl nofun nofun rfl
  | adapterLuid adapter =>
      exact trusty.write (.adapterLuid adapter) rfl rfl nofun nofun rfl
  | runningVersion => exact trusty.serve .runningVersion rfl rfl
  | deleteDriver => exact trusty.serve .deleteDriver rfl rfl
  | setSink sink => exact trusty.serve (.setSink sink) rfl rfl
  | endSession session =>
      exact trusty.write (.endSession session) rfl rfl nofun nofun rfl
  | readWaitEvent session =>
      refine trusty.write (.readWaitEvent session) rfl rfl nofun nofun ?_
      obtain ⟨error, value⟩ | ⟨event, value⟩ :=
        MemoryDriver.readWaitEvent_answers recorded.driver session
      · exact congrArg (fun outcome =>
          (Exchange.askedEvent session outcome).breaksOff) value
      · exact congrArg (fun outcome =>
          (Exchange.askedEvent session outcome).breaksOff) value
  | receivePacket session =>
      exact trusty.write (.receivePacket session) rfl rfl nofun nofun rfl
  | releaseReceived session packet =>
      exact trusty.write (.releaseReceived session packet) rfl rfl nofun nofun
        rfl
  | allocateSend session size =>
      exact trusty.write (.allocateSend session size) rfl rfl nofun nofun rfl
  | sendPacket session packet =>
      exact trusty.write (.sendPacket session packet) rfl rfl nofun nofun rfl
  | writePacket packet start content =>
      exact trusty.write (.writePacket packet start content) rfl rfl nofun
        nofun rfl
  | newEvent => exact trusty.write .newEvent rfl rfl nofun nofun rfl
  | setEvent event =>
      exact trusty.write (.setEvent event) rfl rfl nofun nofun rfl
  | isEventSet event => exact trusty.serve (.isEventSet event) rfl rfl
  | dropEvent event => exact trusty.serve (.dropEvent event) rfl rfl
  | beginWait own cancel interrupt timeout now =>
      exact trusty.serve (.beginWait own cancel interrupt timeout now) rfl rfl
  | stepWait wait now => exact trusty.serve (.stepWait wait now) rfl rfl

end Trusty

/-! ## What every call of the driver keeps -/

section Steady

variable {State : Type} [Driver State]

namespace Steady

variable {fact : State → Prop} {host : Host State}

theorem startSteps
    (steady : Steady fact)
    (start : Start)
    (count : Nat)
    (phase : StartPhase)
    (holds : fact host.driver) :
    fact (start.steps count phase host).state.driver := by
  induction count generalizing phase host with
  | zero => exact holds
  | succ count hypothesis =>
      exact hypothesis _ (steady.startStep start phase holds)

theorem startSession
    (steady : Steady fact)
    (adapter : AdapterId)
    (config : SessionConfig)
    (holds : fact host.driver) :
    fact (startSession adapter config host).state.driver := by
  unfold Host.startSession
  rw [Action.state_bind, Action.value_inspect, Action.state_inspect]
  cases Start.capacity? (Driver.capacityBounds host.driver) config with
  | error error => exact holds
  | ok capacity =>
      have ends := steady.startSteps { adapter, config, capacity }
        Start.longest .claimingFlag holds
      simpa only [Action.state_bind, Action.state_pure] using ends

end Steady

variable {fact : Recorded State → Prop}

/-- What happens elsewhere keeps a fact about the driver. -/
def Call.Keeps (fact : Recorded State → Prop) : Call State → Prop
  | .perform (.elsewhere step _) => ∀ recorded, fact recorded →
      fact { recorded with driver := step recorded.driver }
  | _ => True

namespace Scene

theorem play_steady
    (steady : Steady fact)
    {scene : Scene State}
    {call : Call State}
    (keeps : call.Keeps fact)
    (holds : fact scene.host.driver) :
    fact (scene.play call).host.driver := by
  cases call with
  | perform operation =>
      have performed : fact (operation.action scene.host).state.driver := by
        cases operation with
        | startSession adapter config =>
            exact steady.startSession adapter config holds
        | elsewhere step moment =>
            exact keeps _ holds
        | _ => exact steady.moves (action_moves rfl) holds
      change fact (scene.perform operation).host.driver
      unfold Scene.perform
      split
      · exact performed
      · exact holds
  | beginStart adapter config =>
      change fact (scene.beginStart adapter config).host.driver
      unfold Scene.beginStart
      split
      · split <;> exact holds
      · exact holds
  | beginEnd session =>
      change fact (scene.beginEnd session).host.driver
      unfold Scene.beginEnd
      dsimp only
      split <;> exact holds
  | advance index =>
      change fact (scene.advance index).host.driver
      unfold Scene.advance
      cases scene.tasks[index]? with
      | none => exact holds
      | some task =>
          have stepped : fact (task.step scene.host).state.driver := by
            cases task with
            | starting start phase => exact steady.startStep start phase holds
            | finishing session phase =>
                exact steady.moves (finishStep_moves session phase) holds
          dsimp only
          split <;> exact stepped

/-- What every call of the driver keeps holds after every run. -/
theorem playAll_steady
    (steady : Steady fact)
    {scene : Scene State}
    {calls : List (Call State)}
    (keep : ∀ call ∈ calls, call.Keeps fact)
    (holds : fact scene.host.driver) :
    fact (scene.playAll calls).host.driver := by
  induction calls generalizing scene with
  | nil => exact holds
  | cons call rest hypothesis =>
      exact hypothesis (fun other member => keep other (.tail _ member))
        (play_steady steady (keep call (.head _)) holds)

end Scene
end Steady

/-! ## Runs over the in-memory driver -/

theorem steady_trusty (origin : MemoryDriver) : Steady (Trusty origin) :=
  fun _ _ trusty asked => trusty.ask asked

theorem trusty_fresh (version : DriverVersion) (slotBudget : Option Nat) :
    Trusty (.fresh version slotBudget)
      ⟨.fresh version slotBudget, []⟩ where
  served := ⟨[], rfl⟩
  adapter_le := nofun
  session_le := nofun
  dependable := ⟨List.nodup_nil, List.nodup_nil, List.forall_mem_nil _⟩

/-- Over every run the in-memory driver has served requests, and it is
dependable. -/
theorem Scene.trusty_playAll
    (version : DriverVersion)
    (slotBudget : Option Nat)
    {calls : List (Call MemoryDriver)}
    (spare : ∀ call ∈ calls, call.Spares []) :
    Trusty (.fresh version slotBudget)
      ((Scene.ofDriver (.fresh version slotBudget)).playAll calls).host.driver
    := by
  refine playAll_steady (steady_trusty _) (fun call member => ?_)
    (trusty_fresh version slotBudget)
  have spares := spare call member
  unfold Call.Keeps
  split
  case h_1 step moment =>
    obtain ⟨request, _, rfl⟩ := spares
    exact fun recorded trusty => trusty.serve request rfl rfl
  case h_2 => trivial

/-- So are the books. -/
theorem Scene.books_playAll
    (version : DriverVersion)
    (slotBudget : Option Nat)
    {calls : List (Call MemoryDriver)}
    (spare : ∀ call ∈ calls, call.Spares []) :
    let last := (Scene.ofDriver (.fresh version slotBudget)).playAll calls
    Books last.hands none (holdings last.host) :=
  (isRight_playAll (isRight_ofDriver _) calls).books
    (trusty_playAll version slotBudget spare).dependable

end Host
end VirtualAdapter

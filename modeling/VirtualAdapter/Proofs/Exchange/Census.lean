import VirtualAdapter.Proofs.Exchange.Operations
import VirtualAdapter.Proofs.Exchange.Starts
import VirtualAdapter.Proofs.Host.Openings
import VirtualAdapter.Faulty
import VirtualAdapter.Memory.Driver

/-!
# A manager counts what callers hold

One manager is used over any driver, and calls of the driver are refused on the
way.  After every run the manager has counted the adapters that the driver has
not closed and the sessions that are live, and it knows their names; so it
keeps the driver from being removed exactly while a session is live.
-/

namespace VirtualAdapter
namespace Host

open Ledger

variable {State : Type} [Driver State]

/-! ## Runs -/

/-- A call of the user of one manager, or a change of the driver by itself. -/
inductive ManagerCall (State : Type)
  | create (config : AdapterConfig)
  | openNamed (name : String)
  | close (adapter : AdapterId)
  | drop (adapter : AdapterId)
  | start (adapter : AdapterId) (config : SessionConfig)
  /-- End or drop a session. -/
  | finish (session : SessionId)
  | deleteDriver
  | dropManager
  | elsewhere (step : State → State)

/-- A host with what its callers hold. -/
structure Watched (State : Type) where
  /-- The host. -/
  host : Host (Recorded State)
  /-- What callers hold. -/
  roll : Roll := {}

namespace Watched

/-- A new driver with one manager. -/
def ofDriver (config : ManagerConfig) (driver : State) : Watched State :=
  { host := (newManager config { driver := ⟨driver, []⟩ }).state }

/-- What was written down about the driver. -/
def log (watched : Watched State) : List Exchange := watched.host.driver.log

/-- Carry out a call, and hold what it answers. -/
def play
    (manager : ManagerId)
    (watched : Watched State) : ManagerCall State → Watched State
  | .create config =>
      let reply := createAdapter manager config watched.host
      ⟨reply.state, watched.roll.gain config.name reply.value⟩
  | .openNamed name =>
      let reply := openAdapter manager name watched.host
      ⟨reply.state, watched.roll.gain name reply.value⟩
  | .close id => ⟨(closeAdapter id watched.host).state, watched.roll.letGo id⟩
  | .drop id => ⟨(dropAdapter id watched.host).state, watched.roll.letGo id⟩
  | .start id config =>
      let reply := startSession id config watched.host
      ⟨reply.state, watched.roll.launch id reply.value⟩
  | .finish id => ⟨(endSession id watched.host).state, watched.roll.finish id⟩
  | .deleteDriver =>
      ⟨(deleteDriver manager watched.host).state, watched.roll⟩
  | .dropManager => ⟨(dropManager manager watched.host).state, watched.roll⟩
  | .elsewhere step =>
      { watched with
        host := (changeDriver (fun recorded =>
          { recorded with driver := step recorded.driver }) watched.host).state }

/-- Carry out several calls, the first one first. -/
def playAll
    (manager : ManagerId)
    (watched : Watched State)
    (calls : List (ManagerCall State)) : Watched State :=
  calls.foldl (play manager) watched

end Watched

/-! ## Calls of the driver that are not written down -/

variable
  {manager : ManagerId}
  {entry : Manager}
  {host : Host (Recorded State)}
  {roll : Roll}

omit [Driver State] in
/-- Only what gives adapters and sessions matters. -/
theorem Fits.congr
    {loose : Option AdapterId}
    (fits : Fits manager entry loose host roll)
    {other : Roll}
    (adapters : ∀ id, other.adapters.get? id = roll.adapters.get? id)
    (sessions : other.sessions = roll.sessions) :
    Fits manager entry loose host other := by
  obtain ⟨others, _⟩ := other
  obtain ⟨own, live⟩ := roll
  cases sessions
  exact { fits with given := fun id => (adapters id).trans (fits.given id) }

/-! ## Letting go -/

theorem state_giveBackUnheld (host : Host (Recorded State)) (id : AdapterId) :
    (giveBackUnheld id host).state =
      match host.adapters.get? id with
      | none => host
      | some adapter =>
          if adapter.held || host.isUsed id then host
          else (giveBack id adapter host).state := by
  have current : (Action.current host).value = host := rfl
  have stays : (Action.current host).state = host := rfl
  unfold giveBackUnheld
  rw [Action.state_bind, current, stays]
  cases host.adapters.get? id with
  | none => rfl
  | some adapter => dsimp only; split <;> rfl

/-- A loose adapter is given back unless somebody holds it. -/
theorem Fits.giveBackUnheld
    {id : AdapterId}
    (fits : Fits manager entry (some id) host roll) :
    ∃ next, Fits manager next none (giveBackUnheld id host).state roll := by
  rw [state_giveBackUnheld]
  cases found : host.adapters.get? id with
  | none =>
      refine ⟨entry, fits.attend fun adapter present => ?_⟩
      cases found.symm.trans present
  | some adapter =>
      dsimp only
      split
      case isTrue kept =>
        refine ⟨entry, fits.attend fun present there unheld => ?_⟩
        obtain rfl := Option.some.inj (found.symm.trans there)
        rw [unheld, Bool.false_or] at kept
        exact (fits.isUsed_iff id).mp kept
      case isFalse unkept =>
        rw [Bool.or_eq_true, not_or, Bool.not_eq_true,
          fits.isUsed_iff] at unkept
        exact ⟨_, fits.remove found unkept.1 unkept.2
          (Driver.closeAdapter adapter.handle host.driver).state rfl⟩

theorem Fits.dropAdapter
    (fits : Fits manager entry none host roll)
    (id : AdapterId) :
    ∃ next, Fits manager next none (dropAdapter id host).state
      (roll.letGo id) :=
  (fits.unhold id).giveBackUnheld

/-- Closing an adapter lets go of it, whatever it answers. -/
theorem state_closeAdapter_eq (host : Host (Recorded State)) (id : AdapterId) :
    (closeAdapter id host).state = (Host.dropAdapter id host).state := by
  unfold closeAdapter
  rw [Action.state_bind, value_adapter?, state_adapter?]
  cases found : host.adapters.get? id with
  | none =>
      have same : host.adapters.update id (fun adapter =>
          { adapter with held := false }) = host.adapters := by
        rw [Table.update, found]
      rw [Host.dropAdapter, Action.state_bind, state_changeAdapter, same,
        state_giveBackUnheld, found]
      rfl
  | some adapter => cases active : adapter.sessionActive <;> simp [active]

/-! ## Opening -/

/-- An adapter is kept if the driver is new enough, and dropped otherwise. -/
theorem checkVersion_cases
    (host : Host (Recorded State))
    (required : Manager)
    (id : AdapterId) :
    ∃ driver, Quiet host.driver driver ∧
      ((checkVersion required id host).value = .ok id ∧
          (checkVersion required id host).state = { host with driver } ∨
        ∃ failure, (checkVersion required id host).value = .error failure ∧
          (checkVersion required id host).state =
            (Host.dropAdapter id { host with driver }).state) := by
  have quiet : Quiet host.driver (Driver.runningVersion host.driver).state :=
    ⟨rfl, rfl⟩
  obtain ⟨_, kept, same | asked⟩ | ⟨failure, refused, dropped⟩ :=
    checkVersion_accepts required id host
  · exact ⟨host.driver, .refl _, .inl ⟨kept, same⟩⟩
  · exact ⟨_, quiet, .inl ⟨kept, asked⟩⟩
  · exact ⟨_, quiet, .inr ⟨failure, refused, dropped⟩⟩

/-- What the driver says about an opening is kept and counted. -/
theorem Fits.receiving
    (fits : Fits manager entry none host roll)
    (required : Manager)
    (message name : String)
    (outcome : Outcome AdapterHandle)
    {driver : Recorded State}
    (log : driver.log = host.driver.log ++ [.opened outcome]) :
    let reply := receiveAdapter manager required message name outcome
      { host with driver }
    ∃ next, Fits manager next none reply.state
      (roll.gain name reply.value) := by
  intro reply
  cases outcome with
  | error failure => exact ⟨entry, fits.changeDriver (.of_append log rfl rfl)⟩
  | ok handle =>
      let id := host.lastNumber + 1
      let identified := (Driver.adapterLuid handle driver).state
      have quiet : Quiet driver identified := .of_append rfl rfl rfl
      have adopted := (fits.adopt driver log name).changeDriver quiet
      generalize kept : ({ host with
        driver := identified
        lastNumber := id
        managers := host.managers.update manager fun entry =>
          { entry with openAdapters := entry.openAdapters + 1 }
        adapters := host.adapters.insert id { manager, handle, name } } :
          Host (Recorded State)) = next at adopted
      have value : reply.value = (checkVersion required id next).value := by
        subst kept
        rfl
      have state : reply.state = (checkVersion required id next).state := by
        subst kept
        rfl
      rw [value, state]
      obtain ⟨later, still, ⟨accepted, same⟩ | ⟨failure, refused, dropped⟩⟩ :=
        checkVersion_cases next required id
      · rw [accepted, same]
        exact ⟨_, adopted.changeDriver still⟩
      · rw [refused, dropped]
        obtain ⟨last, letGo⟩ := (adopted.changeDriver still).dropAdapter id
        refine ⟨last, letGo.congr (fun other => ?_) rfl⟩
        -- The number of the adapter was new, and is free again.
        rw [Roll.letGo, Roll.gain, Table.get?_erase, Table.get?_insert]
        split
        case isTrue same =>
          have absent := fits.given id
          rw [fits.get?_adapters_next] at absent
          rw [same]
          exact absent
        case isFalse => rfl

/-- An adapter is opened through the manager if what was asked for is valid. -/
theorem Fits.opening
    (fits : Fits manager entry none host roll)
    (valid : Except Error Unit)
    (message name : String)
    {call : Action (Recorded State) (Outcome AdapterHandle)}
    (log : (call host.driver).state.log =
      host.driver.log ++ [.opened (call host.driver).value]) :
    let reply := obtainAdapter manager valid message name call host
    ∃ next, Fits manager next none reply.state
      (roll.gain name reply.value) := by
  dsimp only
  unfold obtainAdapter
  rw [Action.value_bind, Action.state_bind, value_manager?, state_manager?,
    fits.found]
  cases valid with
  | error error => exact ⟨entry, fits⟩
  | ok => exact fits.receiving entry message name _ log

/-! ## Sessions -/

/-- A start that does not break off is held if it went well. -/
theorem Fits.starting
    (fits : Fits manager entry none host roll)
    (id : AdapterId)
    (config : SessionConfig)
    (unbroken : ∀ exchange ∈ (startSession id config host).state.driver.log,
      exchange.crashes = false) :
    ∃ next, Fits manager next none (startSession id config host).state
      (roll.launch id (startSession id config host).value) := by
  have managed : ∀ id adapter, host.adapters.get? id = some adapter →
      ∃ entry, host.managers.get? adapter.manager = some entry := by
    intro id adapter found
    rw [fits.owned id adapter found]
    exact ⟨entry, fits.found⟩
  have begun := startSession_begun managed id config
  generalize startSession id config host = reply at begun unbroken
  obtain ⟨outcome, next, notes⟩ := reply
  cases begun with
  | refused quiet => exact ⟨entry, fits.changeDriver quiet⟩
  | brokenOff member crashes =>
      cases (unbroken _ member).symm.trans crashes
  | started found known idle free quiet on =>
      rw [fits.owned id _ found, fits.found] at known
      obtain rfl := Option.some.inj known
      exact ⟨_, fits.launch found idle free quiet on⟩

/-- Setting the event of a shutdown opens and closes nothing, and the shutdown
goes through unless it breaks off. -/
theorem shutdown_cases
    {id : SessionId}
    {session : Session}
    (found : host.sessions.get? id = some session) :
    ∃ driver, Quiet host.driver driver ∧
      (shutdown id host).state = { host with driver } ∧
      ((shutdown id host).value = .ok () ∨
        ∃ exchange ∈ driver.log, exchange.crashes = true) := by
  let next := (Driver.setEvent session.shutdownEvent host.driver).state
  have log : next.log = host.driver.log ++ [.setEvent session.shutdownEvent
      (Driver.setEvent session.shutdownEvent host.driver).value] := rfl
  refine ⟨next, .of_append log rfl rfl, ?_⟩
  unfold shutdown
  rw [Action.state_bind, Action.value_bind, value_session?, state_session?,
    found]
  dsimp only
  rw [Action.state_bind, Action.value_bind, value_ask, state_ask]
  cases set : (Driver.setEvent session.shutdownEvent host.driver).value with
  | ok => exact ⟨rfl, .inl rfl⟩
  | error failure =>
      cases failure with
      | refused error => exact ⟨rfl, .inl rfl⟩
      | crashed message =>
          refine ⟨rfl, .inr ⟨.setEvent session.shutdownEvent
            (.error (.crashed message)), ?_, rfl⟩⟩
          rw [log, set]
          exact List.mem_append_right _ (List.mem_singleton_self _)

/-- An end that is over changes nothing. -/
theorem state_finishSteps_of_finished
    (host : Host (Recorded State))
    (id : SessionId)
    (count : Nat)
    (outcome : Outcome Unit) :
    (Finish.steps id count (.finished outcome) host).state = host := by
  induction count with
  | zero => rfl
  | succ count hypothesis =>
      unfold Finish.steps Finish.step
      rw [Action.state_bind, Action.value_bind, Action.state_bind,
        value_session?, state_session?]
      cases host.sessions.get? id with
      | none => exact hypothesis
      | some session =>
          dsimp only
          rw [Action.value_bind, Action.state_bind, value_adapter?,
            state_adapter?]
          cases host.adapters.get? session.adapter with
          | none => exact hypothesis
          | some adapter => exact hypothesis

section Ends

variable
  {id : SessionId}
  {session : Session}
  {adapter : Adapter}
  {driver : Recorded State}
  (found : host.sessions.get? id = some session)
  (opened : host.adapters.get? session.adapter = some adapter)
  (signalled : (shutdown id host).state = { host with driver })

include found opened signalled

/-- An end that has signalled the shutdown goes through. -/
theorem state_endSession_of_ok
    (value : (shutdown id host).value = .ok ()) :
    (endSession id host).state =
      (ask (Driver.dropEvent session.shutdownEvent)
        (giveBackUnheld session.adapter
          { host with
            driver := (Driver.endSession session.handle driver).state
            managers := host.managers.update adapter.manager fun entry =>
              { entry with
                activeSessions := entry.activeSessions - 1
                running :=
                  entry.running.filter (· ≠ deviceKey adapter.name) }
            adapters := host.adapters.update session.adapter fun entry =>
              { entry with sessionActive := false }
            sessions := host.sessions.erase id }).state).state := by
  simp [endSession, Finish.longest, Finish.steps, Finish.step, Finish.advance,
    Finish.letGo, forgetSession, Start.releaseName, Start.releaseFlag, found,
    opened, signalled, value, Table.update_update, Function.comp_def]

/-- An end that breaks off while it signals keeps what was written down. -/
theorem grows_endSession_of_error
    {failure : Failure}
    (value : (shutdown id host).value = .error failure) :
    driver.log <+: (endSession id host).state.driver.log := by
  have state : (endSession id host).state =
      (Finish.letGo id session { host with driver }).state := by
    have first : (Finish.step id .signalling host).value =
          .finished (.error failure) ∧
        (Finish.step id .signalling host).state =
          (Finish.letGo id session { host with driver }).state := by
      simp [Finish.step, Finish.advance, found, opened, signalled, value]
    unfold endSession Finish.longest
    rw [Action.state_bind, Action.state_pure, Finish.steps, Action.state_bind,
      first.1, first.2]
    exact state_finishSteps_of_finished _ _ _ _
  have unlogged : ∀ recorded : Recorded State, (Driver.dropEvent
      session.shutdownEvent recorded).state.log = recorded.log := fun _ => rfl
  have letsGo := (giveBackUnheld_leads Hands.orderly_empty session.adapter).grows
    { host with driver, sessions := host.sessions.erase id }
  rw [state, Finish.letGo, forgetSession, Action.state_bind,
    Action.state_change, Action.state_bind, state_ask, unlogged]
  exact letsGo

end Ends

/-- An end that does not break off leaves nothing of the session. -/
theorem Fits.ending
    (fits : Fits manager entry none host roll)
    (id : SessionId)
    (unbroken : ∀ exchange ∈ (endSession id host).state.driver.log,
      exchange.crashes = false) :
    ∃ next, Fits manager next none (endSession id host).state
      (roll.finish id) := by
  cases found : host.sessions.get? id with
  | none =>
      have gone : roll.sessions.get? id = none := by
        have kept := fits.get?_sessions id
        rw [found] at kept
        exact Option.map_eq_none_iff.mp kept.symm
      have same : (endSession id host).state = host := by
        unfold endSession
        rw [Action.state_bind, Action.state_pure]
        exact state_finishSteps_of_gone found _ _
      have still : roll.finish id = roll := by
        rw [Roll.finish, Table.erase_of_absent gone]
      rw [same, still]
      exact ⟨entry, fits⟩
  | some session =>
      obtain ⟨adapter, opened⟩ : ∃ adapter,
          host.adapters.get? session.adapter = some adapter := by
        have kept := fits.get?_sessions id
        rw [found] at kept
        obtain ⟨tenant, alive, on⟩ := Option.map_eq_some_iff.mp kept.symm
        obtain ⟨adapter, there, _⟩ := fits.named id tenant alive
        exact ⟨adapter, (congrArg host.adapters.get? on).symm.trans there⟩
      obtain ⟨driver, quiet, signalled, outcome⟩ := shutdown_cases found
      cases value : (shutdown id host).value with
      | error failure =>
          rw [value] at outcome
          obtain ⟨exchange, member, crashes⟩ := outcome.resolve_left
            (by rintro ⟨⟩)
          have kept := (grows_endSession_of_error found opened signalled
            value).subset member
          cases (unbroken exchange kept).symm.trans crashes
      | ok =>
          rw [state_endSession_of_ok found opened signalled value]
          have ended : Quiet host.driver
              (Driver.endSession session.handle driver).state :=
            quiet.trans (.of_append rfl rfl rfl)
          obtain ⟨next, fits⟩ := (fits.finish found opened ended).giveBackUnheld
          exact ⟨next, fits.changeDriver ⟨rfl, rfl⟩⟩

/-! ## Removing the driver -/

/-- A manager with sessions refuses to remove the driver; without any, the
driver answers. -/
theorem deleteDriver_cases
    (found : host.managers.get? manager = some entry) :
    0 < entry.activeSessions ∧
        (deleteDriver manager host).value = refuse
          (.contractViolation "driver deleted while sessions are active") ∧
        (deleteDriver manager host).state = host ∨
      entry.activeSessions = 0 ∧
        (deleteDriver manager host).value =
          (Driver.deleteDriver host.driver).value ∧
        (deleteDriver manager host).state =
          { host with driver := (Driver.deleteDriver host.driver).state } := by
  unfold deleteDriver
  rcases Nat.eq_zero_or_pos entry.activeSessions with none | some
  · refine .inr ⟨none, ?_⟩
    cases answer : (Driver.deleteDriver host.driver).value with
    | error failure => simp [Deletion.step, Deletion.outcome, found, none, answer]
    | ok => simp [Deletion.step, Deletion.outcome, found, none, answer]
  · refine .inl ⟨some, ?_⟩
    simp [Deletion.step, Deletion.outcome, found, some]

/-- Dropping a manager changes the driver at most. -/
theorem dropManager_cases
    (found : host.managers.get? manager = some entry) :
    (dropManager manager host).state = host ∨
      entry.activeSessions = 0 ∧ entry.openAdapters = 0 ∧
        (dropManager manager host).state =
          { host with driver := (Driver.deleteDriver host.driver).state } := by
  unfold dropManager
  rw [Action.state_bind, value_manager?, state_manager?, found]
  dsimp only
  split
  case isTrue => exact .inl rfl
  case isFalse =>
    split
    case isTrue => exact .inl rfl
    case isFalse idle =>
      rw [Bool.or_eq_true, not_or, decide_eq_true_eq, decide_eq_true_eq] at idle
      refine .inr ⟨Nat.eq_zero_of_not_pos idle.1,
        Nat.eq_zero_of_not_pos idle.2, ?_⟩
      rw [Action.state_bind, value_ask, state_ask]
      cases (Driver.deleteDriver host.driver).value <;> rfl

/-! ## Whole runs -/

namespace Watched

/-- What the manager keeps fits what callers hold. -/
def Agrees (manager : ManagerId) (watched : Watched State) : Prop :=
  ∃ entry, Fits manager entry none watched.host watched.roll

variable {watched : Watched State}

/-- What was written down stays. -/
theorem grows_play (call : ManagerCall State) :
    watched.log <+: (watched.play manager call).log := by
  have free := Hands.orderly_empty
  have grows {Value : Type}
      {before : Holdings → Prop}
      {action : Action (Host (Recorded State)) Value}
      {after : Value → Holdings → Prop}
      (leads : Leads before action after) :
      watched.host.driver.log <+: (action watched.host).state.driver.log :=
    leads.grows watched.host
  cases call with
  | create config =>
      exact grows (createAdapter_leads free manager config)
  | openNamed name => exact grows (openAdapter_leads free manager name)
  | close id => exact grows (closeAdapter_leads free id)
  | drop id => exact grows (dropAdapter_leads free id)
  | start id config =>
      dsimp only [log, Watched.play]
      exact grows (startSession_leads free id config)
  | finish id =>
      dsimp only [log, Watched.play]
      exact grows (endSession_leads free List.not_mem_nil)
  | deleteDriver =>
      have keeps : Keeps {} (Host.deleteDriver manager :
          Action (Host (Recorded State)) (Outcome Unit)) :=
        (deletionStep_keeps manager .counting).bind fun counted =>
          (deletionStep_keeps manager counted).bind fun _ => Leads.done
      exact grows keeps
  | dropManager =>
      have keeps : Keeps {} (Host.dropManager manager :
          Action (Host (Recorded State)) Unit) := dropManager_keeps manager
      exact grows keeps
  | elsewhere step => exact List.prefix_rfl

/-- Every call that does not break off keeps both sides together. -/
theorem agrees_play
    (agrees : watched.Agrees manager)
    (call : ManagerCall State)
    (unbroken : ∀ exchange ∈ (watched.play manager call).log,
      exchange.crashes = false) :
    (watched.play manager call).Agrees manager := by
  obtain ⟨entry, fits⟩ := agrees
  cases call with
  | create config =>
      exact fits.opening config.validate "created adapter" config.name rfl
  | openNamed name =>
      exact fits.opening (validatePoolString "adapter name" name)
        "opened adapter" name rfl
  | close id =>
      have dropped := fits.dropAdapter id
      rw [← state_closeAdapter_eq] at dropped
      exact dropped
  | drop id => exact fits.dropAdapter id
  | start id config =>
      dsimp only [log, Watched.play, Agrees] at unbroken ⊢
      exact fits.starting id config unbroken
  | finish id =>
      dsimp only [log, Watched.play, Agrees] at unbroken ⊢
      exact fits.ending id unbroken
  | deleteDriver =>
      refine ⟨entry, ?_⟩
      rcases deleteDriver_cases fits.found with
        ⟨_, _, state⟩ | ⟨_, _, state⟩ <;>
        simp only [Watched.play, state]
      · exact fits
      · exact fits.changeDriver ⟨rfl, rfl⟩
  | dropManager =>
      refine ⟨entry, ?_⟩
      rcases dropManager_cases fits.found with state | ⟨_, _, state⟩ <;>
        simp only [Watched.play, state]
      · exact fits
      · exact fits.changeDriver ⟨rfl, rfl⟩
  | elsewhere step => exact ⟨entry, fits.changeDriver ⟨rfl, rfl⟩⟩

theorem agrees_playAll
    (agrees : watched.Agrees manager)
    (calls : List (ManagerCall State))
    (unbroken : ∀ exchange ∈ (watched.playAll manager calls).log,
      exchange.crashes = false) :
    (watched.playAll manager calls).Agrees manager := by
  induction calls using List.reverseRecOn with
  | nil => exact agrees
  | append_singleton earlier call hypothesis =>
      unfold Watched.playAll at unbroken hypothesis ⊢
      rw [List.foldl_append] at unbroken ⊢
      have before := hypothesis fun exchange member =>
        unbroken exchange ((grows_play call).subset member)
      exact agrees_play before call unbroken

/-- A new manager has counted nothing. -/
theorem agrees_ofDriver
    {config : ManagerConfig}
    {driver : State}
    (made : (newManager config
      ({ driver := ⟨driver, []⟩ } : Host (Recorded State))).value =
        .ok manager) : (ofDriver config driver).Agrees manager := by
  have empty : ∀ {Key Value : Type}, (∅ : Table Key Value).IsProper :=
    List.nodup_nil
  unfold newManager at made
  unfold ofDriver newManager Agrees
  rw [Action.value_bind, value_ask, state_ask] at made
  dsimp only
  rw [Action.state_bind, value_ask, state_ask]
  cases sink : (Driver.setSink config.logger.sink?
    (⟨driver, []⟩ : Recorded State)).value with
  | error failure =>
      rw [sink] at made
      cases made
  | ok =>
      rw [sink] at made
      obtain rfl : 1 = manager := Except.ok.inj made
      refine ⟨{ minVersion := config.minVersion
                deleteOnDrop := config.deleteOnDrop }, ?_⟩
      exact {
        found := rfl
        adapters_proper := empty
        sessions_proper := empty
        adapter_le := nofun
        session_le := nofun
        owned := nofun
        given := fun _ => rfl
        live := rfl
        named := nofun
        flagged := nofun
        attended := nofun
        counted := rfl
        closed_eq := rfl
        started := rfl
        running := .refl _
        apart := List.nodup_nil }

end Watched

/-- After every run of one manager over any driver in which no call breaks off
in the middle of a start or an end: the manager has counted the adapters that
the driver has opened and not closed, and the live sessions; it has the names
of the live sessions, of which no two are the same; and the flag of an adapter
that a caller holds says whether a live session was started on it.  So it
refuses to remove the driver exactly while a session is live, without a call of
the driver, and being dropped it leaves a driver alone that has an adapter open
or a session live. -/
theorem counts_what_is_held
    (driver : State)
    (config : ManagerConfig)
    (manager : ManagerId)
    (made : (newManager config
      ({ driver := ⟨driver, []⟩ } : Host (Recorded State))).value =
        .ok manager)
    (calls : List (ManagerCall State))
    (unbroken : ∀ exchange ∈
      ((Watched.ofDriver config driver).playAll manager calls).log,
        exchange.crashes = false) :
    let last := (Watched.ofDriver config driver).playAll manager calls
    let host := last.host
    ∃ entry, host.managers.get? manager = some entry ∧
      entry.openAdapters + (closed last.log).length =
        (opened last.log).length ∧
      entry.activeSessions = last.roll.sessions.size ∧
      entry.running.Perm last.roll.keys ∧
      last.roll.keys.Nodup ∧
      (∀ id name, last.roll.adapters.get? id = some name →
        ∃ adapter, host.adapters.get? id = some adapter ∧
          adapter.name = name ∧
          (adapter.sessionActive = true ↔ last.roll.Uses id)) ∧
      (0 < last.roll.sessions.size →
        (deleteDriver manager host).value = refuse
            (.contractViolation "driver deleted while sessions are active") ∧
          (deleteDriver manager host).state = host) ∧
      (last.roll.sessions.size = 0 →
        (deleteDriver manager host).value =
            (Driver.deleteDriver host.driver).value ∧
          (deleteDriver manager host).state =
            { host with driver := (Driver.deleteDriver host.driver).state }) ∧
      ((closed last.log).length < (opened last.log).length ∨
          0 < last.roll.sessions.size →
        (dropManager manager host).state = host) := by
  intro last host
  obtain ⟨entry, fits⟩ : last.Agrees manager :=
    Watched.agrees_playAll (Watched.agrees_ofDriver made) calls unbroken
  have opened_eq : entry.openAdapters + (closed last.log).length =
      (opened last.log).length := by
    rw [fits.counted]
    exact fits.closed_eq
  have started := fits.started
  refine ⟨entry, fits.found, opened_eq, started, fits.running,
    fits.running.nodup_iff.mp fits.apart, fun id name given => ?_,
    fun live => ?_, fun idle => ?_, fun kept => ?_⟩
  · rw [fits.given] at given
    obtain ⟨adapter, found, held⟩ := Option.bind_eq_some_iff.mp given
    refine ⟨adapter, found, ?_, fits.flagged id adapter found⟩
    unfold Adapter.heldName? at held
    split at held
    · exact Option.some.inj held
    · cases held
  · rcases deleteDriver_cases fits.found with ⟨_, refused⟩ | ⟨none, _⟩
    · exact refused
    · omega
  · rcases deleteDriver_cases fits.found with ⟨some, _⟩ | ⟨_, answered⟩
    · omega
    · exact answered
  · rcases dropManager_cases fits.found with same | ⟨none, unopened, _⟩
    · exact same
    · omega

/-- Three starts are refused by the driver, one after each call, and a fourth
one for its name.  An adapter is dropped under its session, and is closed when
the session ends. -/
theorem counts_what_is_held_after_refusals :
    let config : SessionConfig := { ringCapacity := some 4 }
    let refuse (method : Method) :
        ManagerCall (Faulty Memory.MemoryDriver) :=
      .elsewhere fun faulty =>
        (Faulty.plant method ⟨0, 1, .refused .interrupted⟩ faulty).state
    let calls : List (ManagerCall (Faulty Memory.MemoryDriver)) :=
      [.create { name := "a" }, .openNamed "A",
        refuse .startSession, .start 2 config,
        refuse .readWaitEvent, .start 2 config,
        refuse .newEvent, .start 2 config,
        .start 2 config, .start 3 config, .drop 2]
    let fresh := Watched.ofDriver {} (⟨{}, ∅, none⟩ : Faulty Memory.MemoryDriver)
    let during := fresh.playAll 1 calls
    let last := fresh.playAll 1 (calls ++ [.finish 4])
    (begun during.log).length = 3 ∧ during.roll.keys = ["a"] ∧
      (opened during.log).length = 2 ∧ closed during.log = [] ∧
      (deleteDriver 1 during.host).state = during.host ∧
      (dropManager 1 during.host).state = during.host ∧
      last.roll.keys = [] ∧ (closed last.log).length = 1 ∧
      (deleteDriver 1 last.host).value = .ok () := by
  intro config refuse calls fresh during last
  obtain ⟨_, _, _, _, _, _, _, refuses, _, stays⟩ := counts_what_is_held
    (⟨{}, ∅, none⟩ : Faulty Memory.MemoryDriver) {} 1 (by decide +kernel) calls
    (by decide +kernel)
  obtain ⟨_, _, _, _, _, _, _, _, answers, _⟩ := counts_what_is_held
    (⟨{}, ∅, none⟩ : Faulty Memory.MemoryDriver) {} 1 (by decide +kernel)
    (calls ++ [.finish 4]) (by decide +kernel)
  have live : 0 < during.roll.sessions.size := by decide +kernel
  have idle : last.roll.sessions.size = 0 := by decide +kernel
  refine ⟨by decide +kernel, by decide +kernel, by decide +kernel,
    by decide +kernel, (refuses live).2, stays (.inr live), by decide +kernel,
    by decide +kernel, ?_⟩
  exact (answers idle).1.trans (by decide +kernel)

end Host
end VirtualAdapter

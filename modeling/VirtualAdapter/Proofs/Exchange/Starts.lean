import VirtualAdapter.Proofs.Exchange.Bargains
import VirtualAdapter.Proofs.Exchange.Roll

/-!
# What starts come to

A start claims the flag and the name of an adapter and then calls the driver
three times.  Whichever call is refused, the claims are given back, and what is
left behind is a change of the driver.  Only a start that breaks off leaves its
claims.
-/

namespace VirtualAdapter

/-- Why a call that a start makes was refused. -/
def Exchange.refusal? : Exchange → Option Error
  | started _ (.error (.refused error))
  | askedEvent _ (.error (.refused error))
  | madeEvent (.error (.refused error)) => some error
  | _ => none

namespace Host

open Ledger

variable {State : Type} [Driver State]

/-! ## What a start comes to -/

omit [Driver State] in
/-- Some calls that open and close nothing. -/
theorem Quiet.of_append
    {before after : Recorded State}
    {more : List Exchange}
    (log : after.log = before.log ++ more)
    (none_opened : opened more = [])
    (none_closed : closed more = []) : Quiet before after where
  opened_eq := by rw [log, opened_append, none_opened, List.append_nil]
  closed_eq := by rw [log, closed_append, none_closed, List.append_nil]

omit [Driver State] in
theorem Quiet.trans
    {before between after : Recorded State}
    (first : Quiet before between)
    (second : Quiet between after) : Quiet before after :=
  ⟨second.opened_eq.trans first.opened_eq,
    second.closed_eq.trans first.closed_eq⟩

/-- What a start comes to. -/
inductive Begun
    (host : Host (Recorded State))
    (id : AdapterId) : Outcome SessionId → Host (Recorded State) → Prop
  /-- It was refused, and everything but the driver is as before. -/
  | refused {failure : Failure} {driver : Recorded State}
      (quiet : Quiet host.driver driver) :
      Begun host id (.error failure) { host with driver }
  /-- It broke off. -/
  | brokenOff {outcome : Outcome SessionId} {next : Host (Recorded State)}
      {exchange : Exchange}
      (member : exchange ∈ next.driver.log)
      (crashes : exchange.crashes = true) :
      Begun host id outcome next
  /-- A session runs. -/
  | started {adapter : Adapter} {entry : Manager} {driver : Recorded State}
      {session : Session}
      (found : host.adapters.get? id = some adapter)
      (managed : host.managers.get? adapter.manager = some entry)
      (idle : adapter.sessionActive = false)
      (free : deviceKey adapter.name ∉ entry.running)
      (quiet : Quiet host.driver driver)
      (on : session.adapter = id) :
      Begun host id (.ok (host.lastNumber + 1))
        { host with
          driver
          lastNumber := host.lastNumber + 1
          managers := host.managers.update adapter.manager fun entry =>
            { entry with
              activeSessions := entry.activeSessions + 1
              running := entry.running ++ [deviceKey adapter.name] }
          adapters := host.adapters.update id fun entry =>
            { entry with sessionActive := true }
          sessions := host.sessions.insert (host.lastNumber + 1) session }

/-! ## What is written down of a bargain -/

/-- An action answers a value, and some calls are written down of it. -/
structure Writes
    {Value : Type}
    (action : Action (Recorded State) Value)
    (driver : Recorded State)
    (value : Value)
    (exchanges : List Exchange) : Prop where
  /-- It answers the value. -/
  value : (action driver).value = value
  /-- These calls are written down. -/
  log : (action driver).state.log = driver.log ++ exchanges

namespace Writes

variable {Value Other : Type} {driver : Recorded State}

omit [Driver State]

theorem answer {value : Value} :
    Writes (pure value) driver value [] :=
  ⟨rfl, (List.append_nil _).symm⟩

theorem bind
    {action : Action (Recorded State) Value}
    {continuation : Value → Action (Recorded State) Other}
    {value : Value}
    {other : Other}
    {earlier later : List Exchange}
    (first : Writes action driver value earlier)
    (second : Writes (continuation value) (action driver).state other later) :
    Writes (action >>= continuation) driver other (earlier ++ later) where
  value := by rw [Action.value_bind, first.value, second.value]
  log := by
    rw [Action.state_bind, first.value, second.log, first.log,
      List.append_assoc]

end Writes

/-- A session that was refused an event is ended. -/
def givenUp (handle : SessionHandle) : Failure → List Exchange
  | .refused _ => [.ended handle]
  | .crashed _ => []

theorem writes_giveUp
    (handle : SessionHandle)
    (failure : Failure)
    (driver : Recorded State) :
    Writes (giveUp handle failure) driver (.error failure)
      (givenUp handle failure) := by
  cases failure with
  | refused error => exact ⟨rfl, rfl⟩
  | crashed message => exact .answer

/-- What a bargain comes to, with the calls that are written down of it. -/
inductive Script
    (adapter : AdapterHandle) : Outcome Means → List Exchange → Prop
  /-- There is no session. -/
  | unstarted (failure : Failure) :
      Script adapter (.error failure) [.started adapter (.error failure)]
  /-- The session does not get its event. -/
  | unasked (handle : SessionHandle) (failure : Failure) :
      Script adapter (.error failure)
        (.started adapter (.ok handle) ::
          .askedEvent handle (.error failure) :: givenUp handle failure)
  /-- There is no event for the shutdown. -/
  | unmade (handle : SessionHandle) (readEvent : EventHandle)
      (failure : Failure) :
      Script adapter (.error failure)
        (.started adapter (.ok handle) :: .askedEvent handle (.ok readEvent) ::
          .madeEvent (.error failure) :: givenUp handle failure)
  /-- There is everything. -/
  | struck (means : Means) :
      Script adapter (.ok means)
        [.started adapter (.ok means.handle),
          .askedEvent means.handle (.ok means.readEvent),
          .madeEvent (.ok means.shutdownEvent)]

/-- A bargain follows one of the scripts. -/
theorem script_bargain
    (adapter : AdapterHandle)
    (capacity : UInt32)
    (driver : Recorded State) :
    ∃ value exchanges,
      Writes (bargain adapter capacity) driver value exchanges ∧
        Script adapter value exchanges := by
  let first := (Driver.startSession adapter capacity driver).state
  have starts : Writes (Driver.startSession adapter capacity) driver _
      [.started adapter (Driver.startSession adapter capacity driver).value] :=
    ⟨rfl, rfl⟩
  generalize (Driver.startSession adapter capacity driver).value = started
    at starts
  cases started with
  | error failure =>
      exact ⟨_, _, starts.bind .answer, .unstarted failure⟩
  | ok handle =>
      let second := (Driver.readWaitEvent handle first).state
      have asks : Writes (Driver.readWaitEvent handle) first _
          [.askedEvent handle (Driver.readWaitEvent handle first).value] :=
        ⟨rfl, rfl⟩
      generalize (Driver.readWaitEvent handle first).value = asked at asks
      cases asked with
      | error failure =>
          exact ⟨_, _, starts.bind (asks.bind (writes_giveUp _ _ _)),
            .unasked handle failure⟩
      | ok readEvent =>
          have makes : Writes Driver.newEvent second _
              [.madeEvent (Driver.newEvent second).value] := ⟨rfl, rfl⟩
          generalize (Driver.newEvent second).value = made at makes
          cases made with
          | error failure =>
              exact ⟨_, _,
                starts.bind (asks.bind (makes.bind (writes_giveUp _ _ _))),
                .unmade handle readEvent failure⟩
          | ok shutdownEvent =>
              exact ⟨_, _, starts.bind (asks.bind (makes.bind .answer)),
                .struck { handle, readEvent, shutdownEvent }⟩

namespace Script

variable
  {adapter : AdapterHandle}
  {value : Outcome Means}
  {exchanges : List Exchange}

/-- No adapter is opened or closed. -/
theorem quiet
    (script : Script adapter value exchanges) :
    opened exchanges = [] ∧ closed exchanges = [] := by
  cases script with
  | unstarted | struck => exact ⟨rfl, rfl⟩
  | unasked _ failure | unmade _ _ failure => cases failure <;> exact ⟨rfl, rfl⟩

/-- A bargain that breaks off does so with a call. -/
theorem crashes
    {message : String}
    (script : Script adapter (.error (.crashed message)) exchanges) :
    ∃ exchange ∈ exchanges, exchange.crashes = true := by
  cases script with
  | unstarted => exact ⟨_, .head _, rfl⟩
  | unasked => exact ⟨_, .tail _ (.head _), rfl⟩
  | unmade => exact ⟨_, .tail _ (.tail _ (.head _)), rfl⟩

/-- A bargain in which a call was refused is refused, and has ended the session
that it has started, if it has started one. -/
theorem of_refusal
    (script : Script adapter value exchanges)
    {exchange : Exchange}
    (member : exchange ∈ exchanges)
    {error : Error}
    (refused : exchange.refusal? = some error) :
    value = refuse error ∧ Ledger.ended exchanges = Ledger.begun exchanges ∧
      (Ledger.begun exchanges).length ≤ 1 := by
  cases script with
  | struck means =>
      simp only [List.mem_cons, List.not_mem_nil, or_false] at member
      obtain rfl | rfl | rfl := member <;> cases refused
  | unstarted failure =>
      obtain rfl := List.mem_singleton.mp member
      cases failure <;> cases refused
      exact ⟨rfl, rfl, Nat.zero_le 1⟩
  | unasked handle failure =>
      cases failure <;>
        simp only [givenUp, List.mem_cons, List.not_mem_nil, or_false] at member
      · obtain rfl | rfl | rfl := member <;> cases refused
        exact ⟨rfl, rfl, Nat.le_refl 1⟩
      · obtain rfl | rfl := member <;> cases refused
  | unmade handle readEvent failure =>
      cases failure <;>
        simp only [givenUp, List.mem_cons, List.not_mem_nil, or_false] at member
      · obtain rfl | rfl | rfl | rfl := member <;> cases refused
        exact ⟨rfl, rfl, Nat.le_refl 1⟩
      · obtain rfl | rfl | rfl := member <;> cases refused

/-- The first call asks for a session. -/
theorem exists_started (script : Script adapter value exchanges) :
    ∃ outcome rest, exchanges = .started adapter outcome :: rest := by
  cases script <;> exact ⟨_, _, rfl⟩

end Script

/-! ## Starts -/

variable
  {host : Host (Recorded State)}
  {id : AdapterId}
  {config : SessionConfig}

/-- A start on an adapter that is free calls the driver. -/
theorem log_startSession_of_free
    {adapter : Adapter}
    (free : host.IsFree id adapter)
    {capacity : UInt32}
    (asked : Start.capacity? (Driver.capacityBounds host.driver) config =
      .ok capacity) :
    ∃ outcome rest, (startSession id config host).state.driver.log =
      host.driver.log ++ .started adapter.handle outcome :: rest := by
  obtain ⟨value, exchanges, writes, script⟩ :=
    script_bargain adapter.handle capacity host.driver
  obtain ⟨outcome, rest, rfl⟩ := script.exists_started
  have state : (startSession id config host).state = _ :=
    congrArg Prod.snd (startSession_of_free asked free)
  refine ⟨outcome, rest, ?_⟩
  rw [← writes.log, ← Start.driver_settled, ← state]

/-- A start that is refused a call is refused, has ended the session that it
has started, and leaves a free adapter free. -/
theorem startSession_of_refusal
    {exchanges : List Exchange}
    (log : (startSession id config host).state.driver.log =
      host.driver.log ++ exchanges)
    {exchange : Exchange}
    (member : exchange ∈ exchanges)
    {error : Error}
    (refused : exchange.refusal? = some error) :
    (startSession id config host).value = refuse error ∧
      Ledger.ended exchanges = Ledger.begun exchanges ∧
      (Ledger.begun exchanges).length ≤ 1 ∧
      ∃ adapter driver, host.IsFree id adapter ∧
        (startSession id config host).state = { host with driver } := by
  rcases startSession_cases host id config with
    ⟨error, value, state⟩ | ⟨adapter, capacity, free, _, same⟩
  · rw [state] at log
    rw [List.self_eq_append_right.mp log] at member
    cases member
  · obtain ⟨value, calls, writes, script⟩ :=
      script_bargain adapter.handle capacity host.driver
    have state : (startSession id config host).state = _ :=
      congrArg Prod.snd same
    rw [state, Start.driver_settled, writes.log] at log
    obtain rfl := List.append_cancel_left log
    obtain ⟨rfl, ends, single⟩ := script.of_refusal member refused
    rw [Start.settled, writes.value, Prod.mk.injEq] at same
    exact ⟨same.1, ends, single, adapter, _, free, same.2⟩

/-- A start comes to one of the things that are listed. -/
theorem startSession_begun
    (managed : ∀ id adapter, host.adapters.get? id = some adapter →
      ∃ entry, host.managers.get? adapter.manager = some entry)
    (id : AdapterId)
    (config : SessionConfig) :
    Begun host id (startSession id config host).value
      (startSession id config host).state := by
  rcases startSession_cases host id config with
    ⟨error, value, state⟩ | ⟨adapter, capacity, free, _, same⟩
  · rw [value, state]
    exact .refused (.refl _)
  · obtain ⟨entry, known⟩ := managed id adapter free.found
    obtain ⟨outcome, exchanges, writes, script⟩ :=
      script_bargain adapter.handle capacity host.driver
    have quiet : Quiet host.driver
        (bargain adapter.handle capacity host.driver).state :=
      .of_append writes.log script.quiet.1 script.quiet.2
    rw [Start.settled, writes.value, Prod.mk.injEq] at same
    cases outcome with
    | ok means =>
        rw [same.1, same.2]
        have unclaimed := free.unclaimed
        rw [known] at unclaimed
        exact .started free.found known free.idle unclaimed quiet rfl
    | error failure =>
        cases failure with
        | refused error =>
            rw [same.1, same.2]
            exact .refused quiet
        | crashed message =>
            obtain ⟨exchange, member, crashes⟩ := script.crashes
            refine .brokenOff ?_ crashes
            rw [same.2]
            exact writes.log ▸ List.mem_append_right _ member

end Host
end VirtualAdapter

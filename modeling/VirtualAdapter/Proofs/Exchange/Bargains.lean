import VirtualAdapter.Host.Start
import VirtualAdapter.Proofs.Action
import VirtualAdapter.Proofs.Table

/-!
# What a start asks of the driver

A start that has its claims bargains with the driver for a session and two
events, and ends the session again if one of the events is refused.  Whatever
is refused, the claims are given back, so that nothing is left of the start but
a change of the driver.
-/

namespace VirtualAdapter
namespace Host

variable {State : Type} [Driver State]

/-! ## Bargains -/

/-- What a session has of the driver. -/
structure Means where
  /-- The driver's handle. -/
  handle : SessionHandle
  /-- The event that is set while packets can be received. -/
  readEvent : EventHandle
  /-- The event for the shutdown. -/
  shutdownEvent : EventHandle

/-- End a session that was refused an event; a call that breaks off is the last
one. -/
def giveUp
    (handle : SessionHandle) : Failure → Action State (Outcome Means)
  | .refused error => do
      Driver.endSession handle
      return refuse error
  | .crashed message => return .error (.crashed message)

/-- Make the event for the shutdown of a session. -/
def obtainShutdown
    (handle : SessionHandle)
    (readEvent : EventHandle) : Action State (Outcome Means) := do
  match ← Driver.newEvent with
  | .error failure => giveUp handle failure
  | .ok shutdownEvent => return .ok { handle, readEvent, shutdownEvent }

/-- Obtain the two events of a session. -/
def obtainEvents (handle : SessionHandle) : Action State (Outcome Means) := do
  match ← Driver.readWaitEvent handle with
  | .error failure => giveUp handle failure
  | .ok readEvent => obtainShutdown handle readEvent

/-- Start a session and obtain its two events. -/
def bargain
    (adapter : AdapterHandle)
    (capacity : UInt32) : Action State (Outcome Means) := do
  match ← Driver.startSession adapter capacity with
  | .error failure => return .error failure
  | .ok handle => obtainEvents handle

/-! ## Adapters that are free -/

/-- A session can be started on an adapter: it is open, its flag is clear, and
its name is not claimed at its manager. -/
structure IsFree
    (host : Host State)
    (id : AdapterId)
    (adapter : Adapter) : Prop where
  /-- The adapter is open. -/
  found : host.adapters.get? id = some adapter
  /-- Its flag is clear. -/
  idle : adapter.sessionActive = false
  /-- Its name is not claimed. -/
  unclaimed : deviceKey adapter.name ∉
    ((host.managers.get? adapter.manager).map (·.running)).getD []

/-- The flag of an adapter is set, and the driver may have been called. -/
def marked
    (host : Host State)
    (id : AdapterId)
    (driver : State) : Host State :=
  { host with
    driver
    adapters := host.adapters.update id fun entry =>
      { entry with sessionActive := true } }

/-- The name is claimed, too. -/
def claimed
    (host : Host State)
    (id : AdapterId)
    (adapter : Adapter)
    (driver : State) : Host State :=
  { host.marked id driver with
    managers := host.managers.update adapter.manager fun entry =>
      { entry with running := entry.running ++ [deviceKey adapter.name] } }

/-- A session is counted and kept under the next number. -/
def withSession
    (host : Host State)
    (adapter : Adapter)
    (driver : State)
    (session : Session) : Host State :=
  { host.marked session.adapter driver with
    lastNumber := host.lastNumber + 1
    managers := host.managers.update adapter.manager fun entry =>
      { entry with
        activeSessions := entry.activeSessions + 1
        running := entry.running ++ [deviceKey adapter.name] }
    sessions := host.sessions.insert (host.lastNumber + 1) session }

variable {host : Host State} {id : AdapterId} {adapter : Adapter}

section Marked

omit [Driver State]

variable (found : host.adapters.get? id = some adapter)

include found

theorem get?_marked (driver : State) :
    (host.marked id driver).adapters.get? id =
      some { adapter with sessionActive := true } := by
  rw [marked, Table.get?_update, if_pos rfl, found]
  rfl

/-- Clearing a flag that was clear before it was set leaves nothing behind. -/
theorem state_releaseFlag
    (idle : adapter.sessionActive = false)
    (driver : State) :
    (Start.releaseFlag id (host.marked id driver)).state =
      { host with driver } := by
  have flags : ((host.adapters.update id fun entry =>
      { entry with sessionActive := true }).update id fun entry =>
        { entry with sessionActive := false }) = host.adapters := by
    rw [Table.update_update]
    refine Table.update_eq_self found ?_
    rw [← idle]
    rfl
  simp only [Start.releaseFlag, state_changeAdapter, marked, flags]

end Marked

namespace IsFree

omit [Driver State]

/-- Whatever becomes of the driver, the adapter stays free. -/
theorem changeDriver
    (free : host.IsFree id adapter)
    (driver : State) : { host with driver }.IsFree id adapter :=
  ⟨free.found, free.idle, free.unclaimed⟩

theorem get?_claimed
    (free : host.IsFree id adapter)
    (driver : State) :
    (host.claimed id adapter driver).adapters.get? id =
      some { adapter with sessionActive := true } :=
  get?_marked free.found driver

/-- Releasing a name that was not claimed before leaves the flag only. -/
theorem state_releaseName
    (free : host.IsFree id adapter)
    (driver : State) :
    (Start.releaseName { adapter with sessionActive := true }
      (host.claimed id adapter driver)).state = host.marked id driver := by
  have names : ((host.managers.update adapter.manager fun entry =>
      { entry with
        running := entry.running ++ [deviceKey adapter.name] }).update
      adapter.manager fun entry =>
        { entry with
          running := entry.running.filter (· ≠ deviceKey adapter.name) }) =
      host.managers := by
    rw [Table.update_update]
    cases known : host.managers.get? adapter.manager with
    | none => rw [Table.update, known]
    | some entry =>
        refine Table.update_eq_self known ?_
        have unclaimed : deviceKey adapter.name ∉ entry.running := by
          have unclaimed := free.unclaimed
          rwa [known] at unclaimed
        have kept : entry.running.filter (· ≠ deviceKey adapter.name) =
            entry.running :=
          List.filter_eq_self.mpr fun key member => decide_eq_true fun same =>
            unclaimed (same ▸ member)
        rw [Function.comp_apply, List.filter_append, kept]
        simp
  simp only [Start.releaseName, state_changeManager, claimed, names]
  rfl

end IsFree

/-! ## Starts -/

namespace Start

/-- What a start that is at a phase answers after a number of steps, and the
host then. -/
def ahead
    (start : Start)
    (count : Nat)
    (phase : StartPhase)
    (present : Host State) : Outcome SessionId × Host State :=
  (outcome (start.steps count phase present).value,
    (start.steps count phase present).state)

/-- The session of a start that has what it needs. -/
def session (start : Start) (means : Means) : Session where
  adapter := start.adapter
  handle := means.handle
  readEvent := means.readEvent
  shutdownEvent := means.shutdownEvent
  capacity := start.capacity
  config := start.config

/-- What a start comes to by what its bargain comes to: a session, nothing, or
claims that were not given back. -/
def settled
    (start : Start)
    (host : Host State)
    (adapter : Adapter)
    (bargained : Reply State (Outcome Means)) : Outcome SessionId × Host State :=
  match bargained.value with
  | .ok means =>
      (.ok (host.lastNumber + 1),
        host.withSession adapter bargained.state (start.session means))
  | .error (.refused error) =>
      (refuse error, { host with driver := bargained.state })
  | .error (.crashed message) =>
      (.error (.crashed message),
        host.claimed start.adapter adapter bargained.state)

variable
  {start : Start}
  {host present : Host State}
  {adapter : Adapter}

omit [Driver State] in
/-- The driver is not called for anything else. -/
theorem driver_settled (bargained : Reply State (Outcome Means)) :
    (start.settled host adapter bargained).2.driver = bargained.state := by
  unfold settled
  split <;> rfl

/-- A start is one step further. -/
theorem ahead_succ
    (found : present.adapters.get? start.adapter = some adapter)
    (count : Nat)
    (phase : StartPhase) :
    start.ahead (count + 1) phase present =
      start.ahead count (start.advance adapter phase present).value
        (start.advance adapter phase present).state := by
  have value : (start.step phase present).value =
      (start.advance adapter phase present).value := by
    simp only [Start.step, Action.value_bind, value_adapter?, state_adapter?,
      found]
  have state : (start.step phase present).state =
      (start.advance adapter phase present).state := by
    simp only [Start.step, Action.state_bind, value_adapter?, state_adapter?,
      found]
  simp only [ahead, steps, Action.value_bind, Action.state_bind, value, state]

/-- A start that is over stays so. -/
theorem ahead_finished
    (found : present.adapters.get? start.adapter = some adapter)
    (count : Nat)
    (outcome : Outcome SessionId) :
    start.ahead count (.finished outcome) present = (outcome, present) := by
  induction count with
  | zero => rfl
  | succ count hypothesis => exact (ahead_succ found count _).trans hypothesis

section Claimed

variable (free : host.IsFree start.adapter adapter) (driver : State)

include free

theorem ahead_releasingFlag (count : Nat) (failure : Failure) :
    start.ahead (count + 1) (.releasingFlag failure)
        (host.marked start.adapter driver) =
      (.error failure, { host with driver }) := by
  rw [ahead_succ (get?_marked free.found driver)]
  simp only [advance, Action.state_bind, Action.value_bind, Action.value_pure,
    Action.state_pure, state_releaseFlag free.found free.idle]
  exact ahead_finished (free.changeDriver driver).found count _

/-- Giving both claims back leaves nothing behind. -/
theorem ahead_releasingName (count : Nat) (failure : Failure) :
    start.ahead (count + 2) (.releasingName failure)
        (host.claimed start.adapter adapter driver) =
      (.error failure, { host with driver }) := by
  rw [ahead_succ (free.get?_claimed driver)]
  simp only [advance, Action.state_bind, Action.value_bind, Action.value_pure,
    Action.state_pure, free.state_releaseName]
  exact ahead_releasingFlag free driver count failure

/-- A session is counted and kept. -/
theorem ahead_counting (count : Nat) (means : Means) :
    start.ahead (count + 1)
        (.counting means.handle means.readEvent means.shutdownEvent)
        (host.claimed start.adapter adapter driver) =
      (.ok (host.lastNumber + 1),
        host.withSession adapter driver (start.session means)) := by
  rw [ahead_succ (free.get?_claimed driver)]
  simp only [advance, admission, Action.state_bind, Action.value_bind,
    Action.value_pure, Action.state_pure, Action.state_change,
    Action.state_trace, state_changeManager, value_freshNumber,
    state_freshNumber, claimed, marked, Table.update_update]
  have kept : (host.withSession adapter driver
      (start.session means)).adapters.get? start.adapter =
        some { adapter with sessionActive := true } :=
    get?_marked free.found driver
  exact ahead_finished kept count _

/-- A call that broke off takes the start with it, claims and all. -/
theorem ahead_brokenOff (count : Nat) (message : String) :
    start.ahead count (.finished (.error (.crashed message)))
        (host.claimed start.adapter adapter driver) =
      (.error (.crashed message),
        host.claimed start.adapter adapter driver) :=
  ahead_finished (free.get?_claimed driver) count _

/-- A session that lacks an event is ended and both claims are given back, unless
the call broke off. -/
theorem ahead_givingUp
    (count : Nat)
    (handle : SessionHandle)
    (failure : Failure) :
    start.ahead (count + 3) (afterFailure failure (.ending handle failure))
        (host.claimed start.adapter adapter driver) =
      start.settled host adapter (giveUp handle failure driver) := by
  cases failure with
  | crashed message => exact ahead_brokenOff free driver _ message
  | refused error =>
      rw [afterFailure, ahead_succ (free.get?_claimed driver)]
      exact ahead_releasingName free _ count _

theorem ahead_makingEvent
    (count : Nat)
    (handle : SessionHandle)
    (readEvent : EventHandle) :
    start.ahead (count + 4) (.makingEvent handle readEvent)
        (host.claimed start.adapter adapter driver) =
      start.settled host adapter (obtainShutdown handle readEvent driver) := by
  rw [ahead_succ (free.get?_claimed driver)]
  let later := (Driver.newEvent driver).state
  cases made : (Driver.newEvent driver).value with
  | ok shutdownEvent =>
      have counts := ahead_counting free later (count + 2)
        { handle, readEvent, shutdownEvent }
      simpa [advance, obtainShutdown, settled, claimed, marked, made] using
        counts
  | error failure =>
      have ends := ahead_givingUp free later count handle failure
      simpa [advance, obtainShutdown, settled, claimed, marked, made] using ends

theorem ahead_obtainingEvent (count : Nat) (handle : SessionHandle) :
    start.ahead (count + 5) (.obtainingEvent handle)
        (host.claimed start.adapter adapter driver) =
      start.settled host adapter (obtainEvents handle driver) := by
  rw [ahead_succ (free.get?_claimed driver)]
  let later := (Driver.readWaitEvent handle driver).state
  cases asked : (Driver.readWaitEvent handle driver).value with
  | ok readEvent =>
      have makes := ahead_makingEvent free later count handle readEvent
      simpa [advance, obtainEvents, settled, claimed, marked, asked] using makes
  | error failure =>
      have ends := ahead_givingUp free later (count + 1) handle failure
      simpa [advance, obtainEvents, settled, claimed, marked, asked] using ends

theorem ahead_starting (count : Nat) :
    start.ahead (count + 6) .starting
        (host.claimed start.adapter adapter driver) =
      start.settled host adapter
        (bargain adapter.handle start.capacity driver) := by
  rw [ahead_succ (free.get?_claimed driver)]
  let later :=
    (Driver.startSession adapter.handle start.capacity driver).state
  cases started :
      (Driver.startSession adapter.handle start.capacity driver).value with
  | ok handle =>
      have obtains := ahead_obtainingEvent free later count handle
      simpa [advance, bargain, settled, claimed, marked, started] using obtains
  | error failure =>
      cases failure with
      | refused error =>
          have undoes := ahead_releasingName free later (count + 3)
            (.refused error)
          simpa [advance, afterFailure, bargain, settled, claimed, marked,
            started] using undoes
      | crashed message =>
          have breaks := ahead_brokenOff free later (count + 5) message
          simpa [advance, afterFailure, bargain, settled, claimed, marked,
            started] using breaks

omit driver in
/-- A start on a free adapter comes to what its bargain comes to. -/
theorem ahead_claimingFlag :
    start.ahead longest .claimingFlag host =
      start.settled host adapter
        (bargain adapter.handle start.capacity host.driver) := by
  have unclaimed := free.unclaimed
  rw [longest, ahead_succ free.found]
  have claims : start.ahead 7 .claimingName
      (host.marked start.adapter host.driver) =
        start.ahead 6 .starting
          (host.claimed start.adapter adapter host.driver) := by
    rw [ahead_succ (get?_marked free.found host.driver)]
    simp [advance, claimName, marked, claimed, unclaimed]
  have goes := claims.trans (ahead_starting free host.driver 0)
  simpa [advance, claimFlag, free.idle, marked] using goes

end Claimed

/-- A start on an adapter that is not open is refused. -/
theorem ahead_of_gone
    (gone : host.adapters.get? start.adapter = none)
    (count : Nat)
    (phase : StartPhase) :
    start.ahead (count + 1) phase host = (refuse adapterClosed, host) := by
  have refused (phase : StartPhase) : start.step phase host =
      ⟨.finished (refuse adapterClosed), host, []⟩ := by
    have looked : adapter? start.adapter host = ⟨none, host, []⟩ := by
      rw [← gone]
      rfl
    exact Action.bind_of_reply looked _
  induction count generalizing phase with
  | zero => simp [ahead, steps, outcome, refused]
  | succ count hypothesis =>
      rw [← hypothesis (.finished (refuse adapterClosed))]
      simp only [ahead, steps, Action.value_bind, Action.state_bind, refused]

/-- A start on an adapter that is not free is refused, and leaves nothing
behind. -/
theorem ahead_of_taken
    (taken : ∀ adapter, ¬ host.IsFree start.adapter adapter) :
    ∃ error, start.ahead longest .claimingFlag host = (refuse error, host) := by
  cases found : host.adapters.get? start.adapter with
  | none => exact ⟨_, ahead_of_gone found 7 _⟩
  | some adapter =>
      refine ⟨.sessionBusy, ?_⟩
      rw [longest, ahead_succ found]
      cases idle : adapter.sessionActive with
      | true =>
          have busy := ahead_finished found 7 (refuse .sessionBusy)
          simpa [advance, claimFlag, idle] using busy
      | false =>
          have claimed : deviceKey adapter.name ∈
              ((host.managers.get? adapter.manager).map (·.running)).getD [] := by
            by_contra unclaimed
            exact taken adapter ⟨found, idle, unclaimed⟩
          have named : start.ahead 7 .claimingName
              (host.marked start.adapter host.driver) =
                start.ahead 6 .returningFlag
                  (host.marked start.adapter host.driver) := by
            rw [ahead_succ (get?_marked found host.driver)]
            simp [advance, claimName, marked, claimed]
          have returned : start.ahead 6 .returningFlag
              (host.marked start.adapter host.driver) =
                (refuse .sessionBusy, host) := by
            rw [ahead_succ (get?_marked found host.driver)]
            simp only [advance, Action.state_bind, Action.value_bind,
              Action.value_pure, Action.state_pure, Action.state_trace,
              state_releaseFlag found idle]
            exact ahead_finished found 5 _
          simpa [advance, claimFlag, idle, marked] using named.trans returned

end Start

section Whole

variable
  {host : Host State}
  {id : AdapterId}
  {config : SessionConfig}
  {capacity : UInt32}
  (asked : Start.capacity? (Driver.capacityBounds host.driver) config =
    .ok capacity)

include asked

theorem startSession_eq :
    ((startSession id config host).value,
        (startSession id config host).state) =
      Start.ahead { adapter := id, config, capacity } Start.longest
        .claimingFlag host := by
  simp only [startSession, Action.value_bind, Action.state_bind,
    Action.value_inspect, Action.state_inspect, Action.value_pure,
    Action.state_pure, asked, Start.ahead]

/-- A start on a free adapter comes to what its bargain comes to. -/
theorem startSession_of_free
    {adapter : Adapter}
    (free : host.IsFree id adapter) :
    ((startSession id config host).value,
        (startSession id config host).state) =
      Start.settled { adapter := id, config, capacity } host adapter
        (bargain adapter.handle capacity host.driver) := by
  rw [startSession_eq asked]
  exact Start.ahead_claimingFlag free

end Whole

/-- A start is refused before it calls the driver, and changes nothing, or it
comes to what its bargain comes to. -/
theorem startSession_cases
    (host : Host State)
    (id : AdapterId)
    (config : SessionConfig) :
    (∃ error, (startSession id config host).value = refuse error ∧
      (startSession id config host).state = host) ∨
    ∃ adapter capacity, host.IsFree id adapter ∧
      Start.capacity? (Driver.capacityBounds host.driver) config =
        .ok capacity ∧
      ((startSession id config host).value,
          (startSession id config host).state) =
        Start.settled { adapter := id, config, capacity } host adapter
          (bargain adapter.handle capacity host.driver) := by
  cases asked : Start.capacity? (Driver.capacityBounds host.driver) config with
  | error error =>
      refine .inl ⟨error, ?_, ?_⟩ <;>
        simp only [startSession, Action.value_bind, Action.state_bind,
          Action.value_inspect, Action.state_inspect, Action.value_pure,
          Action.state_pure, asked]
  | ok capacity =>
      by_cases free : ∃ adapter, host.IsFree id adapter
      case pos =>
        obtain ⟨adapter, free⟩ := free
        exact .inr ⟨adapter, capacity, free, rfl,
          startSession_of_free asked free⟩
      case neg =>
        let start : Start := { adapter := id, config, capacity }
        have taken (adapter : Adapter) : ¬ host.IsFree start.adapter adapter :=
          fun here => free ⟨adapter, here⟩
        obtain ⟨error, same⟩ := Start.ahead_of_taken taken
        have refused := (startSession_eq asked).trans same
        rw [Prod.mk.injEq] at refused
        exact .inl ⟨error, refused⟩

end Host
end VirtualAdapter

import VirtualAdapter.Host.Session

/-!
# Calls that block

A blocking call goes on in small steps, between which everything else may
happen.  When it sleeps it says until when; only something that happens
elsewhere, or that moment, lets it go on.
-/

namespace VirtualAdapter
namespace Host

open Signal (Nanoseconds Wait Wakeup)

variable {State : Type}

/-- What a step of a blocking call comes to. -/
inductive Progress (Call Value : Type)
  /-- The call goes on. -/
  | running (call : Call)
  /-- The call sleeps, for ever if no moment is given. -/
  | asleep (call : Call) (until? : Option Nanoseconds)
  /-- The call is over. -/
  | finished (value : Value)

namespace Progress

variable {Call Other Value Result : Type}

/-- The same progress of a call that contains this one. -/
def map
    (call : Call → Other)
    (value : Value → Result) : Progress Call Value → Progress Other Result
  | running state => running (call state)
  | asleep state moment => asleep (call state) moment
  | finished result => finished (value result)

/-- The result, if there is one. -/
def value? : Progress Call Value → Option Value
  | finished value => some value
  | _ => none

end Progress

variable {Call Value : Type}

/-- Take steps until the call sleeps or is over, at most `limit` of them, with
what was left behind before them, last things first. -/
def proceedAfter
    (step : Call → Action (Host State) (Progress Call Value)) :
    (limit : Nat) →
    Call →
    Host State →
    List Note →
    Reply (Host State) (Progress Call Value)
  | 0, call, host, earlier => ⟨.running call, host, earlier.reverse⟩
  | limit + 1, call, host, earlier =>
      let reply := step call host
      let notes := reply.notes.reverseAux earlier
      match reply.value with
      | .running next => proceedAfter step limit next reply.state notes
      | progress => ⟨progress, reply.state, notes.reverse⟩

/-- Take steps until the call sleeps or is over, at most `limit` of them. -/
def proceed
    (step : Call → Action (Host State) (Progress Call Value))
    (limit : Nat)
    (call : Call) : Action (Host State) (Progress Call Value) :=
  fun host => proceedAfter step limit call host []

/-- What was left behind before the steps comes before what they leave. -/
theorem proceedAfter_eq_proceed
    (step : Call → Action (Host State) (Progress Call Value))
    (limit : Nat)
    (call : Call)
    (host : Host State)
    (earlier : List Note) :
    proceedAfter step limit call host earlier =
      { proceed step limit call host with
        notes := earlier.reverse ++ (proceed step limit call host).notes } := by
  unfold proceed
  induction limit generalizing call host earlier with
  | zero => simp [proceedAfter]
  | succ limit hypothesis =>
      unfold proceedAfter
      simp only
      split
      · rw [hypothesis, hypothesis _ _ (List.reverseAux _ [])]
        simp [List.reverseAux_eq]
      · simp [List.reverseAux_eq]

/-- Steps follow one another as actions do. -/
theorem proceed_succ
    (step : Call → Action (Host State) (Progress Call Value))
    (limit : Nat)
    (call : Call) :
    proceed step (limit + 1) call = (do
      match ← step call with
      | .running next => proceed step limit next
      | progress => return progress) := by
  funext host
  show proceedAfter step (limit + 1) call host [] =
    Action.andThen (step call) _ host
  unfold proceedAfter Action.andThen
  simp only
  split
  · rename_i running
    rw [proceedAfter_eq_proceed]
    simp [running, List.reverseAux_eq]
  · simp [List.reverseAux_eq, pure, Action.answer]

/-- Let time pass up to a moment. -/
def passTime (moment : Nanoseconds) : Action (Host State) Unit :=
  Action.change fun host => { host with clock := max host.clock moment }

/-- A step after which a sleeping call goes on at the moment up to which it
sleeps. -/
def untroubled
    (step : Call → Action (Host State) (Progress Call Value))
    (call : Call) : Action (Host State) (Progress Call Value) := do
  match ← step call with
  | .asleep next (some moment) => do
      passTime moment
      return .running next
  | progress => return progress

/-- Take steps until the call is over, letting time pass while it sleeps. -/
def complete
    (step : Call → Action (Host State) (Progress Call Value))
    (limit : Nat)
    (call : Call) : Action (Host State) (Progress Call Value) :=
  proceed (untroubled step) limit call

/-- More steps than any call takes that does not go on for ever. -/
def patience : Nat := 1000000000

/-- The steps that a thread takes in one turn; one that still has something to
do then goes on in its next turn. -/
def turn : Nat := 4000000

/-- The present moment. -/
def now : Action (Host State) Nanoseconds :=
  Action.inspect (·.clock)

/-- The moment at which a call that is limited in time is given up.  A call
breaks off if the clock cannot name it. -/
def deadlineOf (timeout : Option Nanoseconds) :
    Action (Host State) (Option Nanoseconds) := do
  let start ← now
  return timeout.map (start + ·)

variable [Driver State]

/-- Begin to wait for an event of a session, its shutdown cancelling the wait. -/
def beginWait
    (own : EventHandle)
    (session : Session)
    (interrupt : Option EventHandle)
    (timeout : Option Nanoseconds) : Action (Host State) (Outcome WaitStart) := do
  let start ← now
  ask (Driver.beginWait own session.shutdownEvent interrupt timeout start)

/-- One step of a wait. -/
def stepWait (wait : Wait) : Action (Host State) (Progress Wait Wakeup) :=
  fun host =>
    if Driver.isWaitAsleep wait host.clock host.driver then
      ⟨.asleep wait wait.watch.deadline, host, []⟩
    else
      let (next, driver) := Driver.stepWait wait host.clock host.driver
      let progress :=
        match next.outcome? with
        | some outcome => .finished outcome
        | none => .running next
      ⟨progress, { host with driver }, []⟩

end Host
end VirtualAdapter

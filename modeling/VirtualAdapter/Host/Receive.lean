import VirtualAdapter.Host.WaitReadable

/-!
# Receiving with a wait

A receiver looks for a packet several times before it sleeps, and starts over
when it is woken.  Looks take time, so one that is woken again and again for
nothing reaches its deadline.  A receiver whose deadline the clock cannot name
breaks off before it looks.
-/

namespace VirtualAdapter
namespace Host

open Signal (Nanoseconds Wait isNameable)

variable {State : Type} [Driver State]

/-- Where a receiver is. -/
inductive ReceivePhase
  /-- The clock cannot name its deadline, and it is about to break off. -/
  | breaking
  /-- It is about to look, after a number of looks in this round. -/
  | looking (looks : Nat)
  /-- It is about to wait. -/
  | beginning
  /-- It waits. -/
  | waiting (wait : Wait)

/-- Where a receiver with a deadline starts. -/
def ReceivePhase.first (deadline : Option Nanoseconds) : ReceivePhase :=
  if isNameable deadline then .looking 0 else .breaking

theorem ReceivePhase.first_of_nameable
    {deadline : Option Nanoseconds}
    (nameable : isNameable deadline = true) :
    ReceivePhase.first deadline = .looking 0 :=
  if_pos nameable

theorem ReceivePhase.first_of_unnameable
    {deadline : Option Nanoseconds}
    (unnameable : isNameable deadline = false) :
    ReceivePhase.first deadline = .breaking :=
  if_neg (Bool.eq_false_iff.mp unnameable)

/-- A receiver on its way. -/
structure Receive where
  /-- What it asks for. -/
  terms : WaitTerms
  /-- The number of looks in a round, at least one. -/
  rounds : Nat
  /-- Where it is. -/
  phase : ReceivePhase := .looking 0

namespace Receive

/-- The receiver waiting for events. -/
def waitingOn (call : Receive) (wait : Wait) : Receive :=
  { call with phase := .waiting wait }

/-- How long a look takes. -/
def lookTime : Nanoseconds := 1000

/-- The receiver was woken and looks for the whole of a round. -/
def lookAgain (call : Receive) :
    Action (Host State) (Progress Receive (Outcome PacketId)) := do
  passTime ((← now) + call.rounds * lookTime)
  return .running { call with phase := .looking 0 }

/-- What follows when a wait is over. -/
def afterWait (call : Receive) :
    Progress Wait (Outcome Bool) →
    Action (Host State) (Progress Receive (Outcome PacketId))
  | .running wait => return .running (call.waitingOn wait)
  | .asleep wait moment => return .asleep (call.waitingOn wait) moment
  | .finished (.error failure) => return .finished (.error failure)
  | .finished (.ok false) => return .finished (refuse .timedOut)
  | .finished (.ok true) => call.lookAgain

/-- One step of a receiver. -/
def step (call : Receive) :
    Action (Host State) (Progress Receive (Outcome PacketId)) := do
  match call.phase with
  | .breaking => return .finished (.error .beyondClock)
  | .looking looks =>
      match ← tryReceive call.terms.session with
      | .error (.refused .wouldBlock) =>
          let phase :=
            if looks + 1 < call.rounds then .looking (looks + 1)
            else .beginning
          return .running { call with phase }
      | outcome => return .finished outcome
  | .beginning => do call.afterWait (← beginUntil call.terms)
  | .waiting wait => do call.afterWait (← stepUntil wait)

end Receive

/-- A receiver with a limited time or none. -/
def receive
    (session : SessionId)
    (interrupt : Option EventHandle)
    (timeout : Option Nanoseconds) : Action (Host State) Receive := do
  let spins :=
    ((← session? session).map (·.config.spinCount.toNat)).getD 0
  let deadline ← deadlineOf timeout
  return {
    terms := { session, interrupt, deadline }
    rounds := max spins 1
    phase := .first deadline }

end Host
end VirtualAdapter

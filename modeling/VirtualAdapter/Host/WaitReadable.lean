import VirtualAdapter.Host.Progress

/-!
# Waiting for packets

A wait for packets ends when the driver's event is set, refuses when the
session is shut down or the caller's event is set, and answers `false` when
its time is over.  A deadline that has passed is noticed before any event is
looked at.  A wait whose deadline the clock cannot name breaks off once it has
seen that the session is open.
-/

namespace VirtualAdapter
namespace Host

open Signal (Nanoseconds Wait Wakeup isNameable)

variable {State : Type} [Driver State]

/-- What a waiter asks for. -/
structure WaitTerms where
  /-- The session. -/
  session : SessionId
  /-- The caller's own event, if there is one. -/
  interrupt : Option EventHandle := none
  /-- The moment at which the wait is given up, if there is one. -/
  deadline : Option Nanoseconds := none

/-- How a wait for packets answers. -/
def answerOf : Wakeup → Outcome Bool
  | .ready => .ok true
  | .cancelled => refuse .sessionEnded
  | .interrupted => refuse .interrupted
  | .timedOut => .ok false

/-- What is left until a deadline; nothing if it has passed. -/
def remaining
    (deadline : Option Nanoseconds)
    (present : Nanoseconds) : Option (Option Nanoseconds) :=
  match deadline with
  | none => some none
  | some moment =>
      if moment ≤ present then none else some (some (moment - present))

/-- Begin a wait, unless its deadline has passed. -/
def beginUntil (terms : WaitTerms) :
    Action (Host State) (Progress Wait (Outcome Bool)) := do
  match ← session? terms.session with
  | none => return .finished (refuse .sessionEnded)
  | some session =>
      match remaining terms.deadline (← now) with
      | none => return .finished (.ok false)
      | some timeout =>
          match ← beginWait session.readEvent session terms.interrupt timeout with
          | .error failure => return .finished (.error failure)
          | .ok (.over outcome) => return .finished (answerOf outcome)
          | .ok (.waiting wait) => return .running wait

/-- One step of a wait that was begun. -/
def stepUntil (wait : Wait) :
    Action (Host State) (Progress Wait (Outcome Bool)) := do
  return (← stepWait wait).map id answerOf

/-- Where a wait for packets is. -/
inductive WaitPhase
  /-- The shutdown is about to be looked at. -/
  | checking
  /-- The wait is about to begin. -/
  | beginning
  /-- The wait goes on. -/
  | waiting (wait : Wait)

/-- A wait for packets on its way. -/
structure WaitReadable where
  /-- What was asked for. -/
  terms : WaitTerms
  /-- Where it is. -/
  phase : WaitPhase := .checking

namespace WaitReadable

/-- The wait with a wait for events in it. -/
def waitingOn (call : WaitReadable) (wait : Wait) : WaitReadable :=
  { call with phase := .waiting wait }

/-- One step of a wait for packets. -/
def step (call : WaitReadable) :
    Action (Host State) (Progress WaitReadable (Outcome Bool)) := do
  match call.phase with
  | .checking =>
      match ← whileOpen call.terms.session fun _ => return .ok () with
      | .error failure => return .finished (.error failure)
      | .ok () =>
          if isNameable call.terms.deadline then
            return .running { call with phase := .beginning }
          else return .finished (.error .beyondClock)
  | .beginning =>
      return (← beginUntil call.terms).map call.waitingOn id
  | .waiting wait =>
      return (← stepUntil wait).map call.waitingOn id

end WaitReadable

/-- A wait for packets with a limited time or none. -/
def waitReadable
    (session : SessionId)
    (interrupt : Option EventHandle)
    (timeout : Option Nanoseconds) : Action (Host State) WaitReadable := do
  return { terms := { session, interrupt, deadline := ← deadlineOf timeout } }

end Host
end VirtualAdapter

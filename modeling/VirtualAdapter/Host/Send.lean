import VirtualAdapter.Host.WaitReadable

/-!
# Sending with a wait

A sender that finds the ring full waits and tries again: one kind a limited
number of times, the other until its own event or the shutdown ends it.
-/

namespace VirtualAdapter
namespace Host

open Signal (Nanoseconds Wait Wakeup)

variable {State : Type} [Driver State]

/-- Where a sender is. -/
inductive SendPhase
  /-- It is about to try, after a number of tries. -/
  | trying (tries : Nat)
  /-- It sleeps up to a moment, after a number of tries. -/
  | resting (tries : Nat) (moment : Nanoseconds)

/-- A sender that tries a limited number of times. -/
structure Send where
  /-- The session. -/
  session : SessionId
  /-- The packet. -/
  content : Bytes
  /-- The choices of the session. -/
  config : SessionConfig
  /-- Where it is. -/
  phase : SendPhase := .trying 0

namespace Send

/-- One step of a sender. -/
def step (call : Send) :
    Action (Host State) (Progress Send (Outcome Unit)) := do
  match call.phase with
  | .trying tries =>
      match ← trySend call.session call.content with
      | .error (.refused (.resourceExhausted _)) =>
          if tries < call.config.sendRetries.toNat then
            let moment := (← now) + call.config.sendBackoff
            return .running { call with phase := .resting (tries + 1) moment }
          else
            Action.trace .debug "send ring stayed full"
              [("attempts", toString (UInt32.ofNat (tries + 1)))]
            return .finished (refuse .timedOut)
      | outcome => return .finished outcome
  | .resting tries moment =>
      if moment ≤ (← now) then
        return .running { call with phase := .trying tries }
      else return .asleep call (some moment)

end Send

/-- A sender with the choices of its session. -/
def send
    (session : SessionId)
    (content : Bytes) : Action (Host State) Send := do
  let config := ((← session? session).map (·.config)).getD {}
  return { session, content, config }

/-- Where a sender is that can be interrupted. -/
inductive SendInterruptiblePhase
  /-- It is about to try. -/
  | trying
  /-- It is about to wait. -/
  | beginning
  /-- It waits. -/
  | waiting (wait : Wait)

/-- A sender that tries until it is interrupted. -/
structure SendInterruptible where
  /-- The session. -/
  session : SessionId
  /-- The packet. -/
  content : Bytes
  /-- The caller's own event. -/
  interrupt : EventHandle
  /-- Where it is. -/
  phase : SendInterruptiblePhase := .trying

namespace SendInterruptible

/-- What follows when a wait is over. -/
def afterWait (call : SendInterruptible) :
    Wakeup → Progress SendInterruptible (Outcome Unit)
  | .ready | .interrupted => .finished (refuse .interrupted)
  | .cancelled => .finished (refuse .sessionEnded)
  | .timedOut => .running { call with phase := .trying }

/-- One step of a sender. -/
def step (call : SendInterruptible) :
    Action (Host State) (Progress SendInterruptible (Outcome Unit)) := do
  match call.phase with
  | .trying =>
      match ← trySend call.session call.content with
      | .error (.refused (.resourceExhausted _)) =>
          return .running { call with phase := .beginning }
      | outcome => return .finished outcome
  | .beginning =>
      match ← session? call.session with
      | none => return .finished (refuse .sessionEnded)
      | some session =>
          match ← beginWait call.interrupt session none
              (some session.config.sendBackoff) with
          | .error failure => return .finished (.error failure)
          | .ok (.over outcome) => return call.afterWait outcome
          | .ok (.waiting wait) =>
              return .running { call with phase := .waiting wait }
  | .waiting wait =>
      match ← stepWait wait with
      | .running next => return .running { call with phase := .waiting next }
      | .asleep next moment =>
          return .asleep { call with phase := .waiting next } moment
      | .finished outcome => return call.afterWait outcome

end SendInterruptible

/-- A sender that can be interrupted. -/
def sendInterruptible
    (session : SessionId)
    (content : Bytes)
    (interrupt : EventHandle) : SendInterruptible :=
  { session, content, interrupt }

end Host
end VirtualAdapter

import VirtualAdapter.Host.Send

/-!
# Sessions in asynchronous programs

A future goes on when it is polled.  A receiving future lets another thread
wait for packets; that wait only observes, and it goes on also when the future
is dropped, until the next packet or the shutdown.
-/

namespace VirtualAdapter
namespace Host

open Signal (Nanoseconds isNameable)

variable {State : Type} [Driver State]

/-- The failure of a future whose waiting thread failed. -/
def joinFailure : Failure → Failure
  | .refused error => .refused error
  | .crashed message =>
      .refused (.io (.custom .other
        ("task N panicked with message " ++ Text.quoted message)))

/-- Where a receiving future is. -/
inductive ReceivePoint
  /-- The clock cannot name its deadline, and it is about to break off. -/
  | breaking
  /-- It is about to look for a packet. -/
  | looking
  /-- It found none and is about to look at the time. -/
  | checkingTime
  /-- Another thread waits for it. -/
  | waiting (call : WaitReadable)

/-- Where a receiving future with a deadline starts. -/
def ReceivePoint.first (deadline : Option Nanoseconds) : ReceivePoint :=
  if isNameable deadline then .looking else .breaking

theorem ReceivePoint.first_of_nameable
    {deadline : Option Nanoseconds}
    (nameable : isNameable deadline = true) :
    ReceivePoint.first deadline = .looking :=
  if_pos nameable

theorem ReceivePoint.first_of_unnameable
    {deadline : Option Nanoseconds}
    (unnameable : isNameable deadline = false) :
    ReceivePoint.first deadline = .breaking :=
  if_neg (Bool.eq_false_iff.mp unnameable)

/-- A receiving future. -/
structure ReceiveFuture where
  /-- The session. -/
  session : SessionId
  /-- The moment at which it is given up, if there is one. -/
  deadline : Option Nanoseconds
  /-- Where it is. -/
  point : ReceivePoint := .looking

namespace ReceiveFuture

/-- The future with a thread waiting for it. -/
def waitingOn (future : ReceiveFuture) (call : WaitReadable) : ReceiveFuture :=
  { future with point := .waiting call }

/-- The bytes of a packet that is given back at once. -/
def consume (packet : PacketId) : Action (Host State) Bytes := do
  match ← packet? packet with
  | none => return []
  | some held =>
      let content ← Action.inspect fun host => host.packetBytes held
      finishPacket packet
      return content

/-- How long it takes to hand a wait to another thread and back. -/
def handoverTime : Nanoseconds := 10000

/-- The future was woken and looks for a packet. -/
def lookAgain (future : ReceiveFuture) :
    Action (Host State) (Progress ReceiveFuture (Outcome Bytes)) := do
  passTime ((← now) + handoverTime)
  return .running { future with point := .looking }

/-- One step of a receiving future. -/
def step (future : ReceiveFuture) :
    Action (Host State) (Progress ReceiveFuture (Outcome Bytes)) := do
  match future.point with
  | .breaking => return .finished (.error .beyondClock)
  | .looking =>
      match ← tryReceive future.session with
      | .ok packet => return .finished (.ok (← consume packet))
      | .error (.refused .wouldBlock) =>
          return .running { future with point := .checkingTime }
      | .error failure => return .finished (.error failure)
  | .checkingTime =>
      match remaining future.deadline (← now) with
      | none => return .finished (refuse .timedOut)
      | some timeout =>
          let call ← waitReadable future.session none timeout
          return .running (future.waitingOn call)
  | .waiting call =>
      match ← call.step with
      | .running next => return .running (future.waitingOn next)
      | .asleep next moment => return .asleep (future.waitingOn next) moment
      | .finished (.ok true) => future.lookAgain
      | .finished (.ok false) => return .finished (refuse .timedOut)
      | .finished (.error failure) =>
          return .finished (.error (joinFailure failure))

/-- The wait that goes on when the future is dropped. -/
def abandoned? (future : ReceiveFuture) : Option WaitReadable :=
  match future.point with
  | .waiting call => some call
  | _ => none

end ReceiveFuture

/-- A receiving future with a limited time or none. -/
def receiveAsync
    (session : SessionId)
    (timeout : Option Nanoseconds) : Action (Host State) ReceiveFuture := do
  let deadline ← deadlineOf timeout
  return { session, deadline, point := .first deadline }

/-- A sending future. -/
structure SendFuture where
  /-- The session. -/
  session : SessionId
  /-- The packet. -/
  content : Bytes
  /-- How often it may still try again. -/
  retriesLeft : Nat
  /-- How long it rests before it does. -/
  backoff : Nanoseconds
  /-- The moment up to which it rests, if it does. -/
  restingUntil : Option Nanoseconds := none

namespace SendFuture

/-- Try to send once. -/
def attempt (future : SendFuture) :
    Action (Host State) (Progress SendFuture (Outcome Unit)) := do
  match ← trySend future.session future.content with
  | .error (.refused (.resourceExhausted _)) =>
      match future.retriesLeft with
      | 0 => return .finished (refuse .timedOut)
      | left + 1 =>
          let moment := (← now) + future.backoff
          return .running
            { future with retriesLeft := left, restingUntil := some moment }
  | outcome => return .finished outcome

/-- One step of a sending future. -/
def step (future : SendFuture) :
    Action (Host State) (Progress SendFuture (Outcome Unit)) := do
  match future.restingUntil with
  | none => future.attempt
  | some moment =>
      if moment ≤ (← now) then
        return .running { future with restingUntil := none }
      else return .asleep future (some moment)

end SendFuture

/-- A sending future with the choices of its session. -/
def sendAsync
    (session : SessionId)
    (content : Bytes) : Action (Host State) SendFuture := do
  let config := ((← session? session).map (·.config)).getD {}
  return {
    session, content
    retriesLeft := config.sendRetries.toNat
    backoff := config.sendBackoff }

end Host
end VirtualAdapter

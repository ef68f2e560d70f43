import VirtualAdapter.Host.AsyncSession
import VirtualAdapter.Host.Receive

/-!
# Blocking calls of every kind

One type for all calls that can sleep, so that each of them can be carried out
to its end or left asleep and gone on with later.
-/

namespace VirtualAdapter
namespace Host

variable {State : Type} [Driver State]

/-- A call that can sleep. -/
inductive Blocking
  | receive (call : Receive)
  | copy (call : Receive) (buffer : Bytes)
  | wait (call : WaitReadable)
  | send (call : Send)
  | sendInterruptible (call : SendInterruptible)
  | receiveAsync (future : ReceiveFuture)
  | sendAsync (future : SendFuture)

/-- What a call that can sleep comes to. -/
inductive BlockingResult
  | received (outcome : Outcome PacketId)
  | copied (copied : Copied)
  | readable (outcome : Outcome Bool)
  | sent (outcome : Outcome Unit)
  | consumed (outcome : Outcome Bytes)

namespace Blocking

/-- One step of a receiver that copies what it gets. -/
def stepCopy (call : Receive) (buffer : Bytes) :
    Action (Host State) (Progress Blocking BlockingResult) := do
  match ← call.step with
  | .running next => return .running (.copy next buffer)
  | .asleep next moment => return .asleep (.copy next buffer) moment
  | .finished outcome => return .finished (.copied (← copyOut outcome buffer))

/-- One step of a call. -/
def step : Blocking →
    Action (Host State) (Progress Blocking BlockingResult)
  | .receive call => do return (← call.step).map .receive .received
  | .copy call buffer => stepCopy call buffer
  | .wait call => do return (← call.step).map .wait .readable
  | .send call => do return (← call.step).map .send .sent
  | .sendInterruptible call => do
      return (← call.step).map .sendInterruptible .sent
  | .receiveAsync future => do
      return (← future.step).map .receiveAsync .consumed
  | .sendAsync future => do return (← future.step).map .sendAsync .sent

/-- Carry a call out to its end; there is none if it sleeps for ever. -/
def toEnd (call : Blocking) : Action (Host State) (Option BlockingResult) := do
  return (← complete step patience call).value?

/-- Carry a call out until it sleeps or is over, for one turn at most. -/
def toSleep (call : Blocking) :
    Action (Host State) (Progress Blocking BlockingResult) :=
  proceed step turn call

end Blocking
end Host
end VirtualAdapter

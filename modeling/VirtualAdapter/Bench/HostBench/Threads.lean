import VirtualAdapter.Bench.HostBench.Traffic

/-!
# A bench for the host side: pumps, asynchronous sessions and parked calls
-/

namespace VirtualAdapter
namespace Bench
namespace HostBench

open Host
open Signal (Nanoseconds)

/-- Mark a pump as taken. -/
def takePump (id : String) : Action HostBench Unit :=
  Action.change fun bench =>
    { bench with
      pumps := bench.pumps.update id fun entry => { entry with taken := true } }

/-- Wait until a pump is over and answer what it delivered. -/
def joinPump (id : String) (entry : BenchPump) : Action HostBench HostAnswer := do
  let pump ← runPump patience id entry
  takePump id
  match pump.result? with
  | none => return .endless
  | some outcome => conclude outcome fun delivered => return .number delivered

/-- Shut the session of a pump down and wait until the pump is over. -/
def stopPump (id : String) (entry : BenchPump) : Action HostBench HostAnswer := do
  conclude (← onHost (Host.shutdown entry.pump.session)) fun () =>
    joinPump id entry

/-- Go on with a pump that was not taken. -/
def withPump
    (id : String)
    (continuation : BenchPump → Action HostBench HostAnswer) :
    Action HostBench HostAnswer :=
  bound (·.pumps) id fun entry =>
    if entry.taken then return .unbound id else continuation entry

/-- Start a pump on a session. -/
def newPump (name id : String) (echo : Bool) (breakOn : Option UInt8) :
    Action HostBench HostAnswer :=
  bound (·.sessions) name fun session => do
    let old ← Action.inspect fun bench => bench.pumps.get? id
    match old with
    | some entry =>
        if !entry.taken then
          let _ ← stopPump id entry
    | none => pure ()
    Action.change fun bench =>
      { bench with
        pumps := bench.pumps.insert id
          { pump := .ofSession session, echo, breakOn } }
    return .done

/-- Show a pump. -/
def viewPump (id : String) : Action HostBench HostAnswer :=
  bound (·.pumps) id fun entry =>
    return .pump (if entry.taken then none else some entry.pump.isFinished)
      entry.pump.seen

/-- Let go of an asynchronous session, which shuts its session down. -/
def dropWrapper (session : SessionId) : Action (Host BenchDriver) Unit := do
  let _ ← Host.shutdown session

/-- Make an asynchronous session; one that owns its session has to be the first
to use it. -/
def newWrapper (name id : String) (owned : Bool) : Action HostBench HostAnswer :=
  bound (·.sessions) name fun session => do
    let bench ← Action.current
    if owned && (bench.isShared session || bench.isKept session) then
      return .busy
    else
      let old := bench.wrappers.get? id
      Action.change fun bench =>
        { bench with wrappers := bench.wrappers.insert id session }
      replaced old dropWrapper
      return .done

/-- Receive through an asynchronous session. -/
def asyncReceive (id : String) (timeout : Option Nanoseconds) :
    Action HostBench HostAnswer :=
  bound (·.wrappers) id fun session => do
    let future ← onHost (Host.receiveAsync session timeout)
    answerResult showAndRelease (← onHost (Blocking.receiveAsync future).toEnd)

/-- The steps that a future takes before it is dropped. -/
def pollSteps : Nat := 8000

/-- Poll a receiving future until it sleeps or has taken its steps, and drop
it. -/
def asyncAbandon (id : String) : Action HostBench HostAnswer :=
  bound (·.wrappers) id fun session => do
    let future ← onHost (Host.receiveAsync session none)
    match ← onHost (proceed ReceiveFuture.step pollSteps future) with
    | .finished outcome =>
        conclude outcome fun content => return .received content
    | .running next | .asleep next _ =>
        Action.change fun bench =>
          { bench with abandoned := bench.abandoned ++ next.abandoned?.toList }
        return .abandoned

/-- Send through an asynchronous session. -/
def asyncSend (id : String) (content : Bytes) : Action HostBench HostAnswer :=
  bound (·.wrappers) id fun session => do
    let future ← onHost (Host.sendAsync session content)
    answerResult showAndRelease (← onHost (Blocking.sendAsync future).toEnd)

/-- Drop an asynchronous session. -/
def asyncDrop (id : String) : Action HostBench HostAnswer :=
  bound (·.wrappers) id fun session => do
    onHost (dropWrapper session)
    Action.change fun bench =>
      { bench with wrappers := bench.wrappers.erase id }
    return .done

/-- Answer what a parked call came to and let go of what its thread held. -/
def leaveParked
    (request : BlockingRequest)
    (session : SessionId)
    (result : Option BlockingResult) : Action HostBench HostAnswer := do
  let answer ← answerResult showAndRelease result
  match request.kind with
  | .receiveAsync => onHost (dropWrapper session)
  | _ => pure ()
  return answer

/-- Make a call on another thread, carry a command out once it sleeps or is
over, and answer both.  A call that is over has let go of everything before the
command; one that sleeps keeps its session until it is over. -/
def parked
    (request : BlockingRequest)
    (wake : Action HostBench HostAnswer) : Action HostBench HostAnswer :=
  withCall request fun session call => do
    match ← (onHost call.toSleep).untraced with
    | .finished result =>
        let answer ← (leaveParked request session (some result)).untraced
        return .parked (← wake) answer
    | .running call | .asleep call _ =>
        Action.change fun bench =>
          { bench with parkedOn := session :: bench.parkedOn }
        let woken ← wake
        endUnreferred
        Action.change fun bench =>
          { bench with parkedOn := bench.parkedOn.tail }
        let answer ← Action.untraced do
          let answer ← leaveParked request session (← onHost call.toEnd)
          endUnreferred
          return answer
        return .parked woken answer

end HostBench
end Bench
end VirtualAdapter

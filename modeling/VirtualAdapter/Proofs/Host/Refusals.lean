import VirtualAdapter.Host.Blocking
import VirtualAdapter.Proofs.Action

/-!
# Calls on a session that is closed

A session is closed when its shutdown was signalled and also when it has ended.
Fourteen calls can be made on a session, with any arguments; on one that is
closed each of them is refused by its first step, which changes nothing.  Three
of them find their deadline before they look at the session: if the clock cannot
name it they break off instead, whether the session is closed or not.
-/

namespace VirtualAdapter
namespace Host

open Signal (Nanoseconds isNameable)

/-- A call on a session, with its arguments. -/
inductive Entry
  /-- Borrow a received packet. -/
  | tryReceive
  /-- Borrow one, waiting for it. -/
  | receive (timeout : Option Nanoseconds)
  | receiveInterruptible
      (interrupt : EventHandle)
      (timeout : Option Nanoseconds)
  /-- Copy a received packet into a buffer, waiting for it. -/
  | receiveInto (buffer : Bytes)
  | tryReceiveInto (buffer : Bytes)
  /-- Wait for a packet without taking it. -/
  | waitReadable (timeout : Option Nanoseconds)
  | waitReadableInterruptible
      (interrupt : EventHandle)
      (timeout : Option Nanoseconds)
  /-- Borrow a buffer to be sent. -/
  | allocateSend (size : Nat)
  | trySend (content : Bytes)
  /-- Send a packet, trying a limited number of times. -/
  | send (content : Bytes)
  | sendInterruptible (content : Bytes) (interrupt : EventHandle)
  /-- Receive in an asynchronous program. -/
  | receiveAsync
  | receiveAsyncWithin (timeout : Nanoseconds)
  | sendAsync (content : Bytes)

/-- What has become of a call when it was made. -/
inductive Opened
  /-- It is closed. -/
  | finished (result : BlockingResult)
  /-- It goes on step by step. -/
  | going (call : Blocking)

variable {State : Type} [Driver State]

/-- Carry a call out to its end. -/
def Opened.toEnd : Opened → Action (Host State) (Option BlockingResult)
  | finished result => return some result
  | going call => call.toEnd

namespace Entry

/-- Make a call on a session. -/
def begin (id : SessionId) : Entry → Action (Host State) Opened
  | tryReceive => do return .finished (.received (← Host.tryReceive id))
  | receive timeout => do
      return .going (.receive (← Host.receive id none timeout))
  | receiveInterruptible interrupt timeout => do
      return .going (.receive (← Host.receive id (some interrupt) timeout))
  | receiveInto buffer => do
      return .going (.copy (← Host.receive id none none) buffer)
  | tryReceiveInto buffer => do
      return .finished (.copied (← Host.tryReceiveInto id buffer))
  | waitReadable timeout => do
      return .going (.wait (← Host.waitReadable id none timeout))
  | waitReadableInterruptible interrupt timeout => do
      return .going (.wait (← Host.waitReadable id (some interrupt) timeout))
  | allocateSend size => do
      return .finished (.received (← Host.allocateSend id size))
  | trySend content => do return .finished (.sent (← Host.trySend id content))
  | send content => do return .going (.send (← Host.send id content))
  | sendInterruptible content interrupt =>
      return .going (.sendInterruptible
        (Host.sendInterruptible id content interrupt))
  | receiveAsync => do
      return .going (.receiveAsync (← Host.receiveAsync id none))
  | receiveAsyncWithin timeout => do
      return .going (.receiveAsync (← Host.receiveAsync id (some timeout)))
  | sendAsync content => do
      return .going (.sendAsync (← Host.sendAsync id content))

/-- Make a call on a session and carry it out to its end. -/
def call
    (id : SessionId)
    (entry : Entry) : Action (Host State) (Option BlockingResult) := do
  (← entry.begin id).toEnd

/-- The answer of a call that finds the session closed; a buffer that was to be
filled is left as it was. -/
def refusal : Entry → BlockingResult
  | tryReceive | receive _ | receiveInterruptible _ _ | allocateSend _ =>
      .received (refuse .sessionEnded)
  | receiveInto buffer | tryReceiveInto buffer =>
      .copied ⟨refuse .sessionEnded, buffer⟩
  | waitReadable _ | waitReadableInterruptible _ _ =>
      .readable (refuse .sessionEnded)
  | trySend _ | send _ | sendInterruptible _ _ | sendAsync _ =>
      .sent (refuse .sessionEnded)
  | receiveAsync | receiveAsyncWithin _ => .consumed (refuse .sessionEnded)

/-- The limit of a call that finds its deadline before it looks at the
session. -/
def limit : Entry → Option Nanoseconds
  | receive timeout | receiveInterruptible _ timeout => timeout
  | receiveAsyncWithin timeout => some timeout
  | _ => none

/-- A call that is made at a moment does not break off over its limit. -/
def isTimely (entry : Entry) (present : Nanoseconds) : Bool :=
  isNameable (entry.limit.map (present + ·))

end Entry

/-- A session is closed: it has ended, or the event of its shutdown is set, and
looking at the event changes nothing. -/
def IsClosed (id : SessionId) (host : Host State) : Prop :=
  ∀ session, host.sessions.get? id = some session →
    Driver.isEventSet session.shutdownEvent host.driver =
      ⟨true, host.driver, []⟩

/-- A call whose first step ends it is carried out by that step. -/
theorem toEnd_of_finished
    {host next : Host State}
    {call : Blocking}
    {result : BlockingResult}
    (finished : call.step host = ⟨.finished result, next, []⟩) :
    call.toEnd host = ⟨some result, next, []⟩ := by
  have untroubled : untroubled Blocking.step call host =
      ⟨.finished result, next, []⟩ := by
    unfold untroubled
    exact Action.bind_of_reply finished _
  have complete : complete Blocking.step patience call host =
      ⟨.finished result, next, []⟩ := by
    have some_step : patience = (patience - 1) + 1 := rfl
    unfold complete
    rw [some_step, proceed_succ]
    exact Action.bind_of_reply untroubled _
  unfold Blocking.toEnd
  exact Action.bind_of_reply complete _

/-! ## Calls that break off -/

section Breaking

variable
  {id : SessionId}
  {interrupt : Option EventHandle}
  {deadline : Option Nanoseconds}

end Breaking

namespace Entry

variable {id : SessionId} {host : Host State}

/-- A call that is made and ended by its first step, with the host as it was. -/
theorem call_of_finished
    {entry : Entry}
    {call : Blocking}
    {result : BlockingResult}
    (begun : entry.begin id host = ⟨.going call, host, []⟩)
    (finished : call.step host = ⟨.finished result, host, []⟩) :
    entry.call id host = ⟨some result, host, []⟩ :=
  (Action.bind_of_reply begun _).trans (toEnd_of_finished finished)

end Entry

namespace IsClosed

variable {id : SessionId} {host : Host State}

/-! ## The first step of each call -/

theorem whileOpen
    {Value : Type}
    (closed : IsClosed id host)
    (continuation : Session → Action (Host State) (Outcome Value)) :
    Host.whileOpen id continuation host =
      ⟨refuse .sessionEnded, host, []⟩ := by
  have looked : session? id host = ⟨host.sessions.get? id, host, []⟩ := rfl
  unfold Host.whileOpen
  rw [Action.bind_of_reply looked]
  cases found : host.sessions.get? id with
  | none => rfl
  | some session =>
      have set : isShutDown session host = ⟨true, host, []⟩ := by
        unfold isShutDown ask Action.on
        rw [closed session found]
      exact Action.bind_of_reply set _

theorem tryReceive (closed : IsClosed id host) :
    Host.tryReceive id host = ⟨refuse .sessionEnded, host, []⟩ :=
  closed.whileOpen _

theorem tryReceiveInto (closed : IsClosed id host) (buffer : Bytes) :
    Host.tryReceiveInto id buffer host =
      ⟨⟨refuse .sessionEnded, buffer⟩, host, []⟩ :=
  Action.bind_of_reply closed.tryReceive _

theorem allocateSend (closed : IsClosed id host) (size : Nat) :
    Host.allocateSend id size host = ⟨refuse .sessionEnded, host, []⟩ :=
  closed.whileOpen _

theorem trySend (closed : IsClosed id host) (content : Bytes) :
    Host.trySend id content host = ⟨refuse .sessionEnded, host, []⟩ :=
  Action.bind_of_reply (closed.allocateSend _) _

variable {interrupt : Option EventHandle} {deadline : Option Nanoseconds}

theorem receiveStep
    (closed : IsClosed id host)
    (nameable : isNameable deadline = true)
    (rounds : Nat) :
    Receive.step
        { terms := ⟨id, interrupt, deadline⟩, rounds, phase := .first deadline }
        host =
      ⟨.finished (refuse .sessionEnded), host, []⟩ := by
  rw [ReceivePhase.first_of_nameable nameable]
  exact Action.bind_of_reply closed.tryReceive _

theorem waitReadableStep (closed : IsClosed id host) :
    WaitReadable.step { terms := ⟨id, interrupt, deadline⟩ } host =
      ⟨.finished (refuse .sessionEnded), host, []⟩ :=
  Action.bind_of_reply (closed.whileOpen _) _

theorem sendStep
    (closed : IsClosed id host)
    (content : Bytes)
    (config : SessionConfig) :
    Send.step { session := id, content, config } host =
      ⟨.finished (refuse .sessionEnded), host, []⟩ :=
  Action.bind_of_reply (closed.trySend content) _

theorem sendInterruptibleStep
    (closed : IsClosed id host)
    (content : Bytes)
    (interrupt : EventHandle) :
    SendInterruptible.step { session := id, content, interrupt } host =
      ⟨.finished (refuse .sessionEnded), host, []⟩ :=
  Action.bind_of_reply (closed.trySend content) _

theorem receiveFutureStep
    (closed : IsClosed id host)
    (nameable : isNameable deadline = true) :
    ReceiveFuture.step { session := id, deadline, point := .first deadline } host =
      ⟨.finished (refuse .sessionEnded), host, []⟩ := by
  rw [ReceivePoint.first_of_nameable nameable]
  exact Action.bind_of_reply closed.tryReceive _

theorem sendFutureStep
    (closed : IsClosed id host)
    (content : Bytes)
    (retriesLeft : Nat)
    (backoff : Nanoseconds) :
    SendFuture.step { session := id, content, retriesLeft, backoff } host =
      ⟨.finished (refuse .sessionEnded), host, []⟩ :=
  Action.bind_of_reply (closed.trySend content) _

/-! ## Calls of every kind -/

/-- A call that can sleep, whenever it was made, is refused by its first
step. -/
theorem step
    (closed : IsClosed id host)
    (entry : Entry)
    {earlier : Host State}
    {call : Blocking}
    (timely : entry.isTimely earlier.clock = true)
    (begun : (entry.begin id earlier).value = .going call) :
    call.step host = ⟨.finished entry.refusal, host, []⟩ := by
  cases entry with
  | tryReceive | tryReceiveInto _ | allocateSend _ | trySend _ => cases begun
  | receive timeout =>
      cases begun
      exact Action.bind_of_reply (closed.receiveStep timely _) _
  | receiveInterruptible interrupt timeout =>
      cases begun
      exact Action.bind_of_reply (closed.receiveStep timely _) _
  | receiveInto buffer =>
      cases begun
      refine (Action.bind_of_reply (closed.receiveStep timely _) _).trans ?_
      rfl
  | waitReadable timeout =>
      cases begun
      exact Action.bind_of_reply closed.waitReadableStep _
  | waitReadableInterruptible interrupt timeout =>
      cases begun
      exact Action.bind_of_reply closed.waitReadableStep _
  | send content =>
      cases begun
      exact Action.bind_of_reply (closed.sendStep content _) _
  | sendInterruptible content interrupt =>
      cases begun
      exact Action.bind_of_reply
        (closed.sendInterruptibleStep content interrupt) _
  | receiveAsync =>
      cases begun
      exact Action.bind_of_reply (closed.receiveFutureStep timely) _
  | receiveAsyncWithin timeout =>
      cases begun
      exact Action.bind_of_reply (closed.receiveFutureStep timely) _
  | sendAsync content =>
      cases begun
      exact Action.bind_of_reply (closed.sendFutureStep content _ _) _

/-- Every call, carried out to its end, is refused and changes nothing. -/
theorem call
    (closed : IsClosed id host)
    (entry : Entry)
    (timely : entry.isTimely host.clock = true) :
    entry.call id host = ⟨some entry.refusal, host, []⟩ := by
  have going (call : Blocking)
      (begun : entry.begin id host = ⟨.going call, host, []⟩) :
      entry.call id host = ⟨some entry.refusal, host, []⟩ :=
    Entry.call_of_finished begun
      (closed.step entry timely (congrArg Reply.value begun))
  have done (result : BlockingResult)
      (begun : entry.begin id host = ⟨.finished result, host, []⟩) :
      entry.call id host = ⟨some result, host, []⟩ :=
    Action.bind_of_reply begun _
  cases entry with
  | tryReceive => exact done _ (Action.bind_of_reply closed.tryReceive _)
  | tryReceiveInto buffer =>
      exact done _ (Action.bind_of_reply (closed.tryReceiveInto buffer) _)
  | allocateSend size =>
      exact done _ (Action.bind_of_reply (closed.allocateSend size) _)
  | trySend content =>
      exact done _ (Action.bind_of_reply (closed.trySend content) _)
  | _ => exact going _ rfl

end IsClosed
end Host
end VirtualAdapter

import VirtualAdapter.Proofs.Host.Pumped

/-!
# Calls that receive without blocking their thread

Several calls receive on one session.  Each of them is polled from time to time
and may be dropped at any moment; a thread that waits for it only looks at the
events of the session, and goes on also after the drop.  Meanwhile the network
side puts packets in and may take the device away, somebody may shut the session
down, and time passes.  Whatever the order in which all this happens, a packet
is taken only by the poll that returns it.
-/

namespace VirtualAdapter
namespace Host

open Memory (MemoryDriver RunningSession)
open Memory.MemoryDriver (Distinct)
open Pumping (Fresh Receipts Unmoved Unmoving)
open Signal (Nanoseconds isNameable)

/-! ## Polls -/

section Polls

variable {State : Type} [Driver State]

namespace ReceiveFuture

/-- A future that looks goes on until it has answered or waits: it looks for a
packet and, if it finds none, at the time. -/
def poll (future : ReceiveFuture) :
    Action (Host State) (Progress ReceiveFuture (Outcome Bytes)) :=
  proceed step 2 future

/-- A future goes on with what the thread that waited for it has answered. -/
def resume (future : ReceiveFuture) : Outcome Bool →
    Action (Host State) (Progress ReceiveFuture (Outcome Bytes))
  | .ok true => future.lookAgain
  | .ok false => return .finished (refuse .timedOut)
  | .error failure => return .finished (.error (joinFailure failure))

end ReceiveFuture

/-- A call that receives, from its making to its end. -/
inductive AsyncCall
  /-- It was made and not polled yet. -/
  | made (timeout : Option Nanoseconds)
  /-- A thread waits for it. -/
  | parked (future : ReceiveFuture)
  /-- The thread has answered, and it was not polled since. -/
  | woken (future : ReceiveFuture) (outcome : Outcome Bool)
  /-- It has answered. -/
  | completed (outcome : Outcome Bytes)
  /-- It was dropped; the thread that waited for it may go on. -/
  | dropped (wait : Option WaitReadable)

namespace AsyncCall

/-- Where a call is after a poll. -/
def ofProgress : Progress ReceiveFuture (Outcome Bytes) → AsyncCall
  | .running future | .asleep future _ => .parked future
  | .finished outcome => .completed outcome

/-- What a call has received. -/
def payload? : AsyncCall → Option Bytes
  | completed (.ok content) => some content
  | _ => none

/-- A call is polled; nothing happens while a thread waits for it, and a thread
that answers at once has taken its steps before the next poll. -/
def poll (session : SessionId) : AsyncCall → Action (Host State) AsyncCall
  | made timeout => do
      let future ← receiveAsync session timeout
      return ofProgress (← future.poll)
  | woken future outcome => do
      match ← future.resume outcome with
      | .running next => return ofProgress (← next.poll)
      | progress => return ofProgress progress
  | call => return call

/-- The thread that waits for a call takes a step. -/
def observe : AsyncCall → Action (Host State) AsyncCall
  | parked future => do
      match future.abandoned? with
      | none => return parked future
      | some wait =>
          match ← wait.step with
          | .running next | .asleep next _ =>
              return parked (future.waitingOn next)
          | .finished outcome => return woken future outcome
  | dropped (some wait) => do
      match ← wait.step with
      | .running next | .asleep next _ => return dropped (some next)
      | .finished _ => return dropped none
  | call => return call

/-- A call that has not answered is dropped. -/
def drop : AsyncCall → AsyncCall
  | made _ | woken _ _ => dropped none
  | parked future => dropped future.abandoned?
  | call => call

end AsyncCall

end Polls

/-! ## Schedules -/

/-- Something that happens while calls receive on a session. -/
inductive PollMove
  /-- A call is made, with a limited time or none. -/
  | call (timeout : Option Nanoseconds)
  /-- A call is polled. -/
  | poll (index : Nat)
  /-- The thread that waits for a call takes a step. -/
  | observe (index : Nat)
  /-- A call is dropped. -/
  | drop (index : Nat)
  /-- The network side puts a packet in. -/
  | inject (content : Bytes)
  /-- The network side takes the device away. -/
  | fail
  /-- The session is shut down. -/
  | shutdown
  /-- Time passes. -/
  | pass (moment : Nanoseconds)

/-- The call of which something happens. -/
def PollMove.index? : PollMove → Option Nat
  | poll index | observe index | drop index => some index
  | _ => none

/-- A session on which calls receive. -/
structure Polling where
  /-- The host with its driver. -/
  host : Host MemoryDriver
  /-- The calls, in the order in which they were made. -/
  calls : List AsyncCall := []
  /-- What the driver has accepted from the network side, first ones first. -/
  accepted : List Bytes := []
  /-- What calls have answered, first answers first. -/
  returned : List Bytes := []

namespace Polling

/-- Something happens of a call; what it receives by that is noted. -/
def turn
    (polling : Polling)
    (index : Nat)
    (act : AsyncCall → Action (Host MemoryDriver) AsyncCall) : Polling :=
  match polling.calls[index]? with
  | none => polling
  | some call =>
      let reply := act call polling.host
      -- What a call has received before is not returned once more.
      let news :=
        match call.payload? with
        | some _ => []
        | none => reply.value.payload?.toList
      { polling with
        host := reply.state
        calls := polling.calls.set index reply.value
        returned := polling.returned ++ news }

/-- What becomes of it by a move. -/
def play
    (name : String)
    (id : SessionId)
    (polling : Polling) : PollMove → Polling
  | .call timeout =>
      { polling with calls := polling.calls ++ [.made timeout] }
  | .poll index => polling.turn index (·.poll id)
  | .observe index => polling.turn index (·.observe)
  | .drop index => polling.turn index fun call => return call.drop
  | .inject content =>
      let reply := ask (MemoryDriver.inject name content) polling.host
      { polling with
        host := reply.state
        accepted :=
          if reply.value then polling.accepted ++ [content]
          else polling.accepted }
  | .fail =>
      let reply := ask (MemoryDriver.failSession name) polling.host
      { polling with host := reply.state }
  | .shutdown =>
      let reply := Host.shutdown id polling.host
      { polling with host := reply.state }
  | .pass moment =>
      let reply := passTime moment polling.host
      { polling with host := reply.state }

/-- What becomes of it by a schedule, first moves first. -/
def playAll
    (name : String)
    (id : SessionId)
    (polling : Polling)
    (moves : List PollMove) : Polling :=
  moves.foldl (play name id) polling

theorem playAll_append
    (name : String)
    (id : SessionId)
    (polling : Polling)
    (earlier later : List PollMove) :
    polling.playAll name id (earlier ++ later) =
      (polling.playAll name id earlier).playAll name id later :=
  List.foldl_append

/-- The shutdown of a session took effect. -/
def isShut (polling : Polling) (session : Session) : Bool :=
  polling.host.driver.signals.isSet session.shutdownEvent.number

/-! ## What happens of a call -/

variable
  {name : String}
  {id : SessionId}
  {session : Session}
  {host : Host MemoryDriver}
  {entry : RunningSession}
  {stats : SessionStats}
  {accepted : List Bytes}
  {back : Nat}
  {call : AsyncCall}
  {future : ReceiveFuture}

/-- A call that goes on is one of the session, and a thread waits for it if it
is parked. -/
def Attached (id : SessionId) : AsyncCall → Prop
  | .parked future =>
      future.session = id ∧ ∃ wait, future.abandoned? = some wait
  | .woken future _ => future.session = id
  | _ => True

/-- What becomes of a call: a packet is taken only by the answer that returns
it. -/
inductive CallTurn
    (name : String)
    (id : SessionId)
    (session : Session)
    (host : Host MemoryDriver)
    (accepted : List Bytes)
    (back : Nat)
    (call : AsyncCall) : AsyncCall → Host MemoryDriver → Prop
  /-- Nothing is received. -/
  | kept
      {next : AsyncCall}
      {after : Host MemoryDriver}
      (payload_eq : next.payload? = call.payload?)
      (attached : Attached id next)
      (unmoved : Unmoved host after) :
      CallTurn name id session host accepted back call next after
  /-- The call answers with the packet that has waited longest. -/
  | served
      {content : Bytes}
      {after : Host MemoryDriver}
      {changed : RunningSession}
      {later : SessionStats}
      (unanswered : call.payload? = none)
      (shown : accepted[back]? = some content)
      (receipts : Receipts name id session after accepted (back + 1) changed
        later) :
      CallTurn name id session host accepted back call (.completed (.ok content))
        after

namespace CallTurn

/-- Something else has happened before, by which nothing was received. -/
theorem after_unmoved
    {between after : Host MemoryDriver}
    {next : AsyncCall}
    (earlier : Unmoved host between)
    (turn : CallTurn name id session between accepted back call next after) :
    CallTurn name id session host accepted back call next after := by
  cases turn with
  | kept payload_eq attached unmoved =>
      exact .kept payload_eq attached (earlier.trans unmoved)
  | served unanswered shown receipts => exact .served unanswered shown receipts

/-- Nothing happens. -/
theorem same (attached : Attached id call) :
    CallTurn name id session host accepted back call call host :=
  .kept rfl attached (.refl host)

theorem drop (attached : Attached id call) :
    CallTurn name id session host accepted back call call.drop host := by
  cases call with
  | made | woken | parked => exact .kept rfl trivial (.refl host)
  | completed | dropped => exact same attached

/-- The thread that waits for a call receives nothing. -/
theorem observe (attached : Attached id call) :
    CallTurn name id session host accepted back call
      (call.observe host).value (call.observe host).state := by
  cases call with
  | made | woken | completed => exact same attached
  | parked future =>
      obtain ⟨own, wait, waits⟩ := attached
      have unmoved := Unmoving.waitReadable wait host
      simp only [AsyncCall.observe, waits, Action.value_bind, Action.state_bind]
      cases (wait.step host).value with
      | running next | asleep next =>
          exact .kept rfl ⟨own, next, rfl⟩ unmoved
      | finished outcome => exact .kept rfl own unmoved
  | dropped wait? =>
      cases wait? with
      | none => exact same attached
      | some wait =>
          have unmoved := Unmoving.waitReadable wait host
          simp only [AsyncCall.observe, Action.value_bind, Action.state_bind]
          cases (wait.step host).value <;> exact .kept rfl trivial unmoved

end CallTurn

/-- A future that looks at the time waits for what is left of it, or gives
up. -/
theorem step_checkingTime
    (future : ReceiveFuture)
    (checking : future.point = .checkingTime)
    (host : Host MemoryDriver) :
    (future.step host).state = host ∧
      ((future.step host).value = .finished (refuse .timedOut) ∨
        ∃ wait, (future.step host).value = .running (future.waitingOn wait)) := by
  simp only [ReceiveFuture.step, checking, Action.value_bind, Action.state_bind,
    now, Action.value_inspect, Action.state_inspect]
  cases remaining future.deadline host.clock with
  | none => exact ⟨rfl, .inl rfl⟩
  | some timeout => exact ⟨rfl, .inr ⟨_, rfl⟩⟩

/-- A future that breaks off has answered, and nothing was received. -/
theorem poll_of_breaking
    (future : ReceiveFuture)
    (breaking : future.point = .breaking)
    (host : Host MemoryDriver) :
    future.poll host = ⟨.finished (.error .beyondClock), host, []⟩ := by
  have breaks : future.step host = ⟨.finished (.error .beyondClock), host, []⟩ := by
    unfold ReceiveFuture.step
    rw [breaking]
    rfl
  rw [ReceiveFuture.poll, proceed_succ]
  exact Action.bind_of_reply breaks _

section Receiving

variable
  (future : ReceiveFuture)
  (receipts : Receipts name id session host accepted back entry stats)
  (own : future.session = id)
  (looking : future.point = .looking)

include receipts own looking

/-- A future that looks takes the next packet and gives it back, or waits, or
fails. -/
theorem callTurn_of_looking (unanswered : call.payload? = none) :
    CallTurn name id session host accepted back call
      (.ofProgress (future.poll host).value) (future.poll host).state := by
  have looked := receipts.looked own looking
  rw [ReceiveFuture.poll, proceed_succ]
  simp only [Action.value_bind, Action.state_bind]
  generalize (future.step host).value = progress at looked
  generalize (future.step host).state = after at looked
  cases looked with
  | refused => exact .kept unanswered.symm trivial (.refl host)
  | received shown receipts => exact .served unanswered shown receipts
  | nothing _ unmoved =>
      simp only [proceed_one]
      obtain ⟨state, gives_up | ⟨wait, waits⟩⟩ :=
        step_checkingTime { future with point := .checkingTime } rfl after
      · rw [gives_up, state]
        exact .kept unanswered.symm trivial unmoved
      · rw [waits, state]
        exact .kept unanswered.symm ⟨own, wait, rfl⟩ unmoved

/-- A future that looks takes the next packet if there is one. -/
theorem value_poll_of_waiting
    {content : Bytes}
    (unshut : host.driver.signals.isSet session.shutdownEvent.number = false)
    (healthy : entry.failed = false)
    (waits : accepted[back]? = some content) :
    (future.poll host).value = .finished (.ok content) := by
  have looked := receipts.looked own looking
  rw [ReceiveFuture.poll, proceed_succ]
  simp only [Action.value_bind]
  generalize (future.step host).value = progress at looked
  generalize (future.step host).state = after at looked
  cases looked with
  | refused cause =>
      rcases cause with shut | failed
      · cases unshut.symm.trans shut
      · cases healthy.symm.trans failed
  | nothing exhausted =>
      have inside := (List.getElem?_eq_some_iff.mp waits).1
      exact absurd inside (Nat.not_lt.mpr exhausted)
  | received shown =>
      rw [waits] at shown
      obtain rfl := Option.some.inj shown
      rfl

end Receiving

/-- A poll takes a packet only for the answer of its call. -/
theorem CallTurn.poll
    (receipts : Receipts name id session host accepted back entry stats)
    (attached : Attached id call) :
    CallTurn name id session host accepted back call
      (call.poll id host).value (call.poll id host).state := by
  cases call with
  | made timeout =>
      cases nameable : isNameable (timeout.map (host.clock + ·)) with
      | true =>
          exact callTurn_of_looking (receiveAsync id timeout host).value receipts
            rfl (ReceivePoint.first_of_nameable nameable) rfl
      | false =>
          have breaks := poll_of_breaking (receiveAsync id timeout host).value
            (ReceivePoint.first_of_unnameable nameable) host
          have made : receiveAsync id timeout host =
              ⟨(receiveAsync id timeout host).value, host, []⟩ := rfl
          have answers : (AsyncCall.made timeout).poll id host =
              ⟨.completed (.error .beyondClock), host, []⟩ :=
            (Action.bind_of_reply made _).trans (Action.bind_of_reply breaks _)
          rw [answers]
          exact .kept rfl trivial (.refl host)
  | woken future outcome =>
      rcases outcome with failure | (_ | _)
      · exact .kept rfl trivial (.refl host)
      · exact .kept rfl trivial (.refl host)
      · -- It only looks once more; another call may have been faster.
        have later := Unmoving.passTime
          (host.clock + ReceiveFuture.handoverTime) host
        exact .after_unmoved later
          (callTurn_of_looking { future with point := .looking }
            (receipts.unmoved later) attached rfl rfl)
  | parked | completed | dropped => exact same attached

/-! ## What holds all the time -/

/-- What the calls of a list have received. -/
def payloads (calls : List AsyncCall) : List Bytes :=
  calls.filterMap AsyncCall.payload?

theorem payloads_cons (call : AsyncCall) (calls : List AsyncCall) :
    payloads (call :: calls) = call.payload?.toList ++ payloads calls := by
  unfold payloads
  rw [List.filterMap_cons]
  cases call.payload? <;> rfl

/-- Where one call becomes another, its payload is exchanged for the other. -/
theorem perm_payloads_set
    {calls : List AsyncCall}
    {index : Nat}
    (found : calls[index]? = some call)
    (next : AsyncCall) :
    (call.payload?.toList ++ payloads (calls.set index next)).Perm
      (next.payload?.toList ++ payloads calls) := by
  induction calls generalizing index with
  | nil => cases found
  | cons first rest hypothesis =>
      cases index with
      | zero =>
          obtain rfl := Option.some.inj found
          rw [List.set_cons_zero, payloads_cons, payloads_cons]
          exact List.perm_append_comm_assoc _ _ _
      | succ index =>
          rw [List.set_cons_succ, payloads_cons, payloads_cons]
          refine (List.perm_append_comm_assoc _ _ _).trans ?_
          exact ((hypothesis found).append_left _).trans
            (List.perm_append_comm_assoc _ _ _)

/-- The calls have returned the first contents that were accepted, the others
are in the ring, and everything is counted. -/
structure InOrder
    (name : String)
    (id : SessionId)
    (session : Session)
    (polling : Polling)
    (entry : RunningSession)
    (stats : SessionStats) : Prop
    extends Receipts name id session polling.host polling.accepted
      polling.returned.length entry stats where
  /-- What was returned was accepted, in this order. -/
  returned_eq : polling.returned =
    polling.accepted.take polling.returned.length
  /-- It is what the calls have received. -/
  payloads_perm : (payloads polling.calls).Perm polling.returned
  /-- The calls are calls of the session. -/
  attached : ∀ call ∈ polling.calls, Attached id call

variable
  {polling : Polling}
  {index : Nat}
  {act : AsyncCall → Action (Host MemoryDriver) AsyncCall}

/-- A call has answered with a packet. -/
def Served (polling : Polling) (index : Nat) : Prop :=
  ∃ content, polling.calls[index]? = some (.completed (.ok content))

namespace InOrder

section Turns

variable
  (inOrder : InOrder name id session polling entry stats)
  (found : polling.calls[index]? = some call)

include inOrder found

/-- Something happens of a call by which nothing is received. -/
theorem of_kept
    {next : AsyncCall}
    {after : Host MemoryDriver}
    (payload_eq : next.payload? = call.payload?)
    (attached : Attached id next)
    (unmoved : Unmoved polling.host after) :
    InOrder name id session
      { polling with host := after, calls := polling.calls.set index next }
      entry stats :=
  { inOrder.toReceipts.unmoved unmoved with
    returned_eq := inOrder.returned_eq
    payloads_perm := by
      have exchanged := perm_payloads_set found next
      rw [payload_eq, List.perm_append_left_iff] at exchanged
      exact exchanged.trans inOrder.payloads_perm
    attached := fun other member =>
      (List.mem_or_eq_of_mem_set member).elim (inOrder.attached other)
        fun new => new ▸ attached }

/-- A call answers with the packet that has waited longest. -/
theorem of_served
    {content : Bytes}
    {after : Host MemoryDriver}
    {changed : RunningSession}
    {later : SessionStats}
    (unanswered : call.payload? = none)
    (shown : polling.accepted[polling.returned.length]? = some content)
    (receipts : Receipts name id session after polling.accepted
      (polling.returned.length + 1) changed later) :
    InOrder name id session
      { polling with
        host := after
        calls := polling.calls.set index (.completed (.ok content))
        returned := polling.returned ++ [content] }
      changed later := by
  have length : (polling.returned ++ [content]).length =
      polling.returned.length + 1 := List.length_append
  exact {
    toReceipts := by
      dsimp only
      rw [length]
      exact receipts
    returned_eq := by
      dsimp only
      rw [length, List.take_add_one, ← inOrder.returned_eq, shown]
      rfl
    payloads_perm := by
      have exchanged := perm_payloads_set found (.completed (.ok content))
      rw [unanswered] at exchanged
      exact exchanged.trans
        ((inOrder.payloads_perm.cons content).trans
          (List.perm_append_singleton content polling.returned).symm)
    attached := fun other member =>
      (List.mem_or_eq_of_mem_set member).elim (inOrder.attached other)
        fun new => new ▸ trivial }

end Turns

/-- Whatever happens of a call keeps the order, and takes a packet only if the
call answers with it. -/
theorem turn
    (inOrder : InOrder name id session polling entry stats)
    (turns : ∀ call, Attached id call →
      CallTurn name id session polling.host polling.accepted
        polling.returned.length call (act call polling.host).value
        (act call polling.host).state) :
    (∃ changed later,
      InOrder name id session (polling.turn index act) changed later) ∧
    (Unmoved polling.host (polling.turn index act).host ∨
      Served (polling.turn index act) index) := by
  unfold Polling.turn
  cases found : polling.calls[index]? with
  | none => exact ⟨⟨entry, stats, inOrder⟩, .inl (.refl _)⟩
  | some call =>
      have attached := inOrder.attached call (List.mem_of_getElem? found)
      have turned := turns call attached
      dsimp only
      generalize (act call polling.host).value = next at turned
      generalize (act call polling.host).state = after at turned
      cases turned with
      | kept payload_eq attached unmoved =>
          have nothing : (match call.payload? with
              | some _ => []
              | none => next.payload?.toList) = [] := by
            rw [payload_eq]
            cases call.payload? <;> rfl
          rw [nothing, List.append_nil]
          exact ⟨⟨entry, stats, inOrder.of_kept found payload_eq attached unmoved⟩,
            .inl unmoved⟩
      | @served content _ _ _ unanswered shown receipts =>
          rw [unanswered]
          exact ⟨⟨_, _, inOrder.of_served found unanswered shown receipts⟩,
            .inr ⟨content, List.getElem?_set_self
              (List.getElem?_eq_some_iff.mp found).1⟩⟩

/-- A move of a call keeps the order, and takes a packet only if the call answers
with it. -/
theorem play_of_call
    (inOrder : InOrder name id session polling entry stats)
    {move : PollMove}
    (its : move.index? = some index) :
    (∃ changed later,
      InOrder name id session (polling.play name id move) changed later) ∧
    (Unmoved polling.host (polling.play name id move).host ∨
      Served (polling.play name id move) index) := by
  cases move with
  | poll =>
      obtain rfl := Option.some.inj its
      exact inOrder.turn fun call attached => .poll inOrder.toReceipts attached
  | observe =>
      obtain rfl := Option.some.inj its
      exact inOrder.turn fun call attached => .observe attached
  | drop =>
      obtain rfl := Option.some.inj its
      exact inOrder.turn fun call attached => .drop attached
  | call | inject | fail | shutdown | pass => cases its

theorem play_inject
    (inOrder : InOrder name id session polling entry stats)
    (content : Bytes) :
    ∃ changed later, InOrder name id session
      (polling.play name id (.inject content)) changed later := by
  rcases inOrder.inject_cases inOrder.queued.toReady content with
    ⟨value, state⟩ | ⟨room, value, state⟩
  · have same : polling.play name id (.inject content) = polling := by
      simp only [play, value_ask, state_ask, value, state, Bool.false_eq_true,
        if_false]
    rw [same]
    exact ⟨entry, stats, inOrder⟩
  · simp only [play, value_ask, state_ask, value, state, if_true]
    exact ⟨_, stats, {
      toReceipts := inOrder.toReceipts.placed
        { entry with inbound := entry.inbound.filled content } rfl
        (inOrder.queued.filled room content) _
      returned_eq := inOrder.returned_eq.trans
        (List.take_append_of_le_length inOrder.queued.back_le).symm
      payloads_perm := inOrder.payloads_perm
      attached := inOrder.attached }⟩

theorem play_fail (inOrder : InOrder name id session polling entry stats) :
    ∃ changed later, InOrder name id session (polling.play name id .fail)
      changed later := by
  rcases inOrder.failSession_cases with state | state
  · have same : polling.play name id .fail = polling := by
      simp only [play, state_ask, state]
    rw [same]
    exact ⟨entry, stats, inOrder⟩
  · simp only [play, state_ask, state]
    exact ⟨_, stats, { inOrder with
      toReceipts := inOrder.toReceipts.placed { entry with failed := true } rfl
        inOrder.queued _ }⟩

/-- Nothing was received, and nothing happened of a call. -/
theorem of_unmoved
    {after : Host MemoryDriver}
    (inOrder : InOrder name id session polling entry stats)
    (unmoved : Unmoved polling.host after) :
    InOrder name id session { polling with host := after } entry stats :=
  { inOrder with toReceipts := inOrder.toReceipts.unmoved unmoved }

/-- Every move keeps the order. -/
theorem play
    (inOrder : InOrder name id session polling entry stats)
    (move : PollMove) :
    ∃ changed later, InOrder name id session (polling.play name id move) changed
      later := by
  cases move with
  | call timeout =>
      refine ⟨entry, stats, { inOrder with
        payloads_perm := ?_
        attached := fun other member => ?_ }⟩
      · change (payloads (polling.calls ++ [.made timeout])).Perm _
        rw [payloads, List.filterMap_append]
        exact (List.append_nil _).symm ▸ inOrder.payloads_perm
      · rcases List.mem_append.mp member with old | new
        · exact inOrder.attached other old
        · exact List.mem_singleton.mp new ▸ trivial
  | poll | observe | drop => exact (inOrder.play_of_call rfl).1
  | inject content => exact inOrder.play_inject content
  | fail => exact inOrder.play_fail
  | shutdown =>
      refine ⟨entry, stats, inOrder.of_unmoved ?_⟩
      exact inOrder.state_shutdown ▸ .withSignals _ _
  | pass moment =>
      exact ⟨entry, stats, inOrder.of_unmoved (Unmoving.passTime moment _)⟩

/-- Every schedule keeps the order. -/
theorem playAll
    (inOrder : InOrder name id session polling entry stats)
    (moves : List PollMove) :
    ∃ changed later, InOrder name id session (polling.playAll name id moves)
      changed later := by
  induction moves generalizing polling entry stats with
  | nil => exact ⟨entry, stats, inOrder⟩
  | cons move moves hypothesis =>
      obtain ⟨_, _, next⟩ := inOrder.play move
      exact hypothesis next

end InOrder

/-! ## Answers stay -/

/-- Whatever happens of a call, an answer stays. -/
theorem Served.turn
    {other : Nat}
    (served : Served polling index)
    (final : ∀ outcome, (act (.completed outcome) polling.host).value =
      .completed outcome) : Served (polling.turn other act) index := by
  obtain ⟨content, answered⟩ := served
  unfold Polling.turn
  cases found : polling.calls[other]? with
  | none => exact ⟨content, answered⟩
  | some call =>
      refine ⟨content, ?_⟩
      by_cases same : other = index
      · subst same
        obtain rfl := Option.some.inj (found.symm.trans answered)
        dsimp only
        rw [final]
        exact List.getElem?_set_self (List.getElem?_eq_some_iff.mp found).1
      · exact (List.getElem?_set_ne same).trans answered

theorem Served.play
    (served : Served polling index)
    (move : PollMove) : Served (polling.play name id move) index := by
  cases move with
  | poll | observe | drop => exact served.turn fun _ => rfl
  | inject | fail | shutdown | pass => exact served
  | call timeout =>
      obtain ⟨content, answered⟩ := served
      have inside := (List.getElem?_eq_some_iff.mp answered).1
      exact ⟨content, (List.getElem?_append_left inside).trans answered⟩

theorem Served.playAll
    (served : Served polling index)
    (moves : List PollMove) : Served (polling.playAll name id moves) index := by
  induction moves generalizing polling with
  | nil => exact served
  | cons move moves hypothesis => exact hypothesis (served.play move)

/-! ## Every schedule -/

/-- Nothing was called on a session yet. -/
theorem inOrder_of_fresh (fresh : Fresh name id session host entry) :
    InOrder name id session { host } entry session.stats where
  toAttends := fresh.toAttends
  queued := fresh.ready.queued fresh.empty
  received_eq := fresh.uncounted
  unheld := fresh.unheld
  numbered := fresh.numbered
  returned_eq := rfl
  payloads_perm := .refl []
  attached := fun _ none => absurd none List.not_mem_nil

/-- What was accepted on a session was returned by a call, or waits. -/
structure Balanced
    (id : SessionId)
    (session : Session)
    (polling : Polling)
    (entry : RunningSession)
    (stats : SessionStats) : Prop where
  /-- The host has the session. -/
  kept : polling.host.sessions.get? id = some { session with stats }
  /-- The driver has it. -/
  runs : polling.host.driver.sessions.get? session.handle.number = some entry
  /-- As many packets are counted as calls have received one. -/
  received_eq : stats.packetsReceived =
    UInt64.ofNat (polling.calls.countP (·.payload?.isSome))
  /-- The driver has every packet back. -/
  none_out : entry.inbound.count .delivered = 0
  /-- The host holds none. -/
  unheld : ∀ packet held, polling.host.packets.get? packet = some held →
    held.session = id → held.direction ≠ .inbound
  /-- What was not returned is queued. -/
  contents_eq : entry.inbound.contents =
    (polling.accepted.drop polling.returned.length).map (·, .committed)

theorem InOrder.balanced
    (inOrder : InOrder name id session polling entry stats) :
    Balanced id session polling entry stats where
  kept := inOrder.kept
  runs := inOrder.runs
  received_eq := by
    rw [inOrder.received_eq, ← inOrder.payloads_perm.length_eq, payloads,
      List.length_filterMap_eq_countP]
  none_out := inOrder.queued.count_delivered
  unheld := inOrder.unheld
  contents_eq := inOrder.queued.contents_eq

/-- A new call takes the packet that waits longest at its first poll, unless the
session is over or the clock cannot name its deadline. -/
theorem InOrder.returned_of_new_call
    (inOrder : InOrder name id session polling entry stats)
    (unshut : polling.isShut session = false)
    (healthy : entry.failed = false)
    {timeout : Option Nanoseconds}
    (nameable : isNameable (timeout.map (polling.host.clock + ·)) = true)
    {content : Bytes}
    (waits : polling.accepted[polling.returned.length]? = some content) :
    (polling.playAll name id
      [.call timeout, .poll polling.calls.length]).returned =
        polling.returned ++ [content] := by
  have answer := value_poll_of_waiting (receiveAsync id timeout polling.host).value
    inOrder.toReceipts rfl (ReceivePoint.first_of_nameable nameable) unshut
    healthy waits
  have polls : ((AsyncCall.made timeout).poll id polling.host).value =
      .completed (.ok content) := congrArg AsyncCall.ofProgress answer
  have found : (polling.calls ++ [.made timeout])[polling.calls.length]? =
      some (.made timeout) := List.getElem?_concat_length
  change (Polling.turn { polling with calls := polling.calls ++ [.made timeout] }
    polling.calls.length (·.poll id)).returned = _
  simp only [Polling.turn, found, polls]
  rfl

/-- Whatever the order in which calls are made, polled and dropped on a fresh
session, their threads take steps, packets are put in, the device is taken away,
the session is shut down and time passes: the calls have returned a beginning of
what the driver has accepted, in order and each packet once; as many packets are
counted; none is out, and the others are queued in order, so that a new call
returns the first of them at once unless the session is over or the clock cannot
name the deadline of the call.  What happens of a call that does not receive a
packet in the end, be it dropped or failed, moves none. -/
theorem returned_in_order
    (fresh : Fresh name id session host entry)
    (moves : List PollMove) :
    let polled := playAll name id { host } moves
    polled.returned <+: polled.accepted ∧
    (payloads polled.calls).Perm polled.returned ∧
    (∃ entry stats, Balanced id session polled entry stats ∧
      (polled.isShut session = false → entry.failed = false →
        ∀ timeout content,
          isNameable (timeout.map (polled.host.clock + ·)) = true →
          polled.accepted[polled.returned.length]? = some content →
          (polled.playAll name id
            [.call timeout, .poll polled.calls.length]).returned =
              polled.returned ++ [content])) ∧
    ∀ before move after index, moves = before ++ move :: after →
      move.index? = some index → ¬ Served polled index →
        let earlier := playAll name id { host } before
        Unmoved earlier.host (earlier.play name id move).host := by
  obtain ⟨entry, stats, inOrder⟩ := (inOrder_of_fresh fresh).playAll moves
  refine ⟨?_, inOrder.payloads_perm, ⟨entry, stats, inOrder.balanced, ?_⟩, ?_⟩
  · rw [inOrder.returned_eq]
    exact List.take_prefix _ _
  · intro unshut healthy timeout content nameable waits
    exact inOrder.returned_of_new_call unshut healthy nameable waits
  · rintro before move after index rfl its unserved
    obtain ⟨_, _, earlier⟩ := (inOrder_of_fresh fresh).playAll before
    refine (earlier.play_of_call its).2.resolve_right fun served => unserved ?_
    rw [playAll_append]
    exact served.playAll after

/-- A host on which an adapter was opened. -/
def oneAdapter : Host MemoryDriver :=
  Action.after (do
    let _ ← newManager { logger := .disabled }
    createAdapter 1 { name := "tun" })
    { driver := .fresh Memory.defaultVersion none }

/-- Two calls wait, and the first one is dropped.  A packet wakes both threads,
but a third call takes it before the second one looks, which then waits for the
next packet. -/
def firstDropped : List PollMove :=
  List.flatten [
    [.call none, .call none, .poll 0, .poll 1],
    List.replicate 8 (.observe 0),
    List.replicate 8 (.observe 1),
    [.drop 0, .inject [1]],
    List.replicate 20 (.observe 0),
    List.replicate 20 (.observe 1),
    [.call none, .poll 2, .poll 1, .inject [2]],
    List.replicate 20 (.observe 1),
    [.poll 1, .inject [3]]]

/-- The dropped call has received nothing, and the last packet stays queued. -/
theorem returned_in_order_of_dropped :
    let host := oneAdapter.launched 2 1 4 { ringCapacity := some 4 }
    ∃ session entry,
      Fresh "tun" 3 session host entry ∧
      let polled := playAll "tun" 3 { host } firstDropped
      polled.returned = [[1], [2]] ∧
      payloads polled.calls = [[2], [1]] ∧
      polled.returned <+: polled.accepted ∧
      ∃ entry stats, Balanced 3 session polled entry stats ∧
        entry.inbound.contents = [([3], .committed)] := by
  have distinct : Distinct (oneAdapter.driver.started 1 4) :=
    (MemoryDriver.distinct_fresh Memory.defaultVersion none).serveAll
      [.createAdapter "tun" "tun" none, .startSession ⟨2⟩ 4]
  obtain ⟨session, entry, fresh⟩ :=
    @Pumping.fresh_launched "tun" oneAdapter 2 1 4 { ringCapacity := some 4 }
      distinct (by decide) (by decide +kernel) fun _ _ found => by cases found
  obtain ⟨ordered, _, ⟨_, _, balanced, _⟩, _⟩ :=
    returned_in_order fresh firstDropped
  refine ⟨session, entry, fresh, by decide +kernel, by decide +kernel, ordered,
    _, _, balanced, balanced.contents_eq.trans ?_⟩
  decide +kernel

end Polling
end Host
end VirtualAdapter

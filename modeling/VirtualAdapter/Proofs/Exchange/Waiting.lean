import VirtualAdapter.Proofs.Exchange.Packets
import VirtualAdapter.Host.Blocking
import VirtualAdapter.Host.ReadPump

/-!
# Calls that wait keep the books

A call that waits holds nothing of the driver while it sleeps.  A step of it
either waits on, or borrows a packet for its caller, or borrows one and gives it
back at once.
-/

namespace VirtualAdapter
namespace Host

open Signal (Nanoseconds Wait)

/-! ## What a step leaves in hands -/

/-- What a call leaves in its caller's hands when it is over. -/
def Progress.held
    {Call Value : Type}
    (gives : Value → Held) : Progress Call Value → Held
  | finished value => gives value
  | running _ | asleep _ _ => {}

/-- What the result of a call that can sleep leaves in its caller's hands. -/
def BlockingResult.held : BlockingResult → Held
  | received outcome => .ofPacket outcome
  | copied _ | readable _ | sent _ | consumed _ => {}

/-- The packet that a pump is about to hand on. -/
def ReadPump.held (pump : ReadPump) : Held :=
  match pump.phase with
  | .handing packet => { packets := [packet] }
  | _ => {}

/-- What a pump holds after a step. -/
def ReadPump.heldAfter : Progress ReadPump ReadPump → Held
  | .running next | .asleep next _ | .finished next => next.held

variable {State : Type} [Driver State]
variable {hands : Hands} {before : Holdings → Prop}

/-! ## Waiting -/

theorem stepWait_leads (wait : Wait) :
    Leads before
      (stepWait wait : Action (Host (Recorded State)) _) fun _ => before := by
  apply Leads.of_same
  intro host
  unfold stepWait
  split
  · rfl
  · rfl

theorem stepUntil_leads (wait : Wait) :
    Leads before
      (stepUntil wait : Action (Host (Recorded State)) _) fun _ => before :=
  (stepWait_leads wait).bind fun _ => Leads.done

theorem beginUntil_leads (terms : WaitTerms) :
    Leads before
      (beginUntil terms : Action (Host (Recorded State)) _)
      fun _ => before := by
  unfold beginUntil
  refine (Leads.of_same fun _ => rfl).bind fun found => ?_
  cases found with
  | none => exact Leads.done
  | some session =>
      refine (Leads.of_same fun _ => rfl).bind fun present => ?_
      split
      · exact Leads.done
      · refine (Leads.of_same fun _ => rfl).bind fun start => ?_
        split <;> exact Leads.done

theorem waitReadableStep_keeps (call : WaitReadable) :
    Keeps hands (call.step : Action (Host (Recorded State)) _) := by
  unfold WaitReadable.step
  split
  · have looks : Keeps hands (whileOpen call.terms.session fun _ =>
        return .ok () : Action (Host (Recorded State)) (Outcome Unit)) :=
      whileOpen_leads (fun _ books => books) fun _ =>
        Leads.answer fun _ _ given => given.1
    refine looks.bind fun outcome => ?_
    split
    · exact Leads.done
    · split <;> exact Leads.done
  · exact (beginUntil_leads _).bind fun _ => Leads.done
  · exact (stepUntil_leads _).bind fun _ => Leads.done

/-! ## Receiving -/

omit [Driver State] in
theorem afterWait_leads
    (call : Receive)
    (progress : Progress Wait (Outcome Bool)) :
    Leads (Books hands none)
      (call.afterWait progress : Action (Host (Recorded State)) _)
      fun progress =>
        Books ((progress.held Held.ofPacket).hands ++ hands) none := by
  unfold Receive.afterWait
  split
  case h_5 =>
    refine (Leads.of_same fun _ => rfl).bind fun _ => ?_
    refine (Leads.of_same fun _ => rfl).bind fun _ => ?_
    exact Leads.answer fun _ _ books => books
  all_goals exact Leads.answer fun _ _ books => books

/-- A receiver that is over leaves its packet in its caller's hands. -/
theorem receiveStep_leads
    (orderly : hands.Orderly)
    (call : Receive)
    (staying : call.terms.session ∉ hands.ending) :
    Leads (Books hands none)
      (call.step : Action (Host (Recorded State)) _)
      fun progress =>
        Books ((progress.held Held.ofPacket).hands ++ hands) none := by
  unfold Receive.step
  split
  · exact Leads.answer fun _ _ books => books
  · refine (tryReceive_leads orderly staying).bind fun outcome => ?_
    split <;> exact Leads.answer fun _ _ books => books
  · exact (beginUntil_leads _).bind (afterWait_leads call)
  · exact (stepUntil_leads _).bind (afterWait_leads call)

theorem consume_leads (orderly : hands.Orderly) (packet : PacketId) :
    Leads (Books { hands with packets := packet :: hands.packets } none)
      (ReceiveFuture.consume packet : Action (Host (Recorded State)) Bytes)
      fun _ => Books hands none := by
  unfold ReceiveFuture.consume
  refine (Leads.packet? packet).bind fun found => ?_
  cases found with
  | none =>
      exact Leads.answer fun _ _ given => given.1.of_packet_gone given.2
  | some held =>
      refine Leads.given ?_ fun _ _ given => given.1
      refine (Leads.of_same fun _ => rfl).bind fun content => ?_
      exact (finishPacket_leads orderly packet).bind fun _ => Leads.done

theorem receiveFutureStep_keeps
    (orderly : hands.Orderly)
    (future : ReceiveFuture)
    (staying : future.session ∉ hands.ending) :
    Keeps hands (future.step : Action (Host (Recorded State)) _) := by
  unfold ReceiveFuture.step
  split
  · exact Leads.done
  · refine (tryReceive_leads orderly staying).bind fun outcome => ?_
    split
    · exact (consume_leads orderly _).bind fun _ => Leads.done
    · exact Leads.answer fun _ _ books => books
    · exact Leads.answer fun _ _ books => books
  · refine (Leads.of_same fun _ => rfl).bind fun present => ?_
    split
    · exact Leads.done
    · refine (Leads.of_same fun _ => rfl).bind fun call => ?_
      exact Leads.done
  · refine (waitReadableStep_keeps _).bind fun progress => ?_
    split
    · exact Leads.done
    · exact Leads.done
    · exact Leads.of_same fun _ => rfl
    · exact Leads.done
    · exact Leads.done

/-! ## Sending -/

theorem sendStep_keeps
    (orderly : hands.Orderly)
    (call : Send)
    (staying : call.session ∉ hands.ending) :
    Keeps hands (call.step : Action (Host (Recorded State)) _) := by
  unfold Send.step
  split
  · refine (trySend_keeps orderly staying _).bind fun outcome => ?_
    split
    · split
      · refine (Leads.of_same fun _ => rfl).bind fun _ => ?_
        exact Leads.done
      · refine (Leads.of_same fun _ => rfl).bind fun _ => ?_
        exact Leads.done
    · exact Leads.done
  · refine (Leads.of_same fun _ => rfl).bind fun present => ?_
    split <;> exact Leads.done

theorem sendInterruptibleStep_keeps
    (orderly : hands.Orderly)
    (call : SendInterruptible)
    (staying : call.session ∉ hands.ending) :
    Keeps hands (call.step : Action (Host (Recorded State)) _) := by
  unfold SendInterruptible.step
  split
  · refine (trySend_keeps orderly staying _).bind fun outcome => ?_
    split <;> exact Leads.done
  · refine (Leads.of_same fun _ => rfl).bind fun found => ?_
    split
    · exact Leads.done
    · refine (Leads.of_same fun _ => rfl).bind fun start => ?_
      split <;> exact Leads.done
  · refine (stepWait_leads _).bind fun progress => ?_
    split <;> exact Leads.done

theorem sendFutureStep_keeps
    (orderly : hands.Orderly)
    (future : SendFuture)
    (staying : future.session ∉ hands.ending) :
    Keeps hands (future.step : Action (Host (Recorded State)) _) := by
  unfold SendFuture.step
  split
  · unfold SendFuture.attempt
    refine (trySend_keeps orderly staying _).bind fun outcome => ?_
    split
    · split
      · exact Leads.done
      · refine (Leads.of_same fun _ => rfl).bind fun _ => ?_
        exact Leads.done
    · exact Leads.done
  · refine (Leads.of_same fun _ => rfl).bind fun present => ?_
    split <;> exact Leads.done

/-! ## Calls of every kind -/

/-- The session on which a call waits. -/
def Blocking.session : Blocking → SessionId
  | receive call => call.terms.session
  | copy call _ => call.terms.session
  | wait call => call.terms.session
  | send call => call.session
  | sendInterruptible call => call.session
  | receiveAsync future => future.session
  | sendAsync future => future.session

omit [Driver State] in
/-- A call that leaves nothing in its caller's hands. -/
theorem blocked_leads
    {Call Value : Type}
    {action : Action (Host (Recorded State)) (Progress Call Value)}
    (keeps : Keeps hands action)
    (call : Call → Blocking)
    {result : Value → BlockingResult}
    (nothing : ∀ value, (result value).held = {}) :
    Leads (Books hands none)
      (do return (← action).map call result)
      fun progress =>
        Books ((progress.held BlockingResult.held).hands ++ hands) none := by
  refine keeps.bind fun progress => Leads.answer fun kept _ books => ?_
  cases progress with
  | running => exact books
  | asleep => exact books
  | finished value =>
      show Books ((result value).held.hands ++ hands) none kept
      rw [nothing value]
      exact books

/-- A call that can sleep leaves a packet in its caller's hands only if it is a
receiver that is over. -/
theorem blockingStep_leads
    (orderly : hands.Orderly)
    (call : Blocking)
    (staying : call.session ∉ hands.ending) :
    Leads (Books hands none)
      (call.step : Action (Host (Recorded State)) _)
      fun progress =>
        Books ((progress.held BlockingResult.held).hands ++ hands) none := by
  cases call with
  | receive call =>
      refine (receiveStep_leads orderly call staying).bind fun progress => ?_
      apply Leads.answer
      cases progress <;> exact fun _ _ books => books
  | copy call buffer =>
      refine (receiveStep_leads orderly call staying).bind fun progress => ?_
      split
      · exact Leads.answer fun _ _ books => books
      · exact Leads.answer fun _ _ books => books
      · exact (copyOut_leads orderly _ buffer).bind fun _ =>
          Leads.answer fun _ _ books => books
  | wait call =>
      exact blocked_leads (waitReadableStep_keeps call) _ fun _ => rfl
  | send call =>
      exact blocked_leads (sendStep_keeps orderly call staying) _ fun _ => rfl
  | sendInterruptible call =>
      exact blocked_leads (sendInterruptibleStep_keeps orderly call staying) _
        fun _ => rfl
  | receiveAsync future =>
      exact blocked_leads (receiveFutureStep_keeps orderly future staying) _
        fun _ => rfl
  | sendAsync future =>
      exact blocked_leads (sendFutureStep_keeps orderly future staying) _
        fun _ => rfl

/-! ## Pumps -/

omit [Driver State] in
/-- A pump that leaves its loop holds nothing. -/
theorem leave_leads (pump : ReadPump) (failure : Failure) :
    Leads (Books hands none)
      (pump.leave failure : Action (Host (Recorded State)) ReadPump)
      fun next => Books (next.held.hands ++ hands) none := by
  unfold ReadPump.leave
  split
  · exact Leads.answer fun _ _ books => books
  · have ends : Leads (Books hands none)
        (do
          let host ← Action.current
          let name :=
            ((host.sessions.get? pump.session).map host.sessionName).getD ""
          Action.trace .debug "reader stopped"
            [("adapter", name), ("delivered", toString pump.delivered)]
          return { pump with phase := .finished .stopped } :
            Action (Host (Recorded State)) ReadPump)
        fun next => Books (next.held.hands ++ hands) none := by
      refine (Leads.of_same fun _ => rfl).bind fun _ => ?_
      refine (Leads.of_same fun _ => rfl).bind fun _ => ?_
      exact Leads.answer fun _ _ books => books
    split
    · exact (Leads.of_same fun _ => rfl).bind fun _ => ends
    · exact ends

/-- A packet that is handed on is given back however its handler ends. -/
theorem hand_leads
    (orderly : hands.Orderly)
    {handler : Handler (Recorded State)}
    {packet : PacketId}
    (handles : ∀ content,
      Keeps { hands with packets := packet :: hands.packets }
        (handler content))
    (pump : ReadPump) :
    Leads (Books { hands with packets := packet :: hands.packets } none)
      (pump.hand handler packet)
      fun next => Books (next.held.hands ++ hands) none := by
  unfold ReadPump.hand
  refine (Leads.packet? packet).bind fun found => ?_
  cases found with
  | none =>
      exact Leads.answer fun _ _ given =>
        Books.of_packet_gone given.1 given.2
  | some held =>
      refine Leads.given ?_ fun _ _ given => given.1
      refine (Leads.of_same fun _ => rfl).bind fun content => ?_
      refine (handles content).bind fun outcome => ?_
      refine (finishPacket_leads orderly packet).bind fun _ => ?_
      cases outcome with
      | ok => exact Leads.answer fun _ _ books => books
      | error failure => exact Leads.answer fun _ _ books => books

/-- A pump holds a packet only between taking it and handing it on. -/
theorem pumpStep_leads
    (orderly : hands.Orderly)
    {handler : Handler (Recorded State)}
    (pump : ReadPump)
    (handles : ∀ content,
      Keeps (pump.held.hands ++ hands) (handler content))
    (staying : pump.session ∉ hands.ending) :
    Leads (Books (pump.held.hands ++ hands) none)
      (pump.step handler)
      fun progress =>
        Books ((ReadPump.heldAfter progress).hands ++ hands) none := by
  obtain ⟨session, seen, delivered, phase⟩ := pump
  cases phase with
  | finished how => exact Leads.answer fun _ _ books => books
  | waiting call =>
      refine (waitReadableStep_keeps _).bind fun progress => ?_
      split
      · exact Leads.answer fun _ _ books => books
      · exact Leads.answer fun _ _ books => books
      · exact Leads.answer fun _ _ books => books
      · exact (leave_leads _ _).bind fun _ =>
          Leads.answer fun _ _ books => books
  | taking =>
      refine (tryReceive_leads orderly staying).bind fun outcome => ?_
      split
      · exact Leads.answer fun _ _ books => books
      · exact Leads.answer fun _ _ books => books
      · exact (leave_leads _ _).bind fun _ =>
          Leads.answer fun _ _ books => books
  | handing packet =>
      exact (hand_leads orderly handles _).bind fun _ =>
        Leads.answer fun _ _ books => books

end Host
end VirtualAdapter

import VirtualAdapter.Memory.Driver
import VirtualAdapter.Proofs.Host.PumpThread
import VirtualAdapter.Proofs.Signal.Wakeups

/-!
# Pumps that wait

A pump waits for the events of its session and for nothing else: it has no
deadline and nobody interrupts it.  So a wait of it ends when a packet can be
received or the session was shut down, and sleeps while neither is so.
-/

namespace VirtualAdapter
namespace Host

open VirtualAdapter.Action (bind_apply pure_apply)
open Memory (MemoryDriver)
open Signal (Bank Guarded Nanoseconds Phase SignalId Wait Wakeup Watch)

/-! ## What a wait finds out -/

/-- A wait that nobody interrupts and that has no deadline may end like this:
its own signal was set, or the cancelling one is. -/
def Meant (watch : Watch) (bank : Bank) (outcome : Wakeup) : Prop :=
  outcome = .ready ∨ outcome = .cancelled ∧ bank.isSet watch.cancel = true

/-- Whatever a phase has found out is so. -/
def Truthful (watch : Watch) (bank : Bank) : Phase → Prop
  | .reading afterDeadline remaining =>
      afterDeadline = false ∧ ∀ reading ∈ remaining, reading ∈ watch.readings
  | .detaching _ (some outcome) | .finished outcome => Meant watch bank outcome
  | _ => True

namespace Truthful

variable {watch : Watch} {bank : Bank} {phase : Phase}

/-- A signal that is found set means what the watch takes it for. -/
theorem afterReading
    (uninterrupted : watch.interrupt = none)
    {signal : SignalId}
    {meaning : Wakeup}
    {rest : List (SignalId × Wakeup)}
    (truthful : Truthful watch bank (.reading false ((signal, meaning) :: rest))) :
    Truthful watch bank
      (Wait.afterReading watch false (bank.isSet signal) meaning rest) := by
  unfold Wait.afterReading
  split
  case isTrue isSet =>
    have member := truthful.2 _ List.mem_cons_self
    simp only [Watch.readings, uninterrupted, Option.toList_none, List.map_nil,
      List.append_nil, List.cons_append, List.nil_append, List.mem_cons,
      Prod.mk.injEq, List.not_mem_nil, or_false] at member
    rcases member with ⟨rfl, rfl⟩ | ⟨_, rfl⟩
    · exact .inr ⟨rfl, isSet⟩
    · exact .inl rfl
  case isFalse =>
    exact ⟨rfl, fun reading member =>
      truthful.2 reading (List.mem_cons_of_mem _ member)⟩

theorem advance
    (uninterrupted : watch.interrupt = none)
    (endless : watch.deadline = none)
    (now : Nanoseconds)
    (truthful : Truthful watch bank phase) :
    Truthful watch (Wait.advance watch now bank phase).2
      (Wait.advance watch now bank phase).1 := by
  cases phase with
  | clearing => trivial
  | attaching remaining =>
      cases remaining with
      | nil => exact ⟨rfl, fun _ member => member⟩
      | cons signal rest => trivial
  | reading afterDeadline remaining =>
      obtain ⟨rfl, known⟩ := truthful
      cases remaining with
      | nil => trivial
      | cons reading rest => exact afterReading uninterrupted ⟨rfl, known⟩
  | sleeping =>
      change Truthful watch bank (Wait.wake watch now bank)
      unfold Wait.wake
      split
      case isTrue => trivial
      case isFalse => simp [Watch.isOver, endless, Truthful]
  | detaching remaining outcome =>
      cases outcome with
      | none => cases remaining <;> trivial
      | some wakeup =>
          cases remaining <;> simpa [Truthful, Meant, Wait.advance] using truthful
  | finished outcome => exact truthful

/-- A signal that is set takes nothing back. -/
theorem set
    (truthful : Truthful watch bank phase)
    (signal : SignalId) : Truthful watch (bank.set signal) phase := by
  have meant : ∀ outcome, Meant watch bank outcome →
      Meant watch (bank.set signal) outcome := by
    intro outcome found
    refine found.imp_right (And.imp_right fun isSet => ?_)
    rw [Bank.isSet_set]
    split
    · rfl
    · exact isSet
  cases phase with
  | detaching remaining outcome =>
      cases outcome with
      | none => trivial
      | some wakeup => exact meant wakeup truthful
  | finished outcome => exact meant outcome truthful
  | _ => exact truthful

end Truthful

/-! ## What a pump waits for -/

/-- A wait of a pump: it watches the events of its session and no others. -/
structure Watches
    (session : Session)
    (bank : Bank)
    (wait : Wait) : Prop where
  /-- The event of the driver lets it go on. -/
  own_eq : wait.watch.own = session.readEvent.number
  /-- The shutdown cancels it. -/
  cancel_eq : wait.watch.cancel = session.shutdownEvent.number
  /-- Nothing else interrupts it. -/
  uninterrupted : wait.watch.interrupt = none
  /-- It is not limited in time. -/
  endless : wait.watch.deadline = none
  /-- What it has found out is so. -/
  truthful : Truthful wait.watch bank wait.phase
  /-- It hears of what comes later. -/
  guarded : Guarded wait.watch bank wait.phase

/-- A call of a pump that waits for packets. -/
structure Awaits
    (id : SessionId)
    (session : Session)
    (bank : Bank)
    (call : WaitReadable) : Prop where
  /-- It waits for its session, for as long as it takes. -/
  terms_eq : call.terms = { session := id }
  /-- If it has begun to wait, it watches the events of the session. -/
  watches : ∀ wait, call.phase = .waiting wait → Watches session bank wait

/-- What a step of such a call comes to. -/
inductive Stepped
    (id : SessionId)
    (session : Session)
    (bank : Bank) : Progress WaitReadable (Outcome Bool) → Prop
  | running {call : WaitReadable}
      (awaits : Awaits id session bank call) :
      Stepped id session bank (.running call)
  | asleep {call : WaitReadable}
      (awaits : Awaits id session bank call)
      (moment : Option Nanoseconds)
      (unread : bank.isSet session.readEvent.number = false)
      (unshut : bank.isSet session.shutdownEvent.number = false) :
      Stepped id session bank (.asleep call moment)
  | readable (answer : Bool) :
      Stepped id session bank (.finished (.ok answer))
  | ended (shut : bank.isSet session.shutdownEvent.number = true) :
      Stepped id session bank (.finished (refuse .sessionEnded))

variable
  {id : SessionId}
  {session : Session}
  {bank : Bank}
  {wait : Wait}
  {call : WaitReadable}
  {host : Host MemoryDriver}

namespace Watches

theorem step
    (watches : Watches session bank wait)
    (now : Nanoseconds) :
    Watches session (wait.step now bank).2 (wait.step now bank).1 :=
  { watches with
    truthful := watches.truthful.advance watches.uninterrupted watches.endless
      now
    guarded := watches.guarded.advance now }

theorem set
    (watches : Watches session bank wait)
    (signal : SignalId) : Watches session (bank.set signal) wait :=
  { watches with
    truthful := watches.truthful.set signal
    guarded := watches.guarded.of_undisturbed (.set signal) }

/-- While it sleeps, neither event is set. -/
theorem unset_of_isAsleep
    (watches : Watches session bank wait)
    {now : Nanoseconds}
    (asleep : wait.isAsleep now bank = true) :
    bank.isSet session.readEvent.number = false ∧
      bank.isSet session.shutdownEvent.number = false := by
  have guarded := watches.guarded
  unfold Wait.isAsleep at asleep
  split at asleep
  case h_2 => cases asleep
  case h_1 sleeping =>
    rw [sleeping] at guarded
    have unflagged : bank.isFlagged wait.watch.waiter = false := by
      simpa using (Bool.and_eq_true_iff.mp asleep).1
    have unset : ∀ signal ∈ wait.watch.signals, bank.isSet signal = false :=
      fun signal watched => Bool.eq_false_iff.mpr fun isSet =>
        Bool.eq_false_iff.mp unflagged ((guarded signal watched).flagged isSet)
    rw [← watches.own_eq, ← watches.cancel_eq]
    exact ⟨unset _ (by simp [Watch.signals]), unset _ (by simp [Watch.signals])⟩

end Watches

theorem awaits_new : Awaits id session bank { terms := { session := id } } :=
  ⟨rfl, fun _ waiting => by cases waiting⟩

theorem Awaits.set
    (awaits : Awaits id session bank call)
    (signal : SignalId) : Awaits id session (bank.set signal) call :=
  ⟨awaits.terms_eq, fun wait waiting => (awaits.watches wait waiting).set signal⟩

theorem Watches.awaits
    (watches : Watches session bank wait)
    (terms_eq : call.terms = { session := id }) :
    Awaits id session bank (call.waitingOn wait) :=
  ⟨terms_eq, fun other same => by
    obtain rfl : wait = other := WaitPhase.waiting.inj same
    exact watches⟩

/-! ## One step -/

/-- A step of a wait that was begun. -/
theorem Watches.stepUntil_cases
    (watches : Watches session host.driver.signals wait)
    (terms_eq : call.terms = { session := id }) :
    ∃ signals : Bank,
      (∀ event, signals.isSet event = host.driver.signals.isSet event) ∧
      (stepUntil wait host).state =
        { host with driver := { host.driver with signals } } ∧
      Stepped id session signals
        ((stepUntil wait host).value.map call.waitingOn fun answer => answer) := by
  simp only [stepUntil, Action.value_bind, Action.state_bind, Action.value_pure,
    Action.state_pure]
  unfold stepWait
  split
  case isTrue asleep =>
    obtain ⟨unread, unshut⟩ := watches.unset_of_isAsleep asleep
    exact ⟨_, fun _ => rfl, rfl,
      .asleep (watches.awaits terms_eq) _ unread unshut⟩
  case isFalse =>
    have next := watches.step host.clock
    refine ⟨_, wait.isSet_step host.clock host.driver.signals, rfl, ?_⟩
    have asked : Driver.stepWait wait host.clock host.driver =
        ((wait.step host.clock host.driver.signals).1,
          { host.driver with
            signals := (wait.step host.clock host.driver.signals).2 }) := rfl
    rw [asked]
    dsimp only
    generalize wait.step host.clock host.driver.signals = stepped at next ⊢
    obtain ⟨⟨watch, phase⟩, signals⟩ := stepped
    cases phase with
    | finished outcome =>
        have meant : Meant watch signals outcome := next.truthful
        rcases meant with rfl | ⟨rfl, isSet⟩
        · exact .readable true
        · exact .ended (next.cancel_eq ▸ isSet)
    | _ => exact .running (next.awaits terms_eq)

/-- The wait begins with a waiter of its own. -/
theorem step_beginning
    (found : host.sessions.get? id = some session) :
    (WaitReadable.step { terms := { session := id }, phase := .beginning }
        host) =
      ⟨.running
          { terms := { session := id }
            phase := .waiting
              ⟨⟨session.readEvent.number, session.shutdownEvent.number, none,
                none, host.driver.signals.nextWaiter⟩, .clearing⟩ },
        { host with
          driver := { host.driver with
            signals := host.driver.signals.newWaiter.2 } }, []⟩ := by
  simp only [WaitReadable.step, beginUntil, bind_apply, value_session?,
    state_session?, found]
  rfl

/-- A step of a call that waits sets and resets nothing. -/
theorem Awaits.step_cases
    (awaits : Awaits id session host.driver.signals call)
    {stats : SessionStats}
    (found : host.sessions.get? id = some { session with stats }) :
    ∃ signals : Bank,
      (∀ event, signals.isSet event = host.driver.signals.isSet event) ∧
      (call.step host).state =
        { host with driver := { host.driver with signals } } ∧
      Stepped id session signals (call.step host).value := by
  obtain ⟨terms, phase⟩ := call
  obtain ⟨rfl, watches⟩ := awaits
  cases phase with
  | checking =>
      refine ⟨_, fun _ => rfl, ?_⟩
      cases shut : host.driver.signals.isSet session.shutdownEvent.number with
      | true =>
          have closed : (isShutDown { session with stats } host).value = true :=
            shut
          simp only [WaitReadable.step, bind_apply,
            whileOpen_of_shut _ found closed]
          exact ⟨rfl, .ended shut⟩
      | false =>
          have unshut : (isShutDown { session with stats } host).value = false :=
            shut
          simp only [WaitReadable.step, bind_apply,
            whileOpen_of_open _ found unshut, pure_apply]
          exact ⟨rfl, .running ⟨rfl, fun _ waiting => by cases waiting⟩⟩
  | beginning =>
      rw [step_beginning found]
      refine ⟨_, Bank.isSet_newWaiter, rfl, .running ⟨rfl, ?_⟩⟩
      rintro wait ⟨⟩
      exact ⟨rfl, rfl, rfl, rfl, trivial, trivial⟩
  | waiting wait => exact (watches wait rfl).stepUntil_cases rfl

end Host
end VirtualAdapter

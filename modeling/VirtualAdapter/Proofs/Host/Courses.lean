import VirtualAdapter.Host.Receive
import VirtualAdapter.Memory.Driver
import VirtualAdapter.Proofs.Host.PumpThread
import VirtualAdapter.Proofs.Signal.Heeded

/-!
# Calls that others interleave with

A blocking call takes its steps one by one, and between two of them others may
have done anything.  So the course of a call is told by the hosts in which it
takes its steps, and what holds in all of these holds throughout the call.
-/

namespace VirtualAdapter
namespace Host

open VirtualAdapter.Action (bind_apply pure_apply)
open Memory (MemoryDriver)
open Signal (
  Bank Found Heeding Nanoseconds Wait Wakeup Watch isNameable stepsLeft)

section Course

variable {State Call Value : Type}

/-- What becomes of a call that takes a step in each of these hosts. -/
def course (step : Call → Action (Host State) (Progress Call Value)) :
    Call → List (Host State) → Progress Call Value
  | call, [] => .running call
  | call, host :: later =>
      match (step call host).value with
      | .running next | .asleep next _ => course step next later
      | .finished value => .finished value

variable
  {step : Call → Action (Host State) (Progress Call Value)}
  {call next : Call}
  {value : Value}
  {host : Host State}

theorem course_of_running
    (runs : (step call host).value = .running next)
    (later : List (Host State)) :
    course step call (host :: later) = course step next later := by
  rw [course, runs]

theorem course_of_finished
    (ends : (step call host).value = .finished value)
    (later : List (Host State)) :
    course step call (host :: later) = .finished value := by
  rw [course, ends]

/-- A call that comes nearer to its end by every step is still on its way only
after few steps. -/
theorem course_cases
    {Going : Call → Prop}
    {Fine : Value → Prop}
    {left : Call → Nat}
    {hosts : List (Host State)}
    (steps : ∀ host ∈ hosts, ∀ call, Going call →
      (∃ next, (step call host).value = .running next ∧ Going next ∧
        left next < left call) ∨
      ∃ value, (step call host).value = .finished value ∧ Fine value)
    (going : Going call) :
    (∃ next, course step call hosts = .running next ∧
      hosts.length ≤ left call) ∨
    ∃ value, course step call hosts = .finished value ∧ Fine value := by
  induction hosts generalizing call with
  | nil => exact .inl ⟨call, rfl, Nat.zero_le _⟩
  | cons host later hypothesis =>
      rcases steps host List.mem_cons_self call going with
        ⟨next, runs, stays, fewer⟩ | ⟨value, ends, fine⟩
      · rw [course_of_running runs]
        rcases hypothesis (fun other member =>
            steps other (List.mem_cons_of_mem _ member)) stays with
          ⟨last, running, bound⟩ | settled
        · exact .inl ⟨last, running, Nat.succ_le_of_lt (Nat.lt_of_le_of_lt bound fewer)⟩
        · exact .inr settled
      · exact .inr ⟨value, course_of_finished ends later, fine⟩

end Course

/-! ## Throughout a call -/

/-- An event is set throughout. -/
def StaysSet (event : EventHandle) (hosts : List (Host MemoryDriver)) : Prop :=
  ∀ host ∈ hosts, host.driver.signals.isSet event.number = true

/-- An event is unset throughout. -/
def StaysUnset (event : EventHandle) (hosts : List (Host MemoryDriver)) : Prop :=
  ∀ host ∈ hosts, host.driver.signals.isSet event.number = false

/-- A session is the same throughout, whatever it counts. -/
def StaysKnown
    (id : SessionId)
    (session : Session)
    (hosts : List (Host MemoryDriver)) : Prop :=
  ∀ host ∈ hosts, ∃ stats, host.sessions.get? id = some { session with stats }

/-- The signals of hosts. -/
def banks (hosts : List (Host MemoryDriver)) : List Bank :=
  hosts.map (·.driver.signals)

variable
  {id : SessionId}
  {session : Session}
  {terms : WaitTerms}
  {hosts : List (Host MemoryDriver)}
  {host : Host MemoryDriver}

/-! ## Waiting for events -/

/-- A wait for the events of a session and for that of the caller. -/
structure WaitsFor
    (session : Session)
    (terms : WaitTerms)
    (watch : Watch) : Prop where
  own_eq : watch.own = session.readEvent.number
  cancel_eq : watch.cancel = session.shutdownEvent.number
  interrupt_eq : watch.interrupt = terms.interrupt.map (·.number)

section Beginning

variable
  {timeout : Option Nanoseconds}
  (own : EventHandle)
  (session : Session)
  (interrupt : Option EventHandle)

/-- The host hands a wait on to the driver. -/
theorem beginWait_eq (timeout : Option Nanoseconds) (host : Host MemoryDriver) :
    beginWait own session interrupt timeout host =
      let reply := MemoryDriver.beginWait own session.shutdownEvent interrupt
        timeout host.clock host.driver
      ⟨reply.value, { host with driver := reply.state }, reply.notes⟩ :=
  rfl

/-- A wait with a deadline that the clock can name begins. -/
theorem beginWait_of_nameable
    (nameable : isNameable (timeout.map (host.clock + ·)) = true) :
    let begun := Wait.start host.driver.signals own.number
      session.shutdownEvent.number (interrupt.map (·.number))
      (timeout.map (host.clock + ·))
    beginWait own session interrupt timeout host =
      ⟨.ok (.waiting begun.1),
        { host with driver := { host.driver with signals := begun.2 } }, []⟩ := by
  rw [beginWait_eq, MemoryDriver.beginWait, Wait.startWithin_of_nameable nameable]

/-- A wait with a deadline that the clock cannot name breaks off. -/
theorem beginWait_of_unnameable
    (unnameable : isNameable (timeout.map (host.clock + ·)) = false) :
    beginWait own session interrupt timeout host =
      ⟨.error .beyondClock, host, []⟩ := by
  rw [beginWait_eq, MemoryDriver.beginWait,
    Wait.startWithin_of_unnameable unnameable]

end Beginning

/-- What is left of the time ends at the same deadline. -/
theorem isNameable_remaining
    {deadline : Option Nanoseconds}
    {timeout : Option Nanoseconds}
    {present : Nanoseconds}
    (nameable : isNameable deadline = true)
    (left : remaining deadline present = some timeout) :
    isNameable (timeout.map (present + ·)) = true := by
  unfold remaining at left
  cases deadline with
  | none =>
      obtain rfl := Option.some.inj left
      exact Signal.isNameable_none
  | some moment =>
      dsimp only at left
      split at left
      case isTrue late => cases left
      case isFalse early =>
        obtain rfl := Option.some.inj left
        rwa [Option.map_some, Nat.add_sub_of_le (Nat.le_of_not_le early)]

/-- A wait whose deadline the clock can name begins unless its time is over. -/
theorem beginUntil_cases
    (terms : WaitTerms)
    (nameable : isNameable terms.deadline = true)
    (known : ∃ stats,
      host.sessions.get? terms.session = some { session with stats }) :
    (∃ moment, terms.deadline = some moment ∧ moment ≤ host.clock ∧
      (beginUntil terms host).value = .finished (.ok false)) ∨
    (∀ moment, terms.deadline = some moment → ¬ moment ≤ host.clock) ∧
      ∃ watch, WaitsFor session terms watch ∧
        (beginUntil terms host).value = .running ⟨watch, .clearing⟩ := by
  obtain ⟨own, interrupt, deadline⟩ := terms
  obtain ⟨stats, found⟩ := known
  dsimp only at found nameable
  simp only [beginUntil, bind_apply, value_session?, state_session?, found, now,
    Action.value_inspect, Action.state_inspect]
  cases deadline with
  | none =>
      refine .inr ⟨fun _ unlimited => (Option.some_ne_none _ unlimited.symm).elim,
        ⟨session.readEvent.number, session.shutdownEvent.number,
          interrupt.map (·.number), none, host.driver.signals.nextWaiter⟩,
        ⟨rfl, rfl, rfl⟩, ?_⟩
      have within := isNameable_remaining nameable (@rfl _ (remaining none host.clock))
      simp only [remaining, bind_apply]
      rw [beginWait_of_nameable _ _ _ within]
      rfl
  | some moment =>
      by_cases late : moment ≤ host.clock
      · exact .inl ⟨moment, rfl, late, by simp only [remaining, late, if_true]; rfl⟩
      · refine .inr ⟨?_, ⟨session.readEvent.number,
          session.shutdownEvent.number, interrupt.map (·.number),
          some (host.clock + (moment - host.clock)),
          host.driver.signals.nextWaiter⟩, ⟨rfl, rfl, rfl⟩, ?_⟩
        · rintro other ⟨⟩
          exact late
        · have within := isNameable_remaining nameable
            (show remaining _ host.clock = _ from if_neg late)
          simp only [remaining, late, if_false, bind_apply]
          rw [beginWait_of_nameable _ _ _ within]
          rfl

/-- A wait that does not sleep takes a step, and ends with what it found. -/
theorem value_stepUntil
    {wait : Wait}
    (awake : wait.phase ≠ .sleeping)
    (host : Host MemoryDriver) :
    (stepUntil wait host).value =
      match (wait.step host.clock host.driver.signals).1.outcome? with
      | some outcome => .finished (answerOf outcome)
      | none => .running (wait.step host.clock host.driver.signals).1 := by
  have awake : Driver.isWaitAsleep wait host.clock host.driver = false := by
    change wait.isAsleep host.clock host.driver.signals = false
    unfold Wait.isAsleep
    split
    case h_1 asleep => exact absurd asleep awake
    case h_2 => rfl
  simp only [stepUntil, Action.value_bind, Action.value_pure, stepWait, awake,
    Bool.false_eq_true, if_false]
  change Progress.map id answerOf (match (wait.step _ _).1.outcome? with
    | some outcome => .finished outcome
    | none => .running (wait.step _ _).1) = _
  cases (wait.step host.clock host.driver.signals).1.outcome? <;> rfl

/-- A wait for which a watched event stays set ends soon, with what it
found. -/
theorem course_stepUntil_cases
    {watch : Watch}
    (stays : ∃ reading ∈ watch.readings,
      ∀ bank ∈ banks hosts, bank.isSet reading.1 = true) :
    (∃ next, course stepUntil ⟨watch, .clearing⟩ hosts = .running next ∧
      hosts.length ≤ 12) ∨
    ∃ outcome, course stepUntil ⟨watch, .clearing⟩ hosts =
        .finished (answerOf outcome) ∧ Found watch (banks hosts) outcome := by
  let Going := fun wait : Wait => wait.watch = watch ∧
    Heeding watch (banks hosts) wait.phase ∧
    ∀ outcome, wait.phase ≠ .finished outcome
  let Fine := fun answer => ∃ outcome, answer = answerOf outcome ∧
    Found watch (banks hosts) outcome
  have steps : ∀ host ∈ hosts, ∀ wait, Going wait →
      (∃ next, (stepUntil wait host).value = .running next ∧ Going next ∧
        stepsLeft watch next.phase < stepsLeft watch wait.phase) ∨
      ∃ answer, (stepUntil wait host).value = .finished answer ∧ Fine answer := by
    rintro host member ⟨other, phase⟩ ⟨same, heeding, going⟩
    obtain rfl : watch = other := same.symm
    obtain ⟨onwards, fewer⟩ := heeding.advance stays going
      (List.mem_map_of_mem member) host.clock
    have awake : phase ≠ .sleeping := by
      rintro rfl
      exact heeding
    rw [value_stepUntil awake]
    unfold Wait.step
    generalize Wait.advance watch host.clock host.driver.signals phase = after
      at onwards fewer ⊢
    obtain ⟨after, signals⟩ := after
    cases after with
    | finished outcome => exact .inr ⟨_, rfl, outcome, rfl, onwards⟩
    | _ => exact .inl ⟨_, rfl, ⟨rfl, onwards, fun _ settled => (nomatch settled)⟩, fewer⟩
  have going : Going ⟨watch, .clearing⟩ :=
    ⟨rfl, trivial, fun _ settled => (nomatch settled)⟩
  rcases course_cases steps going with
    ⟨next, runs, bound⟩ | ⟨_, ends, outcome, rfl, found⟩
  · exact .inl ⟨next, runs, Nat.le_trans bound (Signal.stepsLeft_clearing_le watch)⟩
  · exact .inr ⟨outcome, ends, found⟩

/-- The wait inside a wait for packets takes its course. -/
theorem course_waitingOn
    (call : WaitReadable)
    (wait : Wait)
    (hosts : List (Host MemoryDriver)) :
    course WaitReadable.step (call.waitingOn wait) hosts =
      (course stepUntil wait hosts).map call.waitingOn fun answer => answer := by
  induction hosts generalizing wait with
  | nil => rfl
  | cons host later hypothesis =>
      have one : ((call.waitingOn wait).step host).value =
          (stepUntil wait host).value.map call.waitingOn fun answer => answer :=
        rfl
      unfold course
      rw [one]
      cases (stepUntil wait host).value with
      | running next => exact hypothesis next
      | asleep next moment => exact hypothesis next
      | finished answer => rfl

/-- How a receiver answers when the wait in it ends, unless it looks again. -/
def answerAfter : Outcome Bool → Outcome PacketId
  | .ok _ => refuse .timedOut
  | .error failure => .error failure

/-- The wait inside a receiver takes its course, up to its end. -/
theorem course_receive_waitingOn
    (call : Receive)
    {wait : Wait}
    {hosts : List (Host MemoryDriver)} :
    (∀ next, course stepUntil wait hosts = .running next →
      course Receive.step (call.waitingOn wait) hosts =
        .running (call.waitingOn next)) ∧
    ∀ answer, course stepUntil wait hosts = .finished answer →
      answer ≠ .ok true →
        course Receive.step (call.waitingOn wait) hosts =
          .finished (answerAfter answer) := by
  induction hosts generalizing wait with
  | nil =>
      refine ⟨?_, fun _ settled => (nomatch settled)⟩
      rintro next ⟨⟩
      rfl
  | cons host later hypothesis =>
      have one : ((call.waitingOn wait).step host).value =
          (call.afterWait (stepUntil wait host).value
            (stepUntil wait host).state).value := rfl
      unfold course
      rw [one]
      cases (stepUntil wait host).value with
      | running next => exact hypothesis
      | asleep next moment => exact hypothesis
      | finished answer =>
          refine ⟨fun _ runs => (nomatch runs), ?_⟩
          rintro _ ⟨⟩ other
          cases answer with
          | error failure => rfl
          | ok readable =>
              cases readable with
              | false => rfl
              | true => exact absurd rfl other

/-! ## How a wait for events ends -/

/-- The events for which a call waits: that of the driver, the shutdown and
possibly one of the caller. -/
def IsWatched (session : Session) (terms : WaitTerms) (event : EventHandle) : Prop :=
  event = session.readEvent ∨ event = session.shutdownEvent ∨
    terms.interrupt = some event

/-- A wait that ends like this has found the event set in one of the hosts, and
those that go before it unset in others. -/
inductive EndsBy
    (session : Session)
    (terms : WaitTerms)
    (hosts : List (Host MemoryDriver)) : Wakeup → Prop
  | cancelled
      (set : ¬ StaysUnset session.shutdownEvent hosts) :
      EndsBy session terms hosts .cancelled
  | interrupted {event : EventHandle}
      (given : terms.interrupt = some event)
      (set : ¬ StaysUnset event hosts) :
      EndsBy session terms hosts .interrupted
  | ready
      (unset : ∀ event, terms.interrupt = some event → ¬ StaysSet event hosts) :
      EndsBy session terms hosts .ready

theorem not_staysUnset
    {event : EventHandle}
    (set : ∃ bank ∈ banks hosts, bank.isSet event.number = true) :
    ¬ StaysUnset event hosts := by
  intro unset
  obtain ⟨_, member, isSet⟩ := set
  obtain ⟨host, known, rfl⟩ := List.mem_map.mp member
  cases isSet.symm.trans (unset host known)

theorem not_staysSet
    {event : EventHandle}
    (unset : ∃ bank ∈ banks hosts, bank.isSet event.number = false) :
    ¬ StaysSet event hosts := by
  intro set
  obtain ⟨_, member, was⟩ := unset
  obtain ⟨host, known, rfl⟩ := List.mem_map.mp member
  cases was.symm.trans (set host known)

/-- What the signals say of the end of a wait, the events say. -/
theorem WaitsFor.endsBy
    {watch : Watch}
    (waits : WaitsFor session terms watch)
    {outcome : Wakeup}
    (found : Found watch (banks hosts) outcome) :
    EndsBy session terms hosts outcome := by
  cases outcome with
  | timedOut => exact found.ne_timedOut.elim
  | cancelled =>
      exact .cancelled (not_staysUnset (waits.cancel_eq ▸ found.of_cancelled))
  | interrupted =>
      obtain ⟨signal, given, set⟩ := found.of_interrupted
      rw [waits.interrupt_eq] at given
      obtain ⟨event, known, rfl⟩ := Option.map_eq_some_iff.mp given
      exact .interrupted known (not_staysUnset set)
  | ready =>
      refine .ready fun event given => not_staysSet ?_
      refine found.of_ready.2 event.number ?_
      rw [waits.interrupt_eq, given, Option.map_some]

theorem WaitsFor.exists_reading
    {watch : Watch}
    (waits : WaitsFor session terms watch)
    {event : EventHandle}
    (watched : IsWatched session terms event)
    (stays : StaysSet event hosts) :
    ∃ reading ∈ watch.readings,
      ∀ bank ∈ banks hosts, bank.isSet reading.1 = true := by
  have set : ∀ bank ∈ banks hosts, bank.isSet event.number = true := by
    intro bank member
    obtain ⟨host, known, rfl⟩ := List.mem_map.mp member
    exact stays host known
  rcases watched with rfl | rfl | given
  · refine ⟨(watch.own, .ready), ?_, waits.own_eq ▸ set⟩
    exact List.mem_append_right _ List.mem_cons_self
  · refine ⟨(watch.cancel, .cancelled), ?_, waits.cancel_eq ▸ set⟩
    exact List.mem_append_left _ List.mem_cons_self
  · refine ⟨(event.number, .interrupted), ?_, set⟩
    refine List.mem_append_left _ (List.mem_append_right _ ?_)
    rw [waits.interrupt_eq, given]
    exact List.mem_cons_self

/-- The time of a call is over. -/
def Overdue (terms : WaitTerms) (host : Host MemoryDriver) : Prop :=
  ∃ moment, terms.deadline = some moment ∧ moment ≤ host.clock

/-- A wait for which a watched event stays set answers that its time is over
exactly if it was over at its begin, and otherwise ends soon. -/
theorem until_cases
    {begun : Host MemoryDriver}
    (nameable : isNameable terms.deadline = true)
    (known : ∃ stats,
      begun.sessions.get? terms.session = some { session with stats })
    {event : EventHandle}
    (watched : IsWatched session terms event)
    (stays : StaysSet event hosts) :
    (Overdue terms begun ∧
      (beginUntil terms begun).value = .finished (.ok false)) ∨
    ¬ Overdue terms begun ∧
      ∃ wait, (beginUntil terms begun).value = .running wait ∧
        ((∃ next, course stepUntil wait hosts = .running next ∧
            hosts.length ≤ 12) ∨
          ∃ outcome, course stepUntil wait hosts = .finished (answerOf outcome) ∧
            EndsBy session terms hosts outcome) := by
  rcases beginUntil_cases terms nameable known with
    ⟨moment, given, late, value⟩ | ⟨early, watch, waits, value⟩
  · exact .inl ⟨⟨moment, given, late⟩, value⟩
  · refine .inr ⟨?_, _, value, ?_⟩
    · rintro ⟨moment, given, late⟩
      exact early moment given late
    · refine (course_stepUntil_cases (waits.exists_reading watched stays)).imp_right ?_
      rintro ⟨outcome, ends, known⟩
      exact ⟨outcome, ends, waits.endsBy known⟩

end Host
end VirtualAdapter

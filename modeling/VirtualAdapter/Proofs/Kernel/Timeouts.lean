import VirtualAdapter.Proofs.Host.Courses
import VirtualAdapter.Proofs.Kernel.WideNames

/-!
# Waits that end before their time

The system waits whole milliseconds, and a wait asks for as many as its span
holds.  What lies beyond them it does not wait for.  So a wait reports that its
time is over, and a call of a session gives up, before that time whenever the
span is not a whole number of milliseconds and the system does not make up for
it.
-/

namespace VirtualAdapter
namespace Host

section Onward

variable {State Call Other Value Result Kept : Type}

/-- The call that goes on after a step. -/
def Progress.onward : Progress Call Value → Option Call
  | .running call | .asleep call _ => some call
  | .finished _ => none

@[simp]
theorem Progress.onward_map
    (progress : Progress Call Value)
    (call : Call → Other)
    (value : Value → Result) :
    (progress.map call value).onward = progress.onward.map call := by
  cases progress <;> rfl

/-- What no step of a call changes is the same on its whole way. -/
theorem course_keeps
    {step : Call → Action (Host State) (Progress Call Value)}
    {kept : Call → Kept}
    (each : ∀ call host next, (step call host).value.onward = some next →
      kept next = kept call)
    {call next : Call}
    {hosts : List (Host State)}
    (runs : course step call hosts = .running next) : kept next = kept call := by
  induction hosts generalizing call with
  | nil => cases runs; rfl
  | cons host later hypothesis =>
      rw [course] at runs
      have one := each call host
      generalize (step call host).value = progress at runs one
      cases progress with
      | running middle | asleep middle =>
          exact (hypothesis runs).trans (one middle rfl)
      | finished answer => cases runs

end Onward

end Host

namespace Kernel

open VirtualAdapter.Action (bind_apply)
open Host
open Signal (Nanoseconds Wait Wakeup nanosecondsPerMillisecond)

/-! ## Spans of time -/

/-- By how much a wait that is limited to a span is too short. -/
def lack (span : Nanoseconds) : Nanoseconds :=
  span - (waitMilliseconds (some span)).toNat * nanosecondsPerMillisecond

/-- The longest span that a wait can be limited to, just below 50 days. -/
def longestSpan : Nanoseconds :=
  (Machine.infinite.toNat - 1) * nanosecondsPerMillisecond

theorem toNat_waitMilliseconds (span : Nanoseconds) :
    (waitMilliseconds (some span)).toNat =
      min (span / nanosecondsPerMillisecond) (Machine.infinite.toNat - 1) :=
  UInt32.toNat_ofNat_of_lt (Nat.lt_of_le_of_lt (Nat.min_le_right ..) (by decide))

/-- A wait that is limited does not ask for one without an end. -/
theorem waitMilliseconds_ne_infinite (span : Nanoseconds) :
    waitMilliseconds (some span) ≠ Machine.infinite := by
  intro same
  have number := toNat_waitMilliseconds span
  rw [same] at number
  have most := Nat.min_le_right (span / nanosecondsPerMillisecond)
    (Machine.infinite.toNat - 1)
  rw [← number] at most
  exact absurd most (by decide)

/-- What is asked for and what is lacking make up the span. -/
theorem asked_add_lack (span : Nanoseconds) :
    (waitMilliseconds (some span)).toNat * nanosecondsPerMillisecond +
      lack span = span := by
  refine Nat.add_sub_cancel' ?_
  rw [toNat_waitMilliseconds]
  calc min (span / nanosecondsPerMillisecond) (Machine.infinite.toNat - 1) *
        nanosecondsPerMillisecond
      ≤ span / nanosecondsPerMillisecond * nanosecondsPerMillisecond :=
        Nat.mul_le_mul_right _ (Nat.min_le_left ..)
    _ ≤ span := Nat.div_mul_le_self ..

@[simp]
theorem lack_zero : lack 0 = 0 := Nat.zero_sub _

/-- Up to the longest span the part of a millisecond at its end is lacking. -/
theorem lack_eq_mod
    {span : Nanoseconds}
    (short : span ≤ longestSpan) :
    lack span = span % nanosecondsPerMillisecond := by
  have fits : span / nanosecondsPerMillisecond ≤ Machine.infinite.toNat - 1 :=
    Nat.div_le_of_le_mul (Nat.mul_comm .. ▸ short)
  rw [lack, toNat_waitMilliseconds, Nat.min_eq_left fits, Nat.mod_eq_sub_mul_div,
    Nat.mul_comm]

/-- Beyond it all that exceeds it is lacking. -/
theorem lack_eq_sub
    {span : Nanoseconds}
    (long : longestSpan ≤ span) : lack span = span - longestSpan := by
  have exceeds : Machine.infinite.toNat - 1 ≤ span / nanosecondsPerMillisecond :=
    (Nat.le_div_iff_mul_le (by decide)).mpr long
  rw [lack, toNat_waitMilliseconds, Nat.min_eq_right exceeds, longestSpan]

/-! ## Waits for events -/

/-- Between two machines the system was asked to wait a number of milliseconds,
and came back with a result. -/
def Waited
    (before after : Machine)
    (milliseconds result : UInt32) : Prop :=
  ∃ events, after.calls =
      before.calls ++ [.waitForMultipleObjects events milliseconds] ∧
    (Machine.wait (.waitForMultipleObjects events milliseconds) events
      before).value = result

/-- The system has waited the milliseconds that it was asked for, and a delay,
if it comes back because the time is over. -/
def KeepsTime
    (delay : Nanoseconds)
    (before after : Machine)
    (began back : Nanoseconds) : Prop :=
  ∀ milliseconds, Waited before after milliseconds Machine.waitTimeout →
    back = began + milliseconds.toNat * nanosecondsPerMillisecond + delay

/-- The call that was noted tells what the system was asked for. -/
theorem waited_iff
    {before after : Machine}
    {events : List Handle}
    {asked milliseconds result : UInt32}
    (noted : after.calls =
      before.calls ++ [.waitForMultipleObjects events asked]) :
    Waited before after milliseconds result ↔
      milliseconds = asked ∧
        (Machine.wait (.waitForMultipleObjects events asked) events
          before).value = result := by
  constructor
  · rintro ⟨others, same, reported⟩
    have calls := List.append_cancel_left (noted.symm.trans same)
    obtain ⟨rfl, rfl⟩ := Call.waitForMultipleObjects.inj (List.cons.inj calls).1
    exact ⟨rfl, reported⟩
  · rintro ⟨rfl, reported⟩
    exact ⟨events, noted, reported⟩

/-- The system keeps its time in a wait that lasts as long as was asked for. -/
theorem keepsTime_of_calls
    {before after : Machine}
    {events : List Handle}
    {asked : UInt32}
    (noted : after.calls =
      before.calls ++ [.waitForMultipleObjects events asked])
    (delay began : Nanoseconds) :
    KeepsTime delay before after began
      (began + asked.toNat * nanosecondsPerMillisecond + delay) := by
  rintro milliseconds waited
  rw [((waited_iff noted).mp waited).1]

variable
  {own cancel : Handle}
  {interrupt : Option Handle}
  {timeout : Option Nanoseconds}
  {machine : Machine}

theorem calls_wait (call : Call) (events : List Handle) :
    (Machine.wait call events machine).state.calls = machine.calls ++ [call] := by
  rw [← calls_begin machine call]
  unfold Machine.wait
  rw [Action.state_bind]
  cases (Machine.begin call machine).value <;> rfl

/-- What a result means is found without another call. -/
theorem state_wakeupOf (meanings : List Wakeup) (result : UInt32) :
    (Event.wakeupOf meanings result machine).state = machine := by
  unfold Event.wakeupOf
  split
  · rfl
  · split
    · rfl
    · cases meanings[result.toNat]? <;> rfl

/-- A result says that the time is over, or else that the wait has failed, that
something has happened, or nothing that is known. -/
theorem wakeupOf_cases (meanings : List Wakeup) (result : UInt32) :
    let value := (Event.wakeupOf meanings result machine).value
    (result = Machine.waitTimeout ∧ value = .ok .timedOut) ∨
    result ≠ Machine.waitTimeout ∧
      ((result = Machine.waitFailed ∧ ∃ error, value = refuse error) ∨
        (∃ wakeup ∈ meanings, value = .ok wakeup) ∨
        ∃ text, value = refuse (.driver text)) := by
  unfold Event.wakeupOf
  split
  case isTrue timeout => exact .inl ⟨timeout, rfl⟩
  case isFalse timely =>
    refine .inr ⟨timely, ?_⟩
    split
    case isTrue failed => exact .inl ⟨failed, _, rfl⟩
    case isFalse =>
      cases found : meanings[result.toNat]? with
      | some wakeup =>
          exact .inr (.inl ⟨wakeup, List.mem_of_getElem? found, rfl⟩)
      | none => exact .inr (.inr ⟨_, rfl⟩)

/-- The events of a wait, those first that go first. -/
def ranked (own cancel : Handle) (interrupt : Option Handle) : List Handle :=
  [cancel] ++ interrupt.toList ++ [own]

/-- The call of a wait. -/
def waitCall
    (own cancel : Handle)
    (interrupt : Option Handle)
    (timeout : Option Nanoseconds) : Call :=
  .waitForMultipleObjects (ranked own cancel interrupt)
    (waitMilliseconds timeout)

/-- The system is asked once. -/
theorem calls_eventWait :
    (Event.wait own cancel interrupt timeout machine).state.calls =
      machine.calls ++ [waitCall own cancel interrupt timeout] := by
  rw [← calls_wait _ (ranked own cancel interrupt)]
  exact congrArg Machine.calls (state_wakeupOf _ _)

/-- What a wait answers is what the system reports. -/
theorem eventWait_cases
    (own cancel : Handle)
    (interrupt : Option Handle)
    (timeout : Option Nanoseconds)
    (machine : Machine) :
    let reply := Event.wait own cancel interrupt timeout machine
    let Reported := Waited machine reply.state (waitMilliseconds timeout)
    (Reported Machine.waitTimeout ∧ reply.value = .ok .timedOut) ∨
    ¬ Reported Machine.waitTimeout ∧
      ((Reported Machine.waitFailed ∧ ∃ error, reply.value = refuse error) ∨
        (∃ wakeup, wakeup ≠ .timedOut ∧ reply.value = .ok wakeup) ∨
        ∃ text, reply.value = refuse (.driver text)) := by
  intro reply Reported
  have noted : reply.state.calls = _ := calls_eventWait
  let answer := Machine.wait (waitCall own cancel interrupt timeout)
    (ranked own cancel interrupt) machine
  have reported {result : UInt32} : Reported result ↔ answer.value = result :=
    (waited_iff noted).trans (and_iff_right rfl)
  rw [reported, reported]
  rcases @wakeupOf_cases answer.state
      ([.cancelled] ++ interrupt.toList.map (fun _ => .interrupted) ++ [.ready])
      answer.value with
    timedOut | ⟨timely, failed | ⟨wakeup, among, value⟩ | unknown⟩
  · exact .inl timedOut
  · exact .inr ⟨timely, .inl failed⟩
  · refine .inr ⟨timely, .inr (.inl ⟨wakeup, ?_, value⟩)⟩
    rintro rfl
    simp at among
  · exact .inr ⟨timely, .inr (.inr unknown)⟩

/-- A wait reports that its time is over exactly if the system does. -/
theorem eventWait_timedOut_iff :
    (Event.wait own cancel interrupt timeout machine).value = .ok .timedOut ↔
      Waited machine (Event.wait own cancel interrupt timeout machine).state
        (waitMilliseconds timeout) Machine.waitTimeout := by
  rcases eventWait_cases own cancel interrupt timeout machine with
    ⟨reported, value⟩ |
    ⟨unreported, ⟨_, error, value⟩ | ⟨wakeup, other, value⟩ | ⟨text, value⟩⟩
  · exact iff_of_true value reported
  · refine iff_of_false (fun same => ?_) unreported
    cases value.symm.trans same
  · refine iff_of_false (fun same => ?_) unreported
    exact other (Except.ok.inj (value.symm.trans same))
  · refine iff_of_false (fun same => ?_) unreported
    cases value.symm.trans same

/-- What is short of a moment by more than it exceeds it lies before it. -/
theorem early_iff_of_add_eq
    {back short moment delay : Nat}
    (ends : back + short = moment + delay) :
    back < moment ↔ delay < short := by
  omega

/-- The end of a limited wait for which the system keeps its time. -/
theorem back_add_lack
    {span delay began back : Nanoseconds}
    (keeps : KeepsTime delay machine
      (Event.wait own cancel interrupt (some span) machine).state began back)
    (timedOut : (Event.wait own cancel interrupt (some span) machine).value =
      .ok .timedOut) :
    back + lack span = began + span + delay := by
  rw [keeps _ (eventWait_timedOut_iff.mp timedOut), Nat.add_right_comm,
    Nat.add_assoc began, asked_add_lack]

/-! ## Waits of a session -/

theorem remaining_eq_none
    {deadline : Option Nanoseconds}
    {present : Nanoseconds}
    (nothing : remaining deadline present = none) :
    ∃ moment, deadline = some moment ∧ moment ≤ present := by
  unfold remaining at nothing
  split at nothing
  case h_1 => cases nothing
  case h_2 moment =>
    split at nothing
    case isTrue late => exact ⟨moment, rfl, late⟩
    case isFalse => cases nothing

theorem remaining_eq_some
    {moment present : Nanoseconds}
    {timeout : Option Nanoseconds}
    (left : remaining (some moment) present = some timeout) :
    present < moment ∧ timeout = some (moment - present) := by
  unfold remaining at left
  dsimp only at left
  split at left
  case isTrue => cases left
  case isFalse early =>
    exact ⟨Nat.lt_of_not_le early, (Option.some.inj left).symm⟩

/-- A wait for the events of a session is over when it has been asked for. -/
theorem value_beginWait
    (own : EventHandle)
    (session : Session)
    (interrupt : Option EventHandle)
    (timeout : Option Nanoseconds)
    (host : Host Machine) :
    (Host.beginWait own session interrupt timeout host).value =
      (Event.wait own.number session.shutdownEvent.number
        (interrupt.map (·.number)) timeout host.driver).value.map .over := rfl

/-- A wait for the events of a session is asked for where time is left. -/
theorem until_cases
    (terms : WaitTerms)
    (host : Host Machine) :
    (beginUntil terms host).value = .finished (refuse .sessionEnded) ∨
    (∃ moment, terms.deadline = some moment ∧ moment ≤ host.clock ∧
      (beginUntil terms host).value = .finished (.ok false)) ∨
    ∃ own cancel interrupt timeout,
      remaining terms.deadline host.clock = some timeout ∧
      let wait := Event.wait own cancel interrupt timeout host.driver
      (beginUntil terms host).state.driver = wait.state ∧
      (beginUntil terms host).value = .finished (wait.value.bind answerOf) := by
  unfold beginUntil
  simp only [bind_apply, value_session?, state_session?]
  cases found : host.sessions.get? terms.session with
  | none => exact .inl rfl
  | some session =>
      refine .inr ?_
      simp only [now, bind_apply, Action.value_inspect, Action.state_inspect]
      cases left : remaining terms.deadline host.clock with
      | none =>
          obtain ⟨moment, limited, late⟩ := remaining_eq_none left
          exact .inl ⟨moment, limited, late, rfl⟩
      | some timeout =>
          refine .inr ⟨session.readEvent.number, session.shutdownEvent.number,
            terms.interrupt.map (·.number), timeout, rfl, ?_⟩
          have value := value_beginWait session.readEvent session terms.interrupt
            timeout host
          simp only [Action.value_bind, Action.state_bind]
          cases answer : (Event.wait session.readEvent.number
            session.shutdownEvent.number (terms.interrupt.map (·.number))
            timeout host.driver).value with
          | ok wakeup | error failure =>
              rw [answer] at value
              rw [value]
              exact ⟨rfl, rfl⟩

/-- The time is over for a session where it is for its wait. -/
theorem timedOut_of_answer
    {answer : Outcome Wakeup}
    (gaveUp : answer.bind answerOf = .ok false) : answer = .ok .timedOut := by
  cases answer with
  | error failure => cases gaveUp
  | ok wakeup => cases wakeup <;> first | rfl | cases gaveUp

variable {terms : WaitTerms} {host : Host Machine}

/-- A wait of a session that gives up does so before its deadline if what it
lacks is more than the system's delay. -/
theorem until_early_iff
    {moment delay back : Nanoseconds}
    (limited : terms.deadline = some moment)
    (lasts : host.clock ≤ back)
    (keeps : KeepsTime delay host.driver (beginUntil terms host).state.driver
      host.clock back)
    (gaveUp : (beginUntil terms host).value = .finished (.ok false)) :
    back < moment ↔ delay < lack (moment - host.clock) := by
  rcases until_cases terms host with
    ended | ⟨other, same, late, _⟩ |
    ⟨own, cancel, interrupt, timeout, left, asked, value⟩
  · cases ended.symm.trans gaveUp
  · -- The deadline has passed, and nothing was asked for.
    obtain rfl := Option.some.inj (limited.symm.trans same)
    rw [Nat.sub_eq_zero_of_le late, lack_zero]
    have settled : moment ≤ back := Nat.le_trans late lasts
    exact iff_of_false (Nat.not_lt_of_le settled) (Nat.not_lt_zero delay)
  · rw [limited] at left
    obtain ⟨early, rfl⟩ := remaining_eq_some left
    have timedOut :=
      timedOut_of_answer (Progress.finished.inj (value.symm.trans gaveUp))
    rw [asked] at keeps
    have ends := back_add_lack keeps timedOut
    rw [Nat.add_sub_cancel' (Nat.le_of_lt early)] at ends
    exact early_iff_of_add_eq ends

/-- A wait of a session is refused because of the time only if the system has
refused it. -/
theorem failed_of_until_refused
    (refused : (beginUntil terms host).value = .finished (refuse .timedOut)) :
    ∃ milliseconds, Waited host.driver (beginUntil terms host).state.driver
      milliseconds Machine.waitFailed := by
  rcases until_cases terms host with
    ended | ⟨_, _, _, ended⟩ | ⟨own, cancel, interrupt, timeout, _, asked, value⟩
  · cases ended.symm.trans refused
  · cases ended.symm.trans refused
  · have answer := Progress.finished.inj (value.symm.trans refused)
    rw [asked]
    rcases eventWait_cases own cancel interrupt timeout host.driver with
      ⟨_, same⟩ | ⟨_, ⟨failed, _⟩ | ⟨wakeup, _, same⟩ | ⟨text, same⟩⟩
    · rw [same] at answer
      cases answer
    · exact ⟨_, failed⟩
    · rw [same] at answer
      cases wakeup <;> cases answer
    · rw [same] at answer
      cases answer

/-! ## Calls that give up -/

/-- A wait that the system carries out is over when it comes back, so nothing
is left to wait for. -/
theorem value_stepUntil (wait : Wait) :
    (stepUntil wait host).value = .asleep wait wait.watch.deadline := rfl

/-- A wait for packets gives up where it asks the system. -/
theorem waitReadable_gives_up
    {call : WaitReadable}
    (gaveUp : (call.step host).value = .finished (.ok false)) :
    (beginUntil call.terms host).value = .finished (.ok false) ∧
      (call.step host).state = (beginUntil call.terms host).state := by
  obtain ⟨terms, phase⟩ := call
  cases phase with
  | checking =>
      simp only [WaitReadable.step, Action.value_bind] at gaveUp
      generalize whileOpen _ _ host = looked at gaveUp
      obtain ⟨answer, later, notes⟩ := looked
      cases answer with
      | error failure => cases gaveUp
      | ok =>
          dsimp only at gaveUp
          split at gaveUp <;> cases gaveUp
  | beginning =>
      refine ⟨?_, rfl⟩
      simp only [WaitReadable.step, Action.value_bind, Action.value_pure] at gaveUp
      cases inner : (beginUntil terms host).value with
      | running wait => rw [inner] at gaveUp; cases gaveUp
      | asleep wait moment => rw [inner] at gaveUp; cases gaveUp
      | finished answer => rw [inner] at gaveUp; cases gaveUp; rfl
  | waiting wait =>
      simp only [WaitReadable.step, Action.value_bind, Action.value_pure,
        value_stepUntil] at gaveUp
      cases gaveUp

/-- The library never says that the time is over. -/
theorem errorOf_ne_timedOut (operation : String) (code : OsCode) :
    errorOf operation code ≠ .timedOut := by
  unfold errorOf
  split <;> exact fun same => (nomatch same)

theorem receivePacket_ne_timedOut (session : SessionHandle) (machine : Machine) :
    (receivePacket session machine).value ≠ refuse .timedOut := by
  simp only [receivePacket, Action.value_bind]
  generalize (Machine.receivePacket session.number machine) = received
  obtain ⟨buffer, later, notes⟩ := received
  cases buffer with
  | none =>
      intro same
      exact errorOf_ne_timedOut _ _ (Failure.refused.inj (Except.error.inj same))
  | some number => exact fun same => (nomatch same)

/-- Nor does a look for a packet. -/
theorem tryReceive_ne_timedOut (id : SessionId) (host : Host Machine) :
    (tryReceive id host).value ≠ refuse .timedOut := by
  unfold tryReceive
  cases found : host.sessions.get? id with
  | none =>
      rw [whileOpen_of_gone _ found]
      exact fun same => (nomatch same)
  | some session =>
      cases shut : (isShutDown session host).value with
      | true =>
          rw [whileOpen_of_shut _ found shut]
          exact fun same => (nomatch same)
      | false =>
          rw [whileOpen_of_open _ found shut]
          have never := receivePacket_ne_timedOut session.handle
            (isShutDown session host).state.driver
          change (Driver.receivePacket session.handle _).value ≠ _ at never
          obtain ⟨value, driver, notes, asked⟩ : ∃ value driver notes,
              Driver.receivePacket session.handle
                (isShutDown session host).state.driver =
                  ⟨value, driver, notes⟩ := ⟨_, _, _, rfl⟩
          rw [asked] at never
          simp only [Action.value_bind, value_ask, asked]
          cases value with
          | error failure =>
              intro same
              cases same
              exact never rfl
          | ok raw => exact fun same => (nomatch same)

/-- A receiver gives up where it asks the system, too. -/
theorem receive_gives_up
    {call : Receive}
    (gaveUp : (call.step host).value = .finished (refuse .timedOut)) :
    ((beginUntil call.terms host).value = .finished (.ok false) ∨
      (beginUntil call.terms host).value = .finished (refuse .timedOut)) ∧
      (call.step host).state = (beginUntil call.terms host).state := by
  obtain ⟨terms, rounds, phase⟩ := call
  cases phase with
  | breaking => cases gaveUp
  | looking looks =>
      simp only [Receive.step, Action.value_bind] at gaveUp
      have never := tryReceive_ne_timedOut terms.session host
      generalize tryReceive terms.session host = looked at gaveUp never
      obtain ⟨answer, later, notes⟩ := looked
      dsimp only at gaveUp never
      split at gaveUp
      · cases gaveUp
      · exact absurd (Progress.finished.inj gaveUp) never
  | beginning =>
      simp only [Receive.step, Action.value_bind, Action.state_bind] at gaveUp ⊢
      generalize beginUntil terms host = waited at gaveUp ⊢
      obtain ⟨progress, later, notes⟩ := waited
      cases progress with
      | running wait => cases gaveUp
      | asleep wait moment => cases gaveUp
      | finished answer =>
          cases answer with
          | error failure => cases gaveUp; exact ⟨.inr rfl, rfl⟩
          | ok readable =>
              cases readable with
              | false => exact ⟨.inl rfl, rfl⟩
              | true => cases gaveUp
  | waiting wait =>
      simp only [Receive.step, Action.value_bind, value_stepUntil] at gaveUp
      cases gaveUp

/-- A wait for packets keeps its terms. -/
theorem terms_of_course_waitReadable
    {call next : WaitReadable}
    {hosts : List (Host Machine)}
    (runs : course WaitReadable.step call hosts = .running next) :
    next.terms = call.terms := by
  refine course_keeps (fun call host next goes => ?_) runs
  obtain ⟨terms, phase⟩ := call
  cases phase with
  | checking =>
      simp only [WaitReadable.step, Action.value_bind] at goes
      generalize whileOpen _ _ host = looked at goes
      obtain ⟨answer, later, notes⟩ := looked
      cases answer with
      | error failure => cases goes
      | ok =>
          dsimp only at goes
          split at goes <;> cases goes
          rfl
  | beginning | waiting wait =>
      simp only [WaitReadable.step, Action.value_bind, Action.value_pure,
        Progress.onward_map] at goes
      obtain ⟨wait, _, rfl⟩ := Option.map_eq_some_iff.mp goes
      rfl

/-- A receiver keeps its terms. -/
theorem terms_of_course_receive
    {call next : Receive}
    {hosts : List (Host Machine)}
    (runs : course Receive.step call hosts = .running next) :
    next.terms = call.terms := by
  have after (call : Receive) (progress : Progress Wait (Outcome Bool))
      (host : Host Machine) (next : Receive)
      (goes : (call.afterWait progress host).value.onward = some next) :
      next.terms = call.terms := by
    cases progress with
    | running wait | asleep wait moment => cases goes; rfl
    | finished answer =>
        cases answer with
        | error failure => cases goes
        | ok readable => cases readable <;> cases goes; rfl
  refine course_keeps (fun call host next goes => ?_) runs
  obtain ⟨terms, rounds, phase⟩ := call
  cases phase with
  | breaking => cases goes
  | looking looks =>
      simp only [Receive.step, Action.value_bind] at goes
      generalize tryReceive terms.session host = looked at goes
      obtain ⟨answer, later, notes⟩ := looked
      dsimp only at goes
      split at goes <;> cases goes
      rfl
  | beginning | waiting wait =>
      simp only [Receive.step, Action.value_bind] at goes
      exact after _ _ _ _ goes

/-- A wait that is limited to a span is never without an end, and lacks of the
span what exceeds whole milliseconds, or what exceeds the longest span.  It
reports that the time is over if the system does, and so before the span is over
exactly if it lacks more than the system's delay.  A wait for packets that gives
up does so before its deadline exactly if its last wait lacked more than that,
and so does a receiver, unless the system refused to wait. -/
theorem gives_up_early_exactly_by_lack (span delay : Nanoseconds) :
    (waitMilliseconds (some span) ≠ Machine.infinite ∧
      (waitMilliseconds (some span)).toNat * nanosecondsPerMillisecond +
        lack span = span ∧
      (span ≤ longestSpan → lack span = span % nanosecondsPerMillisecond) ∧
      (longestSpan ≤ span → lack span = span - longestSpan)) ∧
    (∀ own cancel interrupt machine,
      let reply := Event.wait own cancel interrupt (some span) machine
      reply.state.calls =
        machine.calls ++ [.waitForMultipleObjects (ranked own cancel interrupt)
          (waitMilliseconds (some span))] ∧
      (reply.value = .ok .timedOut ↔
        Waited machine reply.state (waitMilliseconds (some span))
          Machine.waitTimeout) ∧
      ∀ began back,
        KeepsTime delay machine reply.state began back →
        reply.value = .ok .timedOut →
          (back < began + span ↔ delay < lack span)) ∧
    ∀ id interrupt back (made last : Host Machine)
        (earlier : List (Host Machine)),
      last.clock ≤ back →
      let deadline := made.clock + span
      (∀ next, course WaitReadable.step
          (waitReadable id interrupt (some span) made).value earlier =
            .running next →
        let reply := next.step last
        KeepsTime delay last.driver reply.state.driver last.clock back →
        reply.value = .finished (.ok false) →
          (back < deadline ↔ delay < lack (deadline - last.clock))) ∧
      ∀ next, course Receive.step
          (receive id interrupt (some span) made).value earlier =
            .running next →
        let reply := next.step last
        KeepsTime delay last.driver reply.state.driver last.clock back →
        reply.value = .finished (refuse .timedOut) →
          (∃ milliseconds, Waited last.driver reply.state.driver milliseconds
            Machine.waitFailed) ∨
          (back < deadline ↔ delay < lack (deadline - last.clock)) := by
  refine ⟨⟨waitMilliseconds_ne_infinite span, asked_add_lack span,
    lack_eq_mod, lack_eq_sub⟩, ?_, ?_⟩
  · intro own cancel interrupt machine reply
    refine ⟨calls_eventWait, eventWait_timedOut_iff, ?_⟩
    intro began back keeps timedOut
    exact early_iff_of_add_eq (back_add_lack keeps timedOut)
  · intro id interrupt back made last earlier lasts deadline
    constructor
    · intro next runs reply keeps gaveUp
      have terms := terms_of_course_waitReadable runs
      obtain ⟨untilGaveUp, state⟩ := waitReadable_gives_up gaveUp
      rw [state] at keeps
      exact until_early_iff (by rw [terms]; rfl) lasts keeps untilGaveUp
    · intro next runs reply keeps gaveUp
      have terms := terms_of_course_receive runs
      obtain ⟨ended, state⟩ := receive_gives_up gaveUp
      rw [state] at keeps ⊢
      rcases ended with untilGaveUp | refused
      · exact .inr (until_early_iff (by rw [terms]; rfl) lasts keeps untilGaveUp)
      · exact .inl (failed_of_until_refused refused)

/-- A session that looks for packets for a microsecond. -/
def briefSession : Session :=
  { adapter := 1, handle := ⟨32⟩, readEvent := ⟨48⟩, shutdownEvent := ⟨64⟩,
    capacity := 131072, config := { spinCount := 1 } }

/-- A host with that session at a moment. -/
def briefHost (clock : Nanoseconds) : Host Machine :=
  { driver := {}, clock
    sessions := (∅ : Table SessionId Session).insert 4 briefSession }

/-- A wait for its packets about to ask the system. -/
def briefWait : WaitReadable :=
  { terms := { session := 4, deadline := some 1500000 }, phase := .beginning }

/-- A receiver about to ask the system. -/
def briefReceiver : Receive :=
  { terms := { session := 4, deadline := some 50000000 }
    rounds := 1, phase := .beginning }

/-- One and a half milliseconds are waited for as one, by an event and by a
session.  A receiver with 50 milliseconds that has looked for a microsecond
waits for 49. -/
theorem gives_up_early_exactly_by_lack_of_half_a_millisecond :
    ((Event.wait 16 32 none (some 1500000) {}).value = .ok .timedOut ∧
      0 + 1 * 1000000 < 0 + 1500000) ∧
    (course WaitReadable.step
        (waitReadable 4 none (some 1500000) (briefHost 0)).value [briefHost 0] =
          .running briefWait ∧
      (briefWait.step (briefHost 0)).value = .finished (.ok false) ∧
      0 + 1 * 1000000 < (briefHost 0).clock + 1500000) ∧
    course Receive.step
        (receive 4 none (some 50000000) (briefHost 0)).value [briefHost 0] =
          .running briefReceiver ∧
      (briefReceiver.step (briefHost 1000)).value =
        .finished (refuse .timedOut) ∧
      1000 + 49 * 1000000 < (briefHost 0).clock + 50000000 := by
  obtain ⟨_, events, sessions⟩ := gives_up_early_exactly_by_lack 1500000 0
  obtain ⟨_, _, receivers⟩ := gives_up_early_exactly_by_lack 50000000 0
  refine ⟨⟨rfl, ?_⟩, ⟨rfl, rfl, ?_⟩, rfl, rfl, ?_⟩
  · refine ((events 16 32 none {}).2.2 0 _ ?_ rfl).mpr (by decide)
    exact keepsTime_of_calls (events 16 32 none {}).1 0 0
  · have noted : (briefWait.step (briefHost 0)).state.driver.calls =
        (briefHost 0).driver.calls ++
          [.waitForMultipleObjects [64, 48] 1] := rfl
    exact ((sessions 4 none _ (briefHost 0) (briefHost 0) [briefHost 0]
      (by decide)).1 briefWait rfl (keepsTime_of_calls noted 0 0) rfl).mpr
        (by decide)
  · have noted : (briefReceiver.step (briefHost 1000)).state.driver.calls =
        (briefHost 1000).driver.calls ++
          [.waitForMultipleObjects [64, 48] 49] := rfl
    rcases (receivers 4 none _ (briefHost 0) (briefHost 1000) [briefHost 0]
        (by decide)).2 briefReceiver rfl (keepsTime_of_calls noted 0 1000) rfl
      with ⟨_, failed⟩ | early
    · exact absurd ((waited_iff noted).mp failed).2 (by decide)
    · exact early.mpr (by decide)

end Kernel
end VirtualAdapter

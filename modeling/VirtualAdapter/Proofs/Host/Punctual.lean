import VirtualAdapter.Proofs.Host.Courses
import VirtualAdapter.Proofs.Memory.ReadEvents

/-!
# Calls whose time is over

A call that waits for packets looks at the time before it looks at the events.
So it answers that its time is over if that is so when it begins to wait, also
where an event is set; and if the clock cannot name the end of its time it breaks
off.  While there is time left it never misses an event that
stays set, and answers by the one of the highest rank.
-/

namespace VirtualAdapter
namespace Host

open VirtualAdapter.Action (bind_apply pure_apply)
open Memory (MemoryDriver)
open Signal (Nanoseconds Wait Wakeup isNameable)

variable
  {id : SessionId}
  {session : Session}
  {interrupt : Option EventHandle}
  {timeout : Option Nanoseconds}
  {made early begun host : Host MemoryDriver}
  {looks rest : List (Host MemoryDriver)}

/-! ## Looking for a packet -/

/-- The device of a session is there, and no packet waits. -/
def Unfilled (session : Session) (host : Host MemoryDriver) : Prop :=
  ∃ entry, host.driver.sessions.get? session.handle.number = some entry ∧
    entry.failed = false ∧ entry.inbound.isDrained = true

/-- The driver has nothing to receive exactly if it says that a call would
block; it never says that the time is over. -/
theorem receivePacket_cases
    (session : Session)
    (host : Host MemoryDriver) :
    ((MemoryDriver.receivePacket session.handle host.driver).value =
        refuse .wouldBlock ∧ Unfilled session host) ∨
    ¬ Unfilled session host ∧ ∀ failure,
      (MemoryDriver.receivePacket session.handle host.driver).value =
          .error failure →
        failure ≠ .refused .wouldBlock ∧ failure ≠ .refused .timedOut := by
  unfold MemoryDriver.receivePacket
  split
  case h_1 gone =>
    refine .inr ⟨fun quiet => ?_, fun failure same => ?_⟩
    · obtain ⟨entry, found, _⟩ := quiet
      cases gone.symm.trans found
    · obtain rfl := Except.error.inj same
      exact ⟨nofun, nofun⟩
  case h_2 entry found =>
    have alone : ∀ other, host.driver.sessions.get? session.handle.number =
        some other → other = entry :=
      fun other present => Option.some.inj (present.symm.trans found)
    split
    case isTrue failed =>
      refine .inr ⟨fun quiet => ?_, fun failure same => ?_⟩
      · obtain ⟨other, present, healthy, _⟩ := quiet
        rw [alone other present, failed] at healthy
        cases healthy
      · obtain rfl := Except.error.inj same
        exact ⟨nofun, nofun⟩
    case isFalse healthy =>
      rw [Bool.not_eq_true] at healthy
      rw [Ring.PacketRing.pop_eq]
      cases drained : entry.inbound.isDrained with
      | true => exact .inl ⟨rfl, entry, found, healthy, drained⟩
      | false =>
          refine .inr ⟨fun quiet => ?_, fun failure same => ?_⟩
          · obtain ⟨other, present, _, empty⟩ := quiet
            rw [alone other present, drained] at empty
            cases empty
          · -- A packet that cannot be lent is an error of the driver.
            simp only [Bool.false_eq_true, if_false, MemoryDriver.lend] at same
            split at same
            · obtain rfl := Except.error.inj same
              exact ⟨nofun, nofun⟩
            · cases same

/-- A look finds no packet exactly if the session is open and no packet waits;
it never says that the time is over. -/
theorem look_cases
    (known : ∃ stats, host.sessions.get? id = some { session with stats }) :
    ((tryReceive id host).value = refuse .wouldBlock ∧
      host.driver.signals.isSet session.shutdownEvent.number = false ∧
      Unfilled session host) ∨
    (tryReceive id host).value ≠ refuse .wouldBlock ∧
      (tryReceive id host).value ≠ refuse .timedOut ∧
      ¬ (host.driver.signals.isSet session.shutdownEvent.number = false ∧
        Unfilled session host) := by
  obtain ⟨stats, found⟩ := known
  unfold tryReceive
  cases shut : host.driver.signals.isSet session.shutdownEvent.number with
  | true =>
      have closed : (isShutDown { session with stats } host).value = true := shut
      rw [whileOpen_of_shut _ found closed]
      exact .inr ⟨fun same => (nomatch same), fun same => (nomatch same),
        fun both => (nomatch both.1)⟩
  | false =>
      have unshut : (isShutDown { session with stats } host).value = false := shut
      rw [whileOpen_of_open _ found unshut]
      have answers := receivePacket_cases session host
      obtain ⟨value, driver, notes, asked⟩ : ∃ value driver notes,
          Driver.receivePacket session.handle host.driver =
            ⟨value, driver, notes⟩ := ⟨_, _, _, rfl⟩
      change MemoryDriver.receivePacket session.handle host.driver = _ at asked
      rw [asked] at answers
      change Driver.receivePacket session.handle host.driver = _ at asked
      have unread : (isShutDown { session with stats } host).state = host := rfl
      rw [unread]
      simp only [bind_apply, value_ask, asked]
      rcases answers with ⟨same, quiet⟩ | ⟨loud, others⟩
      · obtain rfl : value = refuse .wouldBlock := same
        exact .inl ⟨rfl, trivial, quiet⟩
      · cases value with
        | error failure =>
            obtain ⟨unblocked, timely⟩ := others failure rfl
            exact .inr ⟨fun same => unblocked (Except.error.inj same),
              fun same => timely (Except.error.inj same),
              fun both => loud both.2⟩
        | ok raw =>
            exact .inr ⟨fun same => (nomatch same), fun same => (nomatch same),
              fun both => loud both.2⟩

section Looking

variable {call : Receive} {taken : Nat}

/-- A look that finds no packet is followed by another, or by a wait. -/
theorem step_looking_of_blocked
    (phase : call.phase = .looking taken)
    (blocked : (tryReceive call.terms.session host).value = refuse .wouldBlock) :
    (call.step host).value = .running
      { call with
        phase :=
          if taken + 1 < call.rounds then .looking (taken + 1)
          else .beginning } := by
  simp only [Receive.step, phase, bind_apply, blocked]
  rfl

/-- Any other look is the end of the call. -/
theorem step_looking_of_answered
    (phase : call.phase = .looking taken)
    (answered : (tryReceive call.terms.session host).value ≠
      refuse .wouldBlock) :
    (call.step host).value =
      .finished (tryReceive call.terms.session host).value := by
  simp only [Receive.step, phase, bind_apply]
  rfl

/-- A receiver that looks for the whole of a round begins to wait, unless a
look answers. -/
theorem course_looking_cases
    (phase : call.phase = .looking taken)
    (round : taken + (looks.length + 1) = call.rounds)
    (later : List (Host MemoryDriver)) :
    (∃ look ∈ host :: looks,
      (tryReceive call.terms.session look).value ≠ refuse .wouldBlock ∧
      course Receive.step call (host :: looks ++ later) =
        .finished (tryReceive call.terms.session look).value) ∨
    (∀ look ∈ host :: looks,
      (tryReceive call.terms.session look).value = refuse .wouldBlock) ∧
      course Receive.step call (host :: looks ++ later) =
        course Receive.step { call with phase := .beginning } later := by
  induction looks generalizing call taken host with
  | nil =>
      by_cases blocked : (tryReceive call.terms.session host).value =
          refuse .wouldBlock
      · refine .inr ⟨fun look only => ?_, ?_⟩
        · rw [List.mem_singleton.mp only]
          exact blocked
        · have runs := step_looking_of_blocked phase blocked
          rw [if_neg (by simp only [List.length_nil] at round; omega)] at runs
          exact course_of_running runs later
      · exact .inl ⟨host, .head _, blocked,
          course_of_finished (step_looking_of_answered phase blocked) later⟩
  | cons next looks hypothesis =>
      by_cases blocked : (tryReceive call.terms.session host).value =
          refuse .wouldBlock
      · have runs := step_looking_of_blocked phase blocked
        rw [List.length_cons] at round
        rw [if_pos (by omega)] at runs
        have goes := course_of_running runs (next :: looks ++ later)
        rw [List.cons_append, goes]
        rcases @hypothesis next { call with phase := .looking (taken + 1) }
            (taken + 1) rfl (by dsimp only; omega) with
          ⟨look, member, answered, ends⟩ | ⟨others, waits⟩
        · exact .inl ⟨look, .tail _ member, answered, ends⟩
        · refine .inr ⟨fun look member => ?_, waits⟩
          rcases List.mem_cons.mp member with rfl | among
          · exact blocked
          · exact others look among
      · exact .inl ⟨host, .head _, blocked,
          course_of_finished (step_looking_of_answered phase blocked) _⟩

end Looking

/-! ## Calls that are made -/

/-- The time of a call that was made with a timeout is over in a later host. -/
def IsLate
    (made : Host MemoryDriver)
    (timeout : Option Nanoseconds)
    (later : Host MemoryDriver) : Prop :=
  ∃ limit, timeout = some limit ∧ made.clock + limit ≤ later.clock

theorem overdue_iff
    {terms : WaitTerms}
    (limited : terms.deadline = timeout.map (made.clock + ·))
    (later : Host MemoryDriver) :
    Overdue terms later ↔ IsLate made timeout later := by
  unfold Overdue IsLate
  rw [limited]
  cases timeout with
  | none => exact ⟨fun settled => (nomatch settled), fun late => (nomatch late)⟩
  | some limit =>
      constructor
      · rintro ⟨_, ⟨⟩, settled⟩
        exact ⟨limit, rfl, settled⟩
      · rintro ⟨_, ⟨⟩, late⟩
        exact ⟨_, rfl, late⟩

/-- The time of a wait for packets is that of its call. -/
theorem overdue_waitReadable_iff (later : Host MemoryDriver) :
    Overdue (waitReadable id interrupt timeout made).value.terms later ↔
      IsLate made timeout later :=
  overdue_iff rfl later

/-- The time of a receiver is that of its call. -/
theorem overdue_receive_iff (later : Host MemoryDriver) :
    Overdue (receive id interrupt timeout made).value.terms later ↔
      IsLate made timeout later :=
  @overdue_iff timeout made (receive id interrupt timeout made).value.terms rfl
    later

/-- A wait for packets whose deadline the clock cannot name looks at the shutdown
and breaks off. -/
theorem course_waitReadable_of_unnameable
    {terms : WaitTerms}
    (unnameable : isNameable terms.deadline = false)
    (known : StaysKnown terms.session session (early :: rest)) :
    let course := course WaitReadable.step { terms } (early :: rest)
    (early.driver.signals.isSet session.shutdownEvent.number = true ∧
      course = .finished (refuse .sessionEnded)) ∨
    early.driver.signals.isSet session.shutdownEvent.number = false ∧
      course = .finished (.error .beyondClock) := by
  obtain ⟨stats, found⟩ := known early (.head _)
  dsimp only
  cases shut : early.driver.signals.isSet session.shutdownEvent.number with
  | true =>
      have closed : (isShutDown { session with stats } early).value = true := shut
      refine .inl ⟨rfl, course_of_finished ?_ _⟩
      simp only [WaitReadable.step, bind_apply, whileOpen_of_shut _ found closed]
      rfl
  | false =>
      have unshut : (isShutDown { session with stats } early).value = false := shut
      refine .inr ⟨rfl, course_of_finished ?_ _⟩
      simp only [WaitReadable.step, bind_apply, whileOpen_of_open _ found unshut,
        pure_apply, unnameable]
      rfl

/-- A wait for packets looks at the shutdown, begins to wait and waits. -/
theorem course_waitReadable_cases
    {terms : WaitTerms}
    (nameable : isNameable terms.deadline = true)
    (known : StaysKnown terms.session session (early :: begun :: rest))
    {event : EventHandle}
    (watched : IsWatched session terms event)
    (stays : StaysSet event rest) :
    let course := course WaitReadable.step { terms } (early :: begun :: rest)
    (early.driver.signals.isSet session.shutdownEvent.number = true ∧
      course = .finished (refuse .sessionEnded)) ∨
    early.driver.signals.isSet session.shutdownEvent.number = false ∧
      ((Overdue terms begun ∧ course = .finished (.ok false)) ∨
        ¬ Overdue terms begun ∧
          ((∃ next, course = .running next ∧ rest.length ≤ 12) ∨
            ∃ outcome, course = .finished (answerOf outcome) ∧
              EndsBy session terms rest outcome)) := by
  obtain ⟨stats, found⟩ := known early (.head _)
  dsimp only
  cases shut : early.driver.signals.isSet session.shutdownEvent.number with
  | true =>
      have closed : (isShutDown { session with stats } early).value = true := shut
      refine .inl ⟨rfl, course_of_finished ?_ _⟩
      simp only [WaitReadable.step, bind_apply, whileOpen_of_shut _ found closed]
      rfl
  | false =>
      have unshut : (isShutDown { session with stats } early).value = false := shut
      have checked : (WaitReadable.step { terms } early).value =
          .running { terms, phase := .beginning } := by
        simp only [WaitReadable.step, bind_apply, whileOpen_of_open _ found unshut,
          pure_apply, nameable, if_true]
      refine .inr ⟨rfl, ?_⟩
      rw [course_of_running checked]
      have one : (WaitReadable.step { terms, phase := .beginning } begun).value =
          (beginUntil terms begun).value.map
            (WaitReadable.waitingOn { terms, phase := .beginning })
            fun answer => answer := rfl
      rcases until_cases nameable (known begun (.tail _ (.head _))) watched stays with
        ⟨late, settled⟩ | ⟨timely, wait, begins, ends⟩
      · rw [settled] at one
        exact .inl ⟨late, course_of_finished one rest⟩
      · rw [begins] at one
        refine .inr ⟨timely, ?_⟩
        rw [course_of_running one, course_waitingOn]
        rcases ends with ⟨next, runs, bound⟩ | ⟨outcome, ends, ended⟩
        · rw [runs]
          exact .inl ⟨_, rfl, bound⟩
        · rw [ends]
          exact .inr ⟨outcome, rfl, ended⟩

/-- A receiver that begins to wait does so like a wait for packets, but for an
end that lets it look again. -/
theorem course_beginning_cases
    (call : Receive)
    (nameable : isNameable call.terms.deadline = true)
    (known : StaysKnown call.terms.session session (begun :: rest))
    {event : EventHandle}
    (watched : IsWatched session call.terms event)
    (stays : StaysSet event rest) :
    let course := course Receive.step { call with phase := .beginning }
      (begun :: rest)
    (Overdue call.terms begun ∧ course = .finished (refuse .timedOut)) ∨
    ¬ Overdue call.terms begun ∧
      ((∃ next, course = .running next ∧ rest.length ≤ 12) ∨
        ∃ outcome, EndsBy session call.terms rest outcome ∧
          (outcome ≠ .ready →
            course = .finished (answerAfter (answerOf outcome)))) := by
  dsimp only
  have one : (Receive.step { call with phase := .beginning } begun).value =
      (Receive.afterWait { call with phase := .beginning }
        (beginUntil call.terms begun).value
        (beginUntil call.terms begun).state).value := rfl
  rcases until_cases nameable (known begun (.head _)) watched stays with
    ⟨late, settled⟩ | ⟨timely, wait, begins, ends⟩
  · rw [settled] at one
    exact .inl ⟨late, course_of_finished one rest⟩
  · rw [begins] at one
    refine .inr ⟨timely, ?_⟩
    rw [course_of_running one]
    obtain ⟨goes, stops⟩ := @course_receive_waitingOn
      { call with phase := .beginning } wait rest
    rcases ends with ⟨next, runs, bound⟩ | ⟨outcome, ends, ended⟩
    · exact .inl ⟨_, goes next runs, bound⟩
    · refine .inr ⟨outcome, ended, fun other => stops _ ends fun same => ?_⟩
      cases outcome <;> first | exact other rfl | cases same

/-- How a wait for packets answers while an event stays set: by the time if
that is over, and else by the event of the highest rank that it has found. -/
structure AnswersBy
    (late : Prop)
    (interrupt : Option EventHandle)
    (hosts : List (Host MemoryDriver))
    (answer : Outcome Bool) : Prop where
  /-- The time is what it goes by exactly if that is over. -/
  false_iff : answer = .ok false ↔ late
  /-- The caller's event goes first. -/
  interrupted : ¬ late → ∀ event, interrupt = some event →
    StaysSet event hosts → answer = refuse .interrupted
  /-- Without it the driver's event is heard. -/
  ready : ¬ late →
    (∀ event, interrupt = some event → StaysUnset event hosts) →
      answer = .ok true
  /-- There is no third. -/
  either : ¬ late → answer = refuse .interrupted ∨ answer = .ok true

/-- A wait of an open session answers by an event that stays set, unless its
time is over at the begin. -/
theorem answersBy_of_staysSet
    (nameable : isNameable (timeout.map (made.clock + ·)) = true)
    (known : StaysKnown id session (early :: begun :: rest))
    (unshut : StaysUnset session.shutdownEvent (early :: begun :: rest))
    (stays : StaysSet session.readEvent (early :: begun :: rest) ∨
      ∃ event, interrupt = some event ∧
        StaysSet event (early :: begun :: rest))
    (long : 12 < rest.length) :
    ∃ answer,
      course WaitReadable.step (waitReadable id interrupt timeout made).value
        (early :: begun :: rest) = .finished answer ∧
      AnswersBy (IsLate made timeout begun) interrupt
        (early :: begun :: rest) answer := by
  have among : ∀ host ∈ rest, host ∈ early :: begun :: rest :=
    fun host member => .tail _ (.tail _ member)
  obtain ⟨event, watched, set⟩ : ∃ event, IsWatched session
      (waitReadable id interrupt timeout made).value.terms event ∧
      StaysSet event (early :: begun :: rest) := by
    rcases stays with own | ⟨event, given, set⟩
    · exact ⟨_, .inl rfl, own⟩
    · exact ⟨event, .inr (.inr given), set⟩
  rcases @course_waitReadable_cases session early begun rest
      (waitReadable id interrupt timeout made).value.terms nameable known event
      watched fun host member => set host (among host member) with
    ⟨shut, _⟩ | ⟨_, ⟨late, answers⟩ | ⟨timely, ⟨_, _, short⟩ | ended⟩⟩
  · cases shut.symm.trans (unshut early (.head _))
  · rw [overdue_waitReadable_iff] at late
    exact ⟨_, answers, ⟨iff_of_true rfl late, fun timely => absurd late timely,
      fun timely => absurd late timely, fun timely => absurd late timely⟩⟩
  · omega
  · obtain ⟨outcome, answers, ended⟩ := ended
    rw [overdue_waitReadable_iff] at timely
    refine ⟨_, answers, ?_⟩
    cases ended with
    | cancelled heard =>
        exact absurd (fun host member => unshut host (among host member)) heard
    | interrupted given heard =>
        refine ⟨iff_of_false nofun timely, fun _ _ _ _ => rfl,
          fun _ never => ?_, fun _ => .inl rfl⟩
        exact absurd (fun host member => never _ given host (among host member))
          heard
    | ready unset =>
        refine ⟨iff_of_false nofun timely, fun _ event given always => ?_,
          fun _ _ => rfl, fun _ => .inr rfl⟩
        exact absurd (fun host member => always host (among host member))
          (unset event given)

/-- A wait answers that its time is over only if that is so at the begin, or no
event for which it waits stays set. -/
theorem not_staysSet_of_false
    (known : StaysKnown id session (early :: begun :: rest))
    (answers : course WaitReadable.step
      (waitReadable id interrupt timeout made).value
      (early :: begun :: rest) = .finished (.ok false))
    (timely : ¬ IsLate made timeout begun)
    {event : EventHandle}
    (watched : IsWatched session
      (waitReadable id interrupt timeout made).value.terms event) :
    ¬ StaysSet event (early :: begun :: rest) := by
  intro set
  rw [← @overdue_waitReadable_iff id interrupt] at timely
  cases nameable : isNameable
      (waitReadable id interrupt timeout made).value.terms.deadline with
  | false =>
      rcases course_waitReadable_of_unnameable nameable known with
        ⟨_, settled⟩ | ⟨_, settled⟩ <;> cases settled.symm.trans answers
  | true =>
      rcases @course_waitReadable_cases session early begun rest _ nameable known
          event watched fun host member => set host (.tail _ (.tail _ member)) with
        ⟨_, settled⟩ | ⟨_, ⟨late, _⟩ | ⟨_, ⟨_, settled, _⟩ |
          ⟨outcome, settled, ended⟩⟩⟩
      · cases settled.symm.trans answers
      · exact timely late
      · cases settled.symm.trans answers
      · cases ended <;> cases settled.symm.trans answers

/-- A receiver looks at least once in a round. -/
theorem rounds_pos : 0 < (receive id interrupt timeout made).value.rounds :=
  Nat.le_max_right _ _

/-- A receiver whose deadline the clock can name starts with a look. -/
theorem phase_receive_of_nameable
    (nameable : isNameable (timeout.map (made.clock + ·)) = true) :
    (receive id interrupt timeout made).value.phase = .looking 0 :=
  ReceivePhase.first_of_nameable nameable

/-- A receiver whose deadline the clock cannot name breaks off. -/
theorem course_receive_of_unnameable
    (unnameable : isNameable (timeout.map (made.clock + ·)) = false)
    (host : Host MemoryDriver)
    (later : List (Host MemoryDriver)) :
    course Receive.step (receive id interrupt timeout made).value
      (host :: later) = .finished (.error .beyondClock) := by
  have breaking : (receive id interrupt timeout made).value.phase = .breaking :=
    ReceivePhase.first_of_unnameable unnameable
  refine course_of_finished ?_ later
  simp only [Receive.step, breaking, pure_apply]

/-- A receiver looks for a whole round and begins to wait, unless a look
answers, and no look says that the time is over. -/
theorem course_receive_cases
    (nameable : isNameable (timeout.map (made.clock + ·)) = true)
    (known : StaysKnown id session (looks ++ begun :: rest))
    (round : looks.length = (receive id interrupt timeout made).value.rounds) :
    let call := (receive id interrupt timeout made).value
    (∃ look ∈ looks,
      ¬ (look.driver.signals.isSet session.shutdownEvent.number = false ∧
        Unfilled session look) ∧
      ∃ answer, answer ≠ refuse .timedOut ∧
        course Receive.step call (looks ++ begun :: rest) =
          .finished answer) ∨
    (∀ look ∈ looks,
      look.driver.signals.isSet session.shutdownEvent.number = false ∧
        Unfilled session look) ∧
      course Receive.step call (looks ++ begun :: rest) =
        course Receive.step { call with phase := .beginning }
          (begun :: rest) := by
  intro call
  cases looks with
  | nil => exact absurd round.symm (Nat.ne_of_gt rounds_pos)
  | cons host looks =>
      have looked : ∀ look ∈ host :: looks, _ := fun look member =>
        look_cases (known look (List.mem_append_left _ member))
      rcases @course_looking_cases host looks call 0
          (phase_receive_of_nameable nameable) ((Nat.zero_add _).trans round) (begun :: rest) with
        ⟨look, member, answered, settled⟩ | ⟨blocked, waits⟩
      · rcases looked look member with ⟨same, _⟩ | ⟨_, timely, loud⟩
        · exact absurd same answered
        · exact .inl ⟨look, member, loud, _, timely, settled⟩
      · refine .inr ⟨fun look member => ?_, waits⟩
        rcases looked look member with ⟨_, unshut, quiet⟩ | ⟨other, _⟩
        · exact ⟨unshut, quiet⟩
        · exact absurd (blocked look member) other

/-- A receiver of an open session without packets answers by the caller's event
if that stays set, unless its time is over when it begins to wait. -/
theorem receive_of_interrupted
    (nameable : isNameable (timeout.map (made.clock + ·)) = true)
    (known : StaysKnown id session (looks ++ begun :: rest))
    (unshut : StaysUnset session.shutdownEvent (looks ++ begun :: rest))
    (round : looks.length = (receive id interrupt timeout made).value.rounds)
    (quiet : ∀ look ∈ looks, Unfilled session look)
    {event : EventHandle}
    (given : interrupt = some event)
    (set : StaysSet event (looks ++ begun :: rest))
    (long : 12 < rest.length) :
    let course := course Receive.step (receive id interrupt timeout made).value
      (looks ++ begun :: rest)
    (IsLate made timeout begun ∧ course = .finished (refuse .timedOut)) ∨
    ¬ IsLate made timeout begun ∧ course = .finished (refuse .interrupted) := by
  have among : ∀ host ∈ begun :: rest, host ∈ looks ++ begun :: rest :=
    fun host member => List.mem_append_right _ member
  dsimp only
  rcases course_receive_cases nameable known round with
    ⟨look, member, loud, _⟩ | ⟨_, waits⟩
  · exact absurd ⟨unshut look (List.mem_append_left _ member), quiet look member⟩
      loud
  · rw [waits, ← @overdue_receive_iff id interrupt]
    rcases course_beginning_cases (receive id interrupt timeout made).value
        nameable (fun host member => known host (among host member))
        (.inr (.inr given))
        (fun host member => set host (among host (.tail _ member))) with
      late | ⟨timely, ⟨_, _, short⟩ | ⟨outcome, ended, answers⟩⟩
    · exact .inl late
    · omega
    · refine .inr ⟨timely, ?_⟩
      cases ended with
      | cancelled heard =>
          exact absurd (fun host member =>
            unshut host (among host (.tail _ member))) heard
      | interrupted => exact answers nofun
      | ready unset =>
          exact absurd (fun host member =>
            set host (among host (.tail _ member))) (unset event given)

/-- A receiver answers that its time is over only if that is so when it begins
to wait, or no event for which it waits stays set. -/
theorem not_staysSet_of_timedOut
    (known : StaysKnown id session (looks ++ begun :: rest))
    (round : looks.length = (receive id interrupt timeout made).value.rounds)
    (announces : ∀ look ∈ looks, look.driver.Announces session.handle.number
      session.readEvent.number)
    (answers : course Receive.step (receive id interrupt timeout made).value
      (looks ++ begun :: rest) = .finished (refuse .timedOut))
    (timely : ¬ IsLate made timeout begun)
    {event : EventHandle}
    (watched : IsWatched session
      (receive id interrupt timeout made).value.terms event) :
    ¬ StaysSet event (looks ++ begun :: rest) := by
  intro set
  have among : ∀ host ∈ begun :: rest, host ∈ looks ++ begun :: rest :=
    fun host member => List.mem_append_right _ member
  rw [← @overdue_receive_iff id interrupt] at timely
  have nameable : isNameable (timeout.map (made.clock + ·)) = true := by
    rw [← Bool.not_eq_false]
    intro unnameable
    cases looks with
    | nil => exact absurd round.symm (Nat.ne_of_gt rounds_pos)
    | cons look looks =>
        cases (course_receive_of_unnameable unnameable look _).symm.trans answers
  rcases course_receive_cases nameable known round with
    ⟨_, _, _, answer, other, settled⟩ | ⟨blocked, waits⟩
  · obtain rfl := Progress.finished.inj (settled.symm.trans answers)
    exact other rfl
  · rw [waits] at answers
    obtain ⟨look, member⟩ : ∃ look, look ∈ looks :=
      List.exists_mem_of_length_pos (round ▸ rounds_pos)
    obtain ⟨unshut, entry, found, healthy, drained⟩ := blocked look member
    have heard := set look (List.mem_append_left _ member)
    rcases watched with rfl | rfl | given
    · -- An event that is set says that a packet waits, or the device is gone.
      have told := ((announces look member).running entry found).mp heard
      simp [healthy, drained] at told
    · cases unshut.symm.trans heard
    · rcases course_beginning_cases (receive id interrupt timeout made).value
          nameable (fun host member => known host (among host member))
          (.inr (.inr given))
          (fun host member => set host (among host (.tail _ member))) with
        ⟨late, _⟩ | ⟨_, ⟨_, settled, _⟩ | ⟨outcome, ended, settled⟩⟩
      · exact timely late
      · cases settled.symm.trans answers
      · cases ended with
        | cancelled => cases (settled nofun).symm.trans answers
        | interrupted => cases (settled nofun).symm.trans answers
        | ready unset =>
            exact unset event given fun host member =>
              set host (among host (.tail _ member))

/-- A call for packets is made in one host and takes its steps in others.  If
its session is open, and the driver's or the caller's event is set in all of
them, it answers by the event of the highest rank, or, if its time is over when
it begins to wait, by that.  If its time is not over then, it says so only where
no event for which it waits is set in all of them.  It breaks off if the clock
cannot name the end of its time. -/
theorem answers_by_time_exactly_if_late
    (id : SessionId)
    (session : Session)
    (interrupt : Option EventHandle)
    (timeout : Option Nanoseconds)
    (made early begun : Host MemoryDriver)
    (looks rest : List (Host MemoryDriver)) :
    let nameable := isNameable (timeout.map (made.clock + ·))
    let late := IsLate made timeout begun
    let wait := (waitReadable id interrupt timeout made).value
    let waiting := early :: begun :: rest
    let receiver := (receive id interrupt timeout made).value
    let receiving := looks ++ begun :: rest
    (StaysKnown id session waiting →
      (StaysUnset session.shutdownEvent waiting →
        (nameable = false → course WaitReadable.step wait waiting =
          .finished (.error .beyondClock)) ∧
        (nameable = true →
          (StaysSet session.readEvent waiting ∨
            ∃ event, interrupt = some event ∧ StaysSet event waiting) →
          12 < rest.length →
            ∃ answer, course WaitReadable.step wait waiting = .finished answer ∧
              AnswersBy late interrupt waiting answer)) ∧
      (course WaitReadable.step wait waiting = .finished (.ok false) → ¬ late →
        ∀ event, IsWatched session wait.terms event →
          ¬ StaysSet event waiting)) ∧
    (StaysKnown id session receiving → looks.length = receiver.rounds →
      (nameable = false → course Receive.step receiver receiving =
        .finished (.error .beyondClock)) ∧
      (nameable = true → StaysUnset session.shutdownEvent receiving →
        (∀ look ∈ looks, Unfilled session look) →
        (∃ event, interrupt = some event ∧ StaysSet event receiving) →
        12 < rest.length →
          late ∧ course Receive.step receiver receiving =
              .finished (refuse .timedOut) ∨
            ¬ late ∧ course Receive.step receiver receiving =
              .finished (refuse .interrupted)) ∧
      ((∀ look ∈ looks, look.driver.Announces session.handle.number
          session.readEvent.number) →
        course Receive.step receiver receiving = .finished (refuse .timedOut) →
          ¬ late → ∀ event, IsWatched session receiver.terms event →
            ¬ StaysSet event receiving)) := by
  intro nameable late wait waiting receiver receiving
  refine ⟨fun known => ⟨fun unshut => ⟨fun unnameable => ?_, ?_⟩, ?_⟩,
    fun known round => ⟨fun unnameable => ?_, ?_, ?_⟩⟩
  · rcases @course_waitReadable_of_unnameable session early (begun :: rest)
        wait.terms unnameable known with ⟨shut, _⟩ | ⟨_, breaks⟩
    · cases shut.symm.trans (unshut early (.head _))
    · exact breaks
  · exact fun named stays long => answersBy_of_staysSet named known unshut stays long
  · exact fun answers timely event watched =>
      not_staysSet_of_false known answers timely watched
  · cases looks with
    | nil => exact absurd round.symm (Nat.ne_of_gt rounds_pos)
    | cons look looks => exact course_receive_of_unnameable unnameable look _
  · rintro named unshut quiet ⟨event, given, set⟩ long
    exact receive_of_interrupted named known unshut round quiet given set long
  · exact fun announces answers timely event watched =>
      not_staysSet_of_timedOut known round announces answers timely watched

/-- A wait with no time at all answers that its time is over while a packet
waits, and one without a limit that the packet can be received.  A receiver
whose caller has set an event answers likewise while no packet waits.  With the
longest time there is both break off. -/
theorem answers_by_time_exactly_if_late_of_no_time :
    let started : List Memory.Request :=
      [.createAdapter "x" "t" none, .startSession ⟨2⟩ 4, .newEvent, .newEvent,
        .setEvent ⟨2⟩]
    let start := MemoryDriver.fresh Memory.defaultVersion none
    let session : Session :=
      { adapter := 1, handle := ⟨3⟩, readEvent := ⟨0⟩, shutdownEvent := ⟨1⟩,
        capacity := 4, config := { spinCount := 2 } }
    let sessions := (∅ : Table SessionId Session).insert 4 session
    let full : Host MemoryDriver :=
      { driver := start.serveAll (started ++ [.inject "x" [7]]), sessions }
    let empty : Host MemoryDriver :=
      { driver := start.serveAll started, sessions }
    let wait := fun timeout => (waitReadable 4 none timeout full).value
    let receiver := fun timeout => (receive 4 (some ⟨2⟩) timeout empty).value
    let longest : Nanoseconds := 18446744073709551615999999999
    course WaitReadable.step (wait (some 0)) (List.replicate 15 full) =
        .finished (.ok false) ∧
      course WaitReadable.step (wait none) (List.replicate 15 full) =
        .finished (.ok true) ∧
      course Receive.step (receiver (some 0)) (List.replicate 16 empty) =
        .finished (refuse .timedOut) ∧
      course Receive.step (receiver none) (List.replicate 16 empty) =
        .finished (refuse .interrupted) ∧
      course WaitReadable.step (wait (some longest)) (List.replicate 15 full) =
        .finished (.error .beyondClock) ∧
      course Receive.step (receiver (some longest)) (List.replicate 16 empty) =
        .finished (.error .beyondClock) := by
  intro started start session sessions full empty wait receiver longest
  have all_full : ∀ other ∈ List.replicate 15 full, other = full :=
    fun other member => List.eq_of_mem_replicate member
  have all_empty : ∀ other ∈ List.replicate 16 empty, other = empty :=
    fun other member => List.eq_of_mem_replicate member
  have known_full : StaysKnown 4 session (List.replicate 15 full) := by
    intro other member
    rw [all_full other member]
    exact ⟨_, rfl⟩
  have known_empty : StaysKnown 4 session (List.replicate 16 empty) := by
    intro other member
    rw [all_empty other member]
    exact ⟨_, rfl⟩
  have unshut_full :
      StaysUnset session.shutdownEvent (List.replicate 15 full) := by
    intro other member
    rw [all_full other member]
    decide +kernel
  have unshut_empty :
      StaysUnset session.shutdownEvent (List.replicate 16 empty) := by
    intro other member
    rw [all_empty other member]
    decide +kernel
  have set_full : StaysSet session.readEvent (List.replicate 15 full) := by
    intro other member
    rw [all_full other member]
    decide +kernel
  have set_empty : StaysSet ⟨2⟩ (List.replicate 16 empty) := by
    intro other member
    rw [all_empty other member]
    decide +kernel
  have quiet : ∀ look ∈ List.replicate 2 empty, Unfilled session look := by
    intro look member
    rw [List.eq_of_mem_replicate member]
    have shown : (empty.driver.sessions.get? 3).map
        (fun entry => (entry.failed, entry.inbound.isDrained)) =
          some (false, true) := by
      decide +kernel
    obtain ⟨entry, found, parts⟩ := Option.map_eq_some_iff.mp shown
    exact ⟨entry, found, congrArg Prod.fst parts, congrArg Prod.snd parts⟩
  have late : ∀ host : Host MemoryDriver, IsLate host (some 0) host :=
    fun _ => ⟨0, rfl, Nat.le_refl _⟩
  have timely : ∀ host : Host MemoryDriver, ¬ IsLate host none host :=
    fun _ late => (nomatch late)
  have waits := fun timeout =>
    ((answers_by_time_exactly_if_late 4 session none timeout full full full []
      (List.replicate 13 full)).1 known_full).1 unshut_full
  have receives := fun timeout =>
    (answers_by_time_exactly_if_late 4 session (some ⟨2⟩) timeout empty empty
      empty (List.replicate 2 empty) (List.replicate 13 empty)).2 known_empty
      rfl
  have answers := fun timeout named =>
    (waits timeout).2 named (.inl set_full) (by decide)
  have interrupts := fun timeout named =>
    (receives timeout).2.1 named unshut_empty quiet ⟨_, rfl, set_empty⟩
      (by decide)
  refine ⟨?_, ?_, ?_, ?_, (waits (some longest)).1 (by decide),
    (receives (some longest)).1 (by decide)⟩
  · obtain ⟨answer, settled, by_time⟩ := answers (some 0) (by decide)
    rwa [by_time.false_iff.mpr (late full)] at settled
  · obtain ⟨answer, settled, by_event⟩ := answers none rfl
    rwa [by_event.ready (timely full) nofun] at settled
  · exact ((interrupts (some 0) (by decide)).resolve_right fun other =>
      other.1 (late empty)).2
  · exact ((interrupts none rfl).resolve_left fun other =>
      timely empty other.1).2

end Host
end VirtualAdapter

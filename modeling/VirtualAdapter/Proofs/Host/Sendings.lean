import VirtualAdapter.Proofs.Host.Attempts

/-!
# Calls that send exactly once

A call that sends tries once or several times, and others act between its tries.
It ends well by the try that puts the packet into the ring, and only by that
one; a try that is refused leaves the ring as it was.
-/

namespace VirtualAdapter
namespace SessionStats

/-- The counters after so many more buffers were refused because the ring was
full, and so many more packets with so many bytes were sent. -/
def sending (stats : SessionStats) (refusals packets bytes : Nat) : SessionStats :=
  { stats with
    packetsSent := stats.packetsSent + UInt64.ofNat packets
    bytesSent := stats.bytesSent + UInt64.ofNat bytes
    sendRingFull := stats.sendRingFull + UInt64.ofNat refusals }

variable (stats : SessionStats) (refusals : Nat)

theorem sending_zero : stats.sending 0 0 0 = stats := by
  simp [sending]

theorem sending_succ :
    stats.sending (refusals + 1) 0 0 =
      (stats.sending refusals 0 0).recordRingFull := by
  simp only [sending, recordRingFull, UInt64.ofNat_add, UInt64.add_assoc]
  rfl

theorem sending_one (bytes : Nat) :
    stats.sending refusals 1 bytes =
      (stats.sending refusals 0 0).recordSent bytes := by
  simp [sending, recordSent]

end SessionStats

namespace Host

open VirtualAdapter.Action (bind_apply)
open Memory (MemoryDriver Request RunningSession)
open Pumping (Unmoved)
open Signal (Nanoseconds)
open VirtualAdapter.Ring (PacketRing)

variable
  {id : SessionId}
  {session : Session}
  {host : Host MemoryDriver}
  {entry : RunningSession}
  {stats : SessionStats}
  {content : Bytes}

/-! ## Calls that send -/

/-- The packet that a call sends. -/
def Entry.payload? : Entry → Option Bytes
  | trySend content | send content | sendInterruptible content _ |
    sendAsync content => some content
  | _ => none

/-- The last try found the ring full, and these steps were taken since. -/
structure Paused
    (id : SessionId)
    (content : Bytes)
    (steps waits : List Taken) : Prop where
  tries : ∃ earlier last, steps = earlier ++ last :: waits ∧
    last.isTry = true ∧ FindsFull id content last.host
  rests : ∀ taken ∈ waits, taken.isTry = false

/-- A call was interrupted after its last try had found the ring full. -/
def Interrupted
    (id : SessionId)
    (content : Bytes)
    (made : Entry)
    (steps : List Taken) : Prop :=
  ∃ interrupt waits, made = .sendInterruptible content interrupt ∧
    Paused id content steps waits ∧
    ∃ taken ∈ waits, taken.host.driver.signals.isSet interrupt.number = true

/-- Where a call that sends can be after these steps. -/
inductive Sends (id : SessionId) (content : Bytes) :
    Entry → List Taken → Blocking → Prop
  | thread {steps : List Taken} {config : SessionConfig} {phase : SendPhase} :
      Sends id content (.send content) steps
        (.send { session := id, content, config, phase })
  | future {steps : List Taken} {retriesLeft : Nat} {backoff : Nanoseconds}
      {restingUntil : Option Nanoseconds} :
      Sends id content (.sendAsync content) steps
        (.sendAsync { session := id, content, retriesLeft, backoff, restingUntil })
  | trying {steps : List Taken} {interrupt : EventHandle} :
      Sends id content (.sendInterruptible content interrupt) steps
        (.sendInterruptible { session := id, content, interrupt })
  | beginning {steps : List Taken} {interrupt : EventHandle}
      (paused : Paused id content steps []) :
      Sends id content (.sendInterruptible content interrupt) steps
        (.sendInterruptible
          { session := id, content, interrupt, phase := .beginning })
  | waiting {steps waits : List Taken} {interrupt : EventHandle}
      {wait : Signal.Wait}
      (paused : Paused id content steps waits)
      (own : wait.watch.own = interrupt.number)
      (sole : wait.watch.interrupt = none)
      (accounting : Signal.Accounting wait.watch (banks (waits.map Taken.host)) wait.phase) :
      Sends id content (.sendInterruptible content interrupt) steps
        (.sendInterruptible
          { session := id, content, interrupt, phase := .waiting wait })

/-- What a step of a call that sends comes to. -/
inductive SendStep
    (id : SessionId)
    (content : Bytes)
    (made : Entry)
    (steps : List Taken)
    (call : Blocking)
    (host : Host MemoryDriver) : Opened → Host MemoryDriver → Prop
  /-- A try ends the call with its answer. -/
  | answered
      (tries : call.isTry = true)
      (other : ¬ FindsFull id content host) :
      SendStep id content made steps call host
        (.finished (.sent (trySend id content host).value))
        (trySend id content host).state
  /-- A try finds the ring full, and another one may follow. -/
  | again {next : Blocking}
      (tries : call.isTry = true)
      (full : FindsFull id content host)
      (sends : Sends id content made (steps ++ [⟨true, host⟩]) next) :
      SendStep id content made steps call host (.going next)
        (trySend id content host).state
  /-- A try finds the ring full, and none may follow. -/
  | spent
      (tries : call.isTry = true)
      (full : FindsFull id content host) :
      SendStep id content made steps call host
        (.finished (.sent (refuse .timedOut))) (trySend id content host).state
  /-- The call rests or waits. -/
  | rested {next : Blocking} {after : Host MemoryDriver}
      (rests : call.isTry = false)
      (unmoved : Unmoved host after)
      (sends : Sends id content made (steps ++ [⟨false, host⟩]) next) :
      SendStep id content made steps call host (.going next) after
  /-- A wait ends the call. -/
  | ended {failure : Failure} {after : Host MemoryDriver}
      (rests : call.isTry = false)
      (unmoved : Unmoved host after)
      (cause : failure = .refused .interrupted →
        Interrupted id content made (steps ++ [⟨false, host⟩])) :
      SendStep id content made steps call host
        (.finished (.sent (.error failure))) after

/-- A thread tries or rests. -/
theorem sendStep_thread
    {steps : List Taken}
    {config : SessionConfig}
    {phase : SendPhase}
    (host : Host MemoryDriver) :
    let call : Blocking := .send { session := id, content, config, phase }
    SendStep id content (.send content) steps call host
      (.ofProgress (call.step host).value) (call.step host).state := by
  intro call
  let thread : Send := { session := id, content, config, phase }
  change SendStep id content _ steps call host
    (.ofProgress ((thread.step host).value.map .send .sent)) (thread.step host).state
  cases phase with
  | trying tries =>
      by_cases full : FindsFull id content host
      · have step := @Send.step_of_full _ _ host thread tries rfl full
        by_cases few : tries < config.sendRetries.toNat
        · rw [step.trans (if_pos few)]
          exact .again rfl full .thread
        · rw [step.trans (if_neg few)]
          exact .spent rfl full
      · rw [Send.step_of_other rfl full]
        exact .answered rfl full
  | resting tries moment =>
      rw [Send.step_of_resting rfl]
      by_cases due : moment ≤ host.clock
      · rw [if_pos due]
        exact .rested rfl (.refl host) .thread
      · rw [if_neg due]
        exact .rested rfl (.refl host) .thread

/-- A future tries or rests. -/
theorem sendStep_future
    {steps : List Taken}
    {retriesLeft : Nat}
    {backoff : Nanoseconds}
    {restingUntil : Option Nanoseconds}
    (host : Host MemoryDriver) :
    let call : Blocking :=
      .sendAsync { session := id, content, retriesLeft, backoff, restingUntil }
    SendStep id content (.sendAsync content) steps call host
      (.ofProgress (call.step host).value) (call.step host).state := by
  intro call
  let future : SendFuture :=
    { session := id, content, retriesLeft, backoff, restingUntil }
  change SendStep id content _ steps call host
    (.ofProgress ((future.step host).value.map .sendAsync .sent))
    (future.step host).state
  cases restingUntil with
  | none =>
      by_cases full : FindsFull id content host
      · rw [SendFuture.step_of_full rfl full]
        cases retriesLeft with
        | zero => exact .spent rfl full
        | succ left => exact .again rfl full .future
      · rw [SendFuture.step_of_other rfl full]
        exact .answered rfl full
  | some moment =>
      rw [SendFuture.step_of_resting rfl]
      by_cases due : moment ≤ host.clock
      · rw [if_pos due]
        exact .rested rfl (.refl host) .future
      · rw [if_neg due]
        exact .rested rfl (.refl host) .future

namespace Paused

variable {steps waits : List Taken}

/-- A try that finds the ring full is the last one. -/
theorem tried
    {host : Host MemoryDriver}
    (full : FindsFull id content host)
    (steps : List Taken) :
    Paused id content (steps ++ [⟨true, host⟩]) [] where
  tries := ⟨steps, ⟨true, host⟩, rfl, rfl, full⟩
  rests := fun _ none => absurd none List.not_mem_nil

/-- A step that is no try leaves it the last one. -/
theorem rested
    (paused : Paused id content steps waits)
    (host : Host MemoryDriver) :
    Paused id content (steps ++ [⟨false, host⟩]) (waits ++ [⟨false, host⟩]) := by
  obtain ⟨earlier, last, rfl, tries, full⟩ := paused.tries
  refine ⟨⟨earlier, last, by simp, tries, full⟩, fun taken member => ?_⟩
  rcases List.mem_append.mp member with before | now
  · exact paused.rests taken before
  · rw [List.mem_singleton.mp now]

end Paused

/-- A sender that can be interrupted tries. -/
theorem sendStep_trying
    {steps : List Taken}
    {interrupt : EventHandle}
    (host : Host MemoryDriver) :
    let call : Blocking :=
      .sendInterruptible { session := id, content, interrupt }
    SendStep id content (.sendInterruptible content interrupt) steps call host
      (.ofProgress (call.step host).value) (call.step host).state := by
  intro call
  by_cases full : FindsFull id content host
  · obtain ⟨what, value⟩ := full
    have step : call.step host =
        { value := .running (.sendInterruptible
            { session := id, content, interrupt, phase := .beginning })
          state := (trySend id content host).state
          notes := (call.step host).notes } := by
      simp only [call, Blocking.step, SendInterruptible.step, bind_apply, value]
      rfl
    rw [step]
    exact .again rfl ⟨what, value⟩ (.beginning (.tried ⟨what, value⟩ steps))
  · have step : call.step host =
        { value := .finished (.sent (trySend id content host).value)
          state := (trySend id content host).state
          notes := (call.step host).notes } := by
      have other := full
      unfold FindsFull at other
      simp only [call, Blocking.step, SendInterruptible.step, bind_apply]
      generalize trySend id content host = reply at other ⊢
      obtain ⟨outcome, after, notes⟩ := reply
      dsimp only at other ⊢
      split
      next what => exact absurd ⟨what, rfl⟩ other
      next => rfl
    rw [step]
    exact .answered rfl full

/-- A sender that can be interrupted begins to wait. -/
theorem sendStep_beginning
    {steps : List Taken}
    {interrupt : EventHandle}
    (paused : Paused id content steps [])
    (host : Host MemoryDriver) :
    let call : Blocking :=
      .sendInterruptible { session := id, content, interrupt, phase := .beginning }
    SendStep id content (.sendInterruptible content interrupt) steps call host
      (.ofProgress (call.step host).value) (call.step host).state := by
  intro call
  cases kept : host.sessions.get? id with
  | none =>
      have step : call.step host =
          ⟨.finished (.sent (refuse .sessionEnded)), host, []⟩ := by
        simp only [call, Blocking.step, SendInterruptible.step, bind_apply,
          value_session?, kept]
        rfl
      rw [step]
      exact .ended rfl (.refl host) fun same => by cases same
  | some session =>
      let deadline := (some session.config.sendBackoff).map (host.clock + ·)
      cases nameable : Signal.isNameable deadline with
      | true =>
          let begun := Signal.Wait.start host.driver.signals interrupt.number
            session.shutdownEvent.number none deadline
          have step : call.step host =
              ⟨.running (.sendInterruptible
                  { session := id, content, interrupt, phase := .waiting begun.1 }),
                { host with driver := { host.driver with signals := begun.2 } },
                []⟩ := by
            simp only [call, Blocking.step, SendInterruptible.step, bind_apply,
              value_session?, state_session?, kept,
              beginWait_of_nameable _ _ _ nameable]
            rfl
          rw [step]
          exact .rested rfl (.withSignals host _)
            (.waiting (paused.rested host) rfl rfl trivial)
      | false =>
          have step : call.step host =
              ⟨.finished (.sent (.error .beyondClock)), host, []⟩ := by
            simp only [call, Blocking.step, SendInterruptible.step, bind_apply,
              value_session?, state_session?, kept,
              beginWait_of_unnameable _ _ _ nameable]
            rfl
          rw [step]
          exact .ended rfl (.refl host) fun same => by cases same

/-- A wait for the caller's own event that is over because of that, or is said
to be interrupted, has found the event set. -/
theorem Paused.interrupted
    {steps waits : List Taken}
    {interrupt : EventHandle}
    {watch : Signal.Watch}
    {outcome : Signal.Wakeup}
    (paused : Paused id content steps waits)
    (own : watch.own = interrupt.number)
    (sole : watch.interrupt = none)
    (caused : Signal.Caused watch (banks (waits.map Taken.host)) outcome)
    (heard : outcome = .ready ∨ outcome = .interrupted) :
    Interrupted id content (.sendInterruptible content interrupt) steps := by
  obtain ⟨signal, watched, bank, member, isSet⟩ := caused.resolve_left fun late => by
    subst late
    rcases heard with same | same <;> cases same
  have watched : signal = watch.own := by
    rcases heard with rfl | rfl
    · simpa [Signal.Watch.readings, sole] using watched
    · simp [Signal.Watch.readings, sole] at watched
  obtain ⟨_, hosts, rfl⟩ := List.mem_map.mp member
  obtain ⟨taken, waited, rfl⟩ := List.mem_map.mp hosts
  exact ⟨interrupt, waits, rfl, paused, taken, waited, by
    rw [← own, ← watched]
    exact isSet⟩

/-- A wait that does not sleep takes a step. -/
theorem stepWait_of_awake
    {wait : Signal.Wait}
    (awake : wait.isAsleep host.clock host.driver.signals = false) :
    let phase := (Signal.Wait.advance wait.watch host.clock host.driver.signals
      wait.phase).1
    ∃ signals, stepWait wait host =
      ⟨match Signal.Wait.outcome? ⟨wait.watch, phase⟩ with
        | some outcome => .finished outcome
        | none => .running ⟨wait.watch, phase⟩,
        { host with driver := { host.driver with signals } }, []⟩ :=
  ⟨_, if_neg (by rw [Bool.not_eq_true]; exact awake)⟩

/-- A sender that can be interrupted waits. -/
theorem sendStep_waiting
    {steps waits : List Taken}
    {interrupt : EventHandle}
    {wait : Signal.Wait}
    (paused : Paused id content steps waits)
    (own : wait.watch.own = interrupt.number)
    (sole : wait.watch.interrupt = none)
    (accounting :
      Signal.Accounting wait.watch (banks (waits.map Taken.host)) wait.phase)
    (host : Host MemoryDriver) :
    let call : Blocking := .sendInterruptible
      { session := id, content, interrupt, phase := .waiting wait }
    SendStep id content (.sendInterruptible content interrupt) steps call host
      (.ofProgress (call.step host).value) (call.step host).state := by
  intro call
  have paused := paused.rested host
  have later := accounting.mono (List.map_subset _ (List.map_subset Taken.host
    (List.subset_append_left waits [⟨false, host⟩])))
  cases asleep : wait.isAsleep host.clock host.driver.signals with
  | true =>
      have waits : stepWait wait host =
          ⟨.asleep wait wait.watch.deadline, host, []⟩ := if_pos asleep
      have step : call.step host =
          ⟨.asleep call wait.watch.deadline, host, []⟩ := by
        simp only [call, Blocking.step, SendInterruptible.step, bind_apply, waits]
        rfl
      rw [step]
      exact .rested rfl (.refl host) (.waiting paused own sole later)
  | false =>
      have known := later.advance
        (List.mem_map_of_mem (List.mem_map_of_mem List.mem_concat_self)) host.clock
      obtain ⟨signals, steps⟩ := stepWait_of_awake asleep
      have unmoved := Unmoved.withSignals host signals
      generalize (Signal.Wait.advance wait.watch host.clock host.driver.signals
        wait.phase).1 = phase at known steps
      have goes (on : Signal.Wait.outcome? ⟨wait.watch, phase⟩ = none) :
          call.step host =
            ⟨.running (.sendInterruptible
                { session := id, content, interrupt,
                  phase := .waiting ⟨wait.watch, phase⟩ }),
              { host with driver := { host.driver with signals } }, []⟩ := by
        simp only [call, Blocking.step, SendInterruptible.step, bind_apply, steps, on]
        rfl
      cases phase with
      | finished outcome =>
          have step : call.step host =
              { value := (SendInterruptible.afterWait
                    { session := id, content, interrupt, phase := .waiting wait }
                    outcome).map .sendInterruptible .sent
                state := { host with driver := { host.driver with signals } }
                notes := [] } := by
            simp only [call, Blocking.step, SendInterruptible.step, bind_apply, steps]
            rfl
          rw [step]
          cases outcome with
          | ready =>
              exact .ended rfl unmoved fun _ =>
                paused.interrupted own sole known (.inl rfl)
          | interrupted =>
              exact .ended rfl unmoved fun _ =>
                paused.interrupted own sole known (.inr rfl)
          | cancelled => exact .ended rfl unmoved fun same => by cases same
          | timedOut => exact .rested rfl unmoved .trying
      | _ =>
          rw [goes rfl]
          exact .rested rfl unmoved (.waiting paused own sole known)

/-- Where a call that sends can be, it tries, rests or waits. -/
theorem Sends.step
    {made : Entry}
    {steps : List Taken}
    {call : Blocking}
    (sends : Sends id content made steps call)
    (host : Host MemoryDriver) :
    SendStep id content made steps call host (.ofProgress (call.step host).value)
      (call.step host).state := by
  cases sends with
  | thread => exact sendStep_thread host
  | future => exact sendStep_future host
  | trying => exact sendStep_trying host
  | beginning paused => exact sendStep_beginning paused host
  | waiting paused own sole accounting =>
      exact sendStep_waiting paused own sole accounting host

/-! ## What a call has done so far -/

/-- The answer of a try says that the ring was full. -/
def saysFull : Outcome Unit → Bool
  | .error (.refused (.resourceExhausted _)) => true
  | _ => false

theorem saysFull_iff (outcome : Outcome Unit) :
    saysFull outcome = true ↔
      ∃ what, outcome = .error (.refused (.resourceExhausted what)) := by
  constructor
  · unfold saysFull
    split
    case h_1 what => exact fun _ => ⟨what, rfl⟩
    case h_2 => exact fun same => by cases same
  · rintro ⟨what, rfl⟩
    rfl

instance (id : SessionId) (content : Bytes) (host : Host MemoryDriver) :
    Decidable (FindsFull id content host) :=
  decidable_of_iff _ (saysFull_iff (trySend id content host).value)

/-- The number of tries that found the ring full. -/
def Errand.refusals (id : SessionId) (content : Bytes) (errand : Errand) : Nat :=
  errand.steps.countP fun taken =>
    taken.isTry && decide (FindsFull id content taken.host)

/-- Every try that was answered so did find the ring full. -/
def FullWhenRefused
    (id : SessionId)
    (session : Session)
    (content : Bytes)
    (steps : List Taken) : Prop :=
  ∀ taken ∈ steps, taken.isTry = true → FindsFull id content taken.host →
    ∃ found, taken.host.driver.sessions.get? session.handle.number = some found ∧
      found.outbound.isFull = true

/-- What a call that sends has come to, and what others have done since it was
made. -/
inductive Sent
    (id : SessionId)
    (session : Session)
    (entry : RunningSession)
    (content : Bytes)
    (before : Host MemoryDriver)
    (made : Entry)
    (errand : Errand) : Outcome Unit → Prop
  /-- It put its packet behind what others had left in the ring and counted it. -/
  | sent {left : List (Bytes × Ring.SlotState)} {later : RunningSession}
      (serves : Serves id session errand.host later
        (session.stats.sending (errand.refusals id content) 1 content.length))
      (drained : errand.drained.map (·, .committed) ++ left =
        entry.outbound.contents)
      (contents_eq : later.outbound.contents = left ++ [(content, .committed)])
      (head_eq : later.outbound.head = entry.outbound.head + 1)
      (unheld : ∀ packet held, errand.host.packets.get? packet = some held →
        before.packets.get? packet = some held) :
      Sent id session entry content before made errand (.ok ())
  /-- It put nothing in and counted only that the ring was full. -/
  | refused {failure : Failure} {later : RunningSession}
      (idles : Errand.Idles id session entry
        (session.stats.sending (errand.refusals id content) 0 0) before errand later)
      (cause : failure = .refused .interrupted →
        Interrupted id content made errand.steps) :
      Sent id session entry content before made errand (.error failure)

/-- How things stand with a call that sends. -/
inductive Sending
    (id : SessionId)
    (session : Session)
    (entry : RunningSession)
    (content : Bytes)
    (before : Host MemoryDriver)
    (made : Entry)
    (errand : Errand) : Prop
  /-- It goes on, and nothing was sent. -/
  | going {call : Blocking} {later : RunningSession}
      (goes : errand.opened = .going call)
      (sends : Sends id content made errand.steps call)
      (idles : Errand.Idles id session entry
        (session.stats.sending (errand.refusals id content) 0 0) before errand later)
      (full : FullWhenRefused id session content errand.steps)
  /-- It is over. -/
  | finished {outcome : Outcome Unit}
      (ends : errand.opened = .finished (.sent outcome))
      (sent : Sent id session entry content before made errand outcome)
      (full : FullWhenRefused id session content errand.steps)

variable
  {before : Host MemoryDriver}
  {made : Entry}
  {errand : Errand}
  {later : RunningSession}

theorem Errand.refusals_stepped_true (opened : Opened) (host : Host MemoryDriver) :
    (errand.stepped true opened host).refusals id content =
      errand.refusals id content +
        if saysFull (trySend id content errand.host).value then 1 else 0 := by
  have same : FindsFull id content errand.host ↔
      saysFull (trySend id content errand.host).value = true :=
    (saysFull_iff _).symm
  simp [refusals, stepped, List.countP_append, List.countP_singleton, same]

theorem Errand.refusals_stepped_false (opened : Opened) (host : Host MemoryDriver) :
    (errand.stepped false opened host).refusals id content =
      errand.refusals id content := by
  simp [refusals, stepped, List.countP_append]

namespace FullWhenRefused

variable (full : FullWhenRefused id session content errand.steps)

include full

theorem tried (serves : Serves id session errand.host later stats) :
    FullWhenRefused id session content (errand.steps ++ [⟨true, errand.host⟩]) := by
  intro taken member tries refused
  rcases List.mem_append.mp member with earlier | now
  · exact full taken earlier tries refused
  · rw [List.mem_singleton.mp now] at refused ⊢
    exact ⟨later, serves.runs, serves.isFull_of_findsFull refused⟩

theorem rested :
    FullWhenRefused id session content (errand.steps ++ [⟨false, errand.host⟩]) := by
  intro taken member tries refused
  rcases List.mem_append.mp member with earlier | now
  · exact full taken earlier tries refused
  · rw [List.mem_singleton.mp now] at tries
    cases tries

end FullWhenRefused

namespace Errand.Idles

variable
  (idles : Errand.Idles id session entry
    (session.stats.sending (errand.refusals id content) 0 0) before errand later)

include idles

/-- A step that is no try changes nothing. -/
theorem rested
    {after : Host MemoryDriver}
    (unmoved : Unmoved errand.host after)
    (opened : Opened) :
    Errand.Idles id session entry
      (session.stats.sending
        ((errand.stepped false opened after).refusals id content) 0 0)
      before (errand.stepped false opened after) later := by
  rw [refusals_stepped_false]
  exact idles.unmoved unmoved

/-- A try that is refused changes nothing but the number of refusals. -/
theorem tried_of_error
    {failure : Failure}
    (refused : (trySend id content errand.host).value = .error failure)
    (opened : Opened) :
    let after := errand.stepped true opened (trySend id content errand.host).state
    Errand.Idles id session entry
      (session.stats.sending (after.refusals id content) 0 0) before after later := by
  intro after
  have answer := idles.toServes.attempted content
  rw [refusals_stepped_true, refused]
  rw [refused] at answer
  change Errand.Idles id session entry _ before
    (errand.stepped true opened (trySend id content errand.host).state) later
  generalize (trySend id content errand.host).state = next at answer ⊢
  generalize same : (.error failure : Outcome Unit) = outcome at answer ⊢
  cases answer with
  | sent => cases same
  | full _ serves packets_eq =>
      have full : saysFull (refuse (.resourceExhausted "send ring")) = true := rfl
      rw [full, if_pos rfl, SessionStats.sending_succ]
      exact idles.serving serves packets_eq
  | @refused error plain =>
      have plain : saysFull (refuse error) = false := by
        rcases plain with rfl | ⟨_, rfl⟩ <;> rfl
      rw [plain, if_neg Bool.false_ne_true, Nat.add_zero]
      exact idles

/-- A try that is not refused puts the packet behind what is in the ring. -/
theorem tried_of_ok
    (accepted : (trySend id content errand.host).value = .ok ())
    (opened : Opened) :
    Sent id session entry content before made
      (errand.stepped true opened (trySend id content errand.host).state)
      (.ok ()) := by
  have answer := idles.toServes.attempted content
  have counted := @refusals_stepped_true id content errand opened
    (trySend id content errand.host).state
  rw [accepted] at answer counted
  generalize (trySend id content errand.host).state = next at answer counted ⊢
  generalize same : (.ok () : Outcome Unit) = outcome at answer counted
  cases answer with
  | full | refused => cases same
  | sent room serves unheld =>
      have layout := idles.sound.outbound
      have space := PacketRing.lt_of_isFull_eq_false layout.toArranged room
      have contents_eq := PacketRing.contents_filled layout space content
      have head_eq : (later.outbound.filled content).head = entry.outbound.head + 1 :=
        congrArg (· + 1) idles.head_eq
      have unheld packet held (found : next.packets.get? packet = some held) :
          before.packets.get? packet = some held :=
        idles.packets_eq ▸ unheld packet held found
      have plain : saysFull (.ok ()) = false := rfl
      rw [plain, if_neg Bool.false_ne_true, Nat.add_zero] at counted
      rw [← SessionStats.sending_one, ← counted] at serves
      exact Sent.sent serves idles.contents_eq contents_eq head_eq unheld

end Errand.Idles

namespace Sending

/-- A try ends the call with its answer. -/
theorem answered
    (idles : Errand.Idles id session entry
      (session.stats.sending (errand.refusals id content) 0 0) before errand later)
    (full : FullWhenRefused id session content errand.steps) :
    let reply := trySend id content errand.host
    Sending id session entry content before made
      (errand.stepped true (.finished (.sent reply.value)) reply.state) := by
  intro reply
  have plain := idles.toServes.trySend_ne_interrupted content
  refine .finished rfl ?_ (full.tried idles.toServes)
  cases answer : reply.value with
  | ok => exact idles.tried_of_ok answer _
  | error failure =>
      exact .refused (idles.tried_of_error answer _) fun same =>
        absurd (answer.trans (congrArg _ same)) plain

/-- A call is made. -/
theorem start
    (serves : Serves id session host entry session.stats)
    (sends : made.payload? = some content) :
    Sending id session entry content host made (Errand.start id made host) := by
  have none : FullWhenRefused id session content [] :=
    fun _ none => absurd none List.not_mem_nil
  have idles (opened : Opened) : Errand.Idles id session entry
      (session.stats.sending (Errand.refusals id content { opened, host }) 0 0) host
      { opened, host } entry := by
    change Errand.Idles id session entry (session.stats.sending 0 0 0) _ _ _
    rw [SessionStats.sending_zero]
    exact .refl serves
  cases made with
  | trySend =>
      cases sends
      let opened : Opened := .finished (.sent (trySend id content host).value)
      exact answered (idles opened) none
  | send =>
      cases sends
      exact .going rfl .thread (idles _) none
  | sendInterruptible =>
      cases sends
      exact .going rfl .trying (idles _) none
  | sendAsync =>
      cases sends
      exact .going rfl .future (idles _) none
  | _ => cases sends

/-- A step of the call, and what others do, keeps it so. -/
theorem play
    (sending : Sending id session entry content before made errand)
    (move : ErrandMove) :
    Sending id session entry content before made
      (errand.play session.handle.number move) := by
  cases sending with
  | finished ends sent full =>
      rw [Errand.play_of_finished ends]
      exact .finished ends sent full
  | @going call later goes sends idles full =>
      cases move with
      | interlude other =>
          obtain ⟨next, idles⟩ := idles.visited other
          rw [Errand.play_interlude goes]
          exact .going goes sends idles full
      | step =>
          rw [Errand.play_step goes]
          have step := sends.step errand.host
          generalize Opened.ofProgress (call.step errand.host).value = opened at step ⊢
          generalize (call.step errand.host).state = after at step ⊢
          have tried := full.tried idles.toServes
          cases step with
          | answered tries other =>
              rw [tries]
              exact answered idles full
          | again tries found sends =>
              obtain ⟨what, value⟩ := found
              rw [tries]
              exact .going rfl sends (idles.tried_of_error value _) tried
          | spent tries found =>
              obtain ⟨what, value⟩ := found
              rw [tries]
              exact .finished rfl (.refused (idles.tried_of_error value _) fun same =>
                by cases same) tried
          | rested rests unmoved sends =>
              rw [rests]
              exact .going rfl sends (idles.rested unmoved _) full.rested
          | ended rests unmoved cause =>
              rw [rests]
              exact .finished rfl (.refused (idles.rested unmoved _) fun same =>
                cause (by cases same; rfl)) full.rested

end Sending

/-- Whatever others do between the steps of a call that sends, one that succeeds
has put its packet, and nothing else, behind what was left in the ring, and
counted it; one that is refused has neither put anything in nor counted a packet.
In both cases every try that found the ring full was counted, and a call is
interrupted only after its last try found the ring full and its event was set. -/
theorem sends_exactly_once
    {version : DriverVersion}
    {slotBudget : Option Nat}
    {requests : List Request}
    (reached : host.driver = (MemoryDriver.fresh version slotBudget).serveAll
      requests)
    (kept : host.sessions.get? id = some session)
    (runs : host.driver.sessions.get? session.handle.number = some entry)
    {made : Entry}
    (sends : made.payload? = some content)
    (moves : List ErrandMove) :
    let errand := (Errand.start id made host).playAll session.handle.number moves
    ∀ result, errand.opened = .finished result →
      ∃ outcome, result = .sent outcome ∧
        Sent id session entry content host made errand outcome ∧
        FullWhenRefused id session content errand.steps := by
  intro errand result ends
  have sending : Sending id session entry content host made errand :=
    Errand.playAll_induction (fun _ move sending => sending.play move)
      (.start (serves_of_serveAll reached kept runs) sends) moves
  cases sending with
  | going goes => cases ends.symm.trans goes
  | @finished outcome same sent full =>
      exact ⟨outcome, Opened.finished.inj (ends.symm.trans same), sent, full⟩

/-- The answer of a call that sends, once it is over. -/
def Opened.sent? : Opened → Option (Outcome Unit)
  | finished (.sent outcome) => some outcome
  | _ => none

theorem Opened.eq_of_sent?
    {opened : Opened}
    {outcome : Outcome Unit}
    (answered : opened.sent? = some outcome) :
    opened = .finished (.sent outcome) := by
  unfold sent? at answered
  split at answered
  · rw [Option.some.inj answered]
  · cases answered

/-- A session whose ring is full: three buffers are still out, and the oldest one
was sent. -/
def oneSent : Host MemoryDriver :=
  { Polling.oneAdapter.launched 2 1 4 {} with
    driver := (MemoryDriver.fresh Memory.defaultVersion none).serveAll
      ([.createAdapter "tun" "tun" none, .startSession ⟨2⟩ 4, .newEvent, .newEvent] ++
        List.replicate 4 (.allocateSend ⟨3⟩ 1) ++
        [.sendPacket ⟨3⟩
          ⟨⟨.slot 3 .outbound 0, 0⟩, 1, Ring.SlotHandle.toTag ⟨0, 1⟩⟩]) }

/-- A sender begins to wait, and something happens meanwhile. -/
def sendsAround (meanwhile : List Interlude) : Errand :=
  (Errand.start 3 (.sendInterruptible [9] ⟨2⟩) oneSent).playAll 3
    (List.replicate 2 .step ++ meanwhile.map .interlude ++ List.replicate 20 .step)

/-- The sender puts its packet in once the oldest one was taken out, and has been
refused once; or it is interrupted. -/
theorem sends_exactly_once_of_drained :
    let call : Entry := .sendInterruptible [9] ⟨2⟩
    let drained := sendsAround [.drain "tun", .pass 1000000000]
    let interrupted := sendsAround [.signal ⟨2⟩]
    drained.refusals 3 [9] = 1 ∧
      Interrupted 3 [9] call interrupted.steps ∧
      ∃ session entry,
        Sent 3 session entry [9] oneSent call drained (.ok ()) ∧
        Sent 3 session entry [9] oneSent call interrupted (refuse .interrupted) := by
  intro call drained interrupted
  have answered : drained.opened.sent? = some (.ok ()) := by decide +kernel
  have refused : interrupted.opened.sent? = some (refuse .interrupted) := by
    decide +kernel
  obtain ⟨session, kept, number⟩ := Option.map_eq_some_iff.mp
    (show (oneSent.sessions.get? 3).map (·.handle.number) = some 3 by decide +kernel)
  obtain ⟨entry, runs⟩ := Option.isSome_iff_exists.mp
    (show (oneSent.driver.sessions.get? 3).isSome = true by decide +kernel)
  have once := @sends_exactly_once 3 session oneSent entry [9] _ _ _ rfl kept
    (number ▸ runs) call rfl
  rw [number] at once
  obtain ⟨_, same, accepted, -⟩ := once _ _ (Opened.eq_of_sent? answered)
  cases same
  obtain ⟨_, same, stopped, -⟩ := once _ _ (Opened.eq_of_sent? refused)
  cases same
  have cause : Interrupted 3 [9] call interrupted.steps := by
    cases stopped with
    | refused _ cause => exact cause rfl
  exact ⟨by decide +kernel, cause, session, entry, accepted, stopped⟩

end Host
end VirtualAdapter

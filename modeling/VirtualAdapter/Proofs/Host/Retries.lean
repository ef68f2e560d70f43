import VirtualAdapter.Host.AsyncSession
import VirtualAdapter.Proofs.Host.Courses
import VirtualAdapter.Proofs.Host.Polling

/-!
# Senders that try again

A sender finds the ring full, rests and tries again, a limited number of times.
A thread counts the tries it has made; a future counts those that are left.
Whatever each try finds, both make the same ones and come to the same end.
-/

namespace VirtualAdapter
namespace Host

open VirtualAdapter.Action (bind_apply)
open Memory (MemoryDriver)
open Signal (Nanoseconds)

/-! ## The steps of a call -/

section Trail

variable {State Call Other Value : Type}

/-- The call that goes on, unless it is over. -/
def Progress.next? : Progress Call Value → Option Call
  | running next | asleep next _ => some next
  | finished _ => none

/-- The steps of a call that takes one in each of these hosts, up to its end:
where the call was, and in which host. -/
def trail (step : Call → Action (Host State) (Progress Call Value)) :
    Call → List (Host State) → List (Call × Host State)
  | _, [] => []
  | call, host :: later =>
      (call, host) ::
        match (step call host).value.next? with
        | some next => trail step next later
        | none => []

/-- The result of a call that takes a step in each of these hosts, if it comes
to one. -/
def result? (step : Call → Action (Host State) (Progress Call Value))
    (call : Call)
    (hosts : List (Host State)) : Option Value :=
  (course step call hosts).value?

variable
  {step : Call → Action (Host State) (Progress Call Value)}
  {other : Other → Action (Host State) (Progress Other Value)}
  {view : Call → Other}
  {call next : Call}
  {host : Host State}

/-- Where two kinds of calls take the same steps, one is a view of the other
throughout. -/
theorem trail_view
    (alike : ∀ call host, (other (view call) host).value =
      (step call host).value.map view fun value => value)
    (call : Call)
    (hosts : List (Host State)) :
    trail other (view call) hosts =
      (trail step call hosts).map (Prod.map view id) := by
  induction hosts generalizing call with
  | nil => rfl
  | cons host later hypothesis =>
      simp only [trail, List.map_cons, Prod.map_apply, id, alike]
      refine congrArg _ ?_
      cases (step call host).value with
      | running next | asleep next => exact hypothesis next
      | finished => rfl

theorem course_view
    (alike : ∀ call host, (other (view call) host).value =
      (step call host).value.map view fun value => value)
    (call : Call)
    (hosts : List (Host State)) :
    course other (view call) hosts =
      (course step call hosts).map view fun value => value := by
  induction hosts generalizing call with
  | nil => rfl
  | cons host later hypothesis =>
      unfold course
      rw [alike]
      cases (step call host).value with
      | running next => exact hypothesis next
      | asleep next => exact hypothesis next
      | finished => rfl

/-- A call that is still on its way goes on. -/
theorem course_append
    {hosts : List (Host State)}
    (runs : course step call hosts = .running next)
    (later : List (Host State)) :
    course step call (hosts ++ later) = course step next later := by
  induction hosts generalizing call with
  | nil =>
      obtain rfl : call = next := by cases runs; rfl
      rfl
  | cons host rest hypothesis =>
      rw [List.cons_append, course]
      rw [course] at runs
      cases value : (step call host).value with
      | running middle =>
          rw [value] at runs
          exact hypothesis runs
      | asleep middle =>
          rw [value] at runs
          exact hypothesis runs
      | finished =>
          rw [value] at runs
          cases runs

/-- What every step keeps of a call holds throughout. -/
theorem trail_forall
    (Good : Call → Prop)
    (keeps : ∀ call host next, Good call →
      (step call host).value.next? = some next → Good next)
    (good : Good call)
    (hosts : List (Host State)) :
    ∀ taken ∈ trail step call hosts, Good taken.1 := by
  induction hosts generalizing call with
  | nil => exact fun _ none => absurd none List.not_mem_nil
  | cons host later hypothesis =>
      rw [trail, List.forall_mem_cons]
      refine ⟨good, ?_⟩
      split
      next next goes => exact hypothesis (keeps call host next good goes)
      next => exact fun _ none => absurd none List.not_mem_nil

theorem mem_of_mem_trail
    {hosts : List (Host State)}
    {taken : Call × Host State}
    (member : taken ∈ trail step call hosts) : taken.2 ∈ hosts := by
  induction hosts generalizing call with
  | nil => exact absurd member List.not_mem_nil
  | cons host later hypothesis =>
      rw [trail] at member
      rcases List.mem_cons.mp member with rfl | after
      · exact List.mem_cons_self
      · split at after
        · exact List.mem_cons_of_mem host (hypothesis after)
        · exact absurd after List.not_mem_nil

end Trail

/-! ## Tries -/

variable {State : Type} [Driver State]

/-- A try is answered that the ring is full. -/
def FindsFull
    (id : SessionId)
    (content : Bytes)
    (host : Host State) : Prop :=
  ∃ what, (trySend id content host).value =
    .error (.refused (.resourceExhausted what))

/-- What comes of tries that are made one after the other, by a sender that may
try again so often. -/
inductive Settles
    (id : SessionId)
    (content : Bytes)
    (retries : Nat)
    (tried : List (Host State)) : Option (Outcome Unit) → Prop
  /-- All of them found the ring full, and another one may follow. -/
  | undecided
      (full : ∀ host ∈ tried, FindsFull id content host)
      (few : tried.length ≤ retries) :
      Settles id content retries tried none
  /-- The last one is the first that did not, and its answer is the result. -/
  | answered
      (earlier : List (Host State))
      {last : Host State}
      (split : tried = earlier ++ [last])
      (full : ∀ host ∈ earlier, FindsFull id content host)
      (few : earlier.length ≤ retries)
      (other : ¬ FindsFull id content last) :
      Settles id content retries tried (some (trySend id content last).value)
  /-- All of them found the ring full, and no other one may follow. -/
  | spent
      (full : ∀ host ∈ tried, FindsFull id content host)
      (all : tried.length = retries + 1) :
      Settles id content retries tried (some (refuse .timedOut))

namespace Settles

variable
  {id : SessionId}
  {content : Bytes}
  {retries : Nat}
  {host : Host State}
  {tried : List (Host State)}
  {result : Option (Outcome Unit)}
  {outcome : Outcome Unit}

/-- One more try was made before, and found the ring full. -/
theorem cons
    (settles : Settles id content retries tried result)
    (full : FindsFull id content host) :
    Settles id content (retries + 1) (host :: tried) result := by
  have before {others : List (Host State)}
      (found : ∀ other ∈ others, FindsFull id content other) :
      ∀ other ∈ host :: others, FindsFull id content other :=
    List.forall_mem_cons.mpr ⟨full, found⟩
  cases settles with
  | undecided found few =>
      exact .undecided (before found) (Nat.succ_le_succ few)
  | @answered earlier last split found few other =>
      exact .answered (host :: earlier) (congrArg (host :: ·) split)
        (before found) (Nat.succ_le_succ few) other
  | spent found all => exact .spent (before found) (congrArg (· + 1) all)

theorem length_le (settles : Settles id content retries tried result) :
    tried.length ≤ retries + 1 := by
  cases settles with
  | undecided _ few => exact Nat.le_succ_of_le few
  | answered earlier split _ few =>
      rw [split, List.length_append]
      exact Nat.succ_le_succ few
  | spent _ all => exact Nat.le_of_eq all

/-- The time of a sender is over exactly if all tries were made and found the
ring full, unless a try itself is answered that. -/
theorem timedOut_iff
    (settles : Settles id content retries tried result)
    (plain : ∀ host ∈ tried, (trySend id content host).value ≠ refuse .timedOut) :
    result = some (refuse .timedOut) ↔
      tried.length = retries + 1 ∧ ∀ host ∈ tried, FindsFull id content host := by
  cases settles with
  | undecided _ few =>
      refine ⟨fun none => (by cases none), fun ⟨all, _⟩ => ?_⟩
      exact absurd (Nat.le_of_eq all.symm) (Nat.not_le.mpr (Nat.lt_succ_of_le few))
  | @answered earlier last split full few other =>
      subst split
      have member := List.mem_append_right earlier (List.mem_singleton_self last)
      refine ⟨fun late => ?_, fun ⟨_, found⟩ => ?_⟩
      · exact absurd (Option.some.inj late) (plain last member)
      · exact absurd (found last member) other
  | spent full all => exact ⟨fun _ => ⟨all, full⟩, fun _ => rfl⟩

/-- A try that does not find the ring full is the last one, and its answer is
the result. -/
theorem ends_at
    {before rest : List (Host State)}
    (settles : Settles id content retries (before ++ host :: rest) result)
    (other : ¬ FindsFull id content host) :
    rest = [] ∧ result = some (trySend id content host).value := by
  have member : host ∈ before ++ host :: rest :=
    List.mem_append_right _ List.mem_cons_self
  cases settles with
  | undecided full => exact absurd (full host member) other
  | spent full => exact absurd (full host member) other
  | @answered earlier last split full =>
      rcases List.eq_nil_or_concat rest with rfl | ⟨between, final, rfl⟩
      · obtain ⟨-, same⟩ := List.append_inj' split rfl
        exact ⟨rfl, by rw [List.singleton_inj.mp same]⟩
      · rw [List.concat_eq_append, ← List.cons_append, ← List.append_assoc] at split
        obtain ⟨rfl, -⟩ := List.append_inj' split rfl
        exact absurd (full host (List.mem_append_right _ List.mem_cons_self)) other

/-- No try follows one that decides the result. -/
theorem decided
    {rest : List (Host State)}
    (settles : Settles id content retries tried (some outcome))
    (settled : Settles id content retries (tried ++ rest) result) :
    rest = [] ∧ result = some outcome := by
  cases settles with
  | @answered earlier last split _ _ other =>
      subst split
      rw [List.append_assoc, List.singleton_append] at settled
      exact settled.ends_at other
  | spent full all =>
      have bound := settled.length_le
      rw [List.length_append, all] at bound
      obtain rfl : rest = [] := List.eq_nil_of_length_eq_zero (by omega)
      rw [List.append_nil] at settled
      refine ⟨rfl, ?_⟩
      cases settled with
      | undecided _ few => omega
      | spent => rfl
      | @answered earlier last split _ _ other =>
          have member : last ∈ tried := split ▸
            List.mem_append_right earlier (List.mem_singleton_self last)
          exact absurd (full last member) other

/-- What tries find decides how many of them are made, and what comes of
them. -/
theorem unique
    {other states : List (Host State)}
    {last : Outcome Unit}
    (settles : Settles id content retries tried (some outcome))
    (settled : Settles id content retries other (some last))
    (first : tried <+: states)
    (second : other <+: states) : tried = other ∧ outcome = last := by
  rcases List.prefix_or_prefix_of_prefix first second with
    ⟨rest, rfl⟩ | ⟨rest, rfl⟩
  · obtain ⟨rfl, same⟩ := settles.decided settled
    exact ⟨(List.append_nil tried).symm, (Option.some.inj same).symm⟩
  · obtain ⟨rfl, same⟩ := settled.decided settles
    exact ⟨List.append_nil other, Option.some.inj same⟩

end Settles

/-! ## The two senders -/

variable
  {id : SessionId}
  {content : Bytes}
  {host : Host State}

/-- The next step of a thread is a try. -/
def Send.isTrying (call : Send) : Bool :=
  match call.phase with
  | .trying _ => true
  | .resting _ _ => false

/-- The next step of a future is a try. -/
def SendFuture.isTrying (future : SendFuture) : Bool :=
  future.restingUntil.isNone

/-- A future that has as many tries left as a sending thread, and rests up to
the same moment. -/
def Send.asFuture (call : Send) : SendFuture :=
  match call.phase with
  | .trying tries =>
      { session := call.session
        content := call.content
        retriesLeft := call.config.sendRetries.toNat - tries
        backoff := call.config.sendBackoff }
  | .resting tries moment =>
      { session := call.session
        content := call.content
        retriesLeft := call.config.sendRetries.toNat - tries
        backoff := call.config.sendBackoff
        restingUntil := some moment }

theorem Send.isTrying_asFuture (call : Send) :
    call.asFuture.isTrying = call.isTrying := by
  obtain ⟨session, content, config, tries | ⟨tries, moment⟩⟩ := call <;> rfl

/-- The hosts in which a sender makes its tries. -/
def tried
    {Call : Type}
    (step : Call → Action (Host State) (Progress Call (Outcome Unit)))
    (isTrying : Call → Bool)
    (call : Call)
    (hosts : List (Host State)) : List (Host State) :=
  ((trail step call hosts).filter (isTrying ·.1)).map (·.2)

/-- A step does what a try does, or nothing, and then says good-bye. -/
def Leaves
    {Call : Type}
    (id : SessionId)
    (content : Bytes)
    (tries : Bool)
    (host : Host State)
    (reply : Reply (Host State) (Progress Call (Outcome Unit)))
    (farewell : List Note) : Prop :=
  if tries then
    reply.state = (trySend id content host).state ∧
      reply.notes = (trySend id content host).notes ++ farewell
  else reply.state = host ∧ reply.notes = farewell

/-- Another step that does the same and says good-bye then. -/
theorem Leaves.transfer
    {Call Other : Type}
    {tries : Bool}
    {reply : Reply (Host State) (Progress Call (Outcome Unit))}
    {other : Reply (Host State) (Progress Other (Outcome Unit))}
    {farewell : List Note}
    (leaves : Leaves id content tries host reply [])
    (state : other.state = reply.state)
    (notes : other.notes = reply.notes ++ farewell) :
    Leaves id content tries host other farewell := by
  cases tries with
  | true =>
      obtain ⟨same, left⟩ := leaves
      exact ⟨state.trans same, by rw [notes, left, List.append_nil]⟩
  | false =>
      obtain ⟨same, left⟩ := leaves
      exact ⟨state.trans same, by rw [notes, left]; rfl⟩

namespace SendFuture

variable {future : SendFuture}

theorem step_of_resting
    {moment : Nanoseconds}
    (rests : future.restingUntil = some moment)
    (host : Host State) :
    future.step host =
      if moment ≤ host.clock then
        ⟨.running { future with restingUntil := none }, host, []⟩
      else ⟨.asleep future (some moment), host, []⟩ := by
  simp only [step, rests]
  change (if moment ≤ host.clock then pure _ else pure _ :
    Action (Host State) (Progress SendFuture (Outcome Unit))) host = _
  split <;> rfl

section Trying

variable (trying : future.restingUntil = none)

include trying

/-- A try that does not find the ring full ends the future with its answer. -/
theorem step_of_other (other : ¬ FindsFull future.session future.content host) :
    future.step host =
      { value := .finished (trySend future.session future.content host).value
        state := (trySend future.session future.content host).state
        notes := (trySend future.session future.content host).notes } := by
  simp only [step, trying, attempt, bind_apply]
  unfold FindsFull at other
  generalize trySend future.session future.content host = reply at other ⊢
  obtain ⟨outcome, after, notes⟩ := reply
  dsimp only at other ⊢
  split
  next what => exact absurd ⟨what, rfl⟩ other
  next => exact congrArg (Reply.mk _ after) (List.append_nil notes)

/-- A future that finds the ring full rests, or gives up. -/
theorem step_of_full (full : FindsFull future.session future.content host) :
    future.step host =
      let reply := trySend future.session future.content host
      { value :=
          match future.retriesLeft with
          | 0 => .finished (refuse .timedOut)
          | left + 1 => .running { future with
              retriesLeft := left
              restingUntil := some (reply.state.clock + future.backoff) }
        state := reply.state
        notes := reply.notes } := by
  obtain ⟨what, value⟩ := full
  cases left : future.retriesLeft
  all_goals
    simp only [step, trying, attempt, bind_apply, value, left]
    exact congrArg (Reply.mk _ _) (List.append_nil _)

end Trying

end SendFuture

namespace Send

variable {call : Send}

/-- What a thread says when it gives up. -/
def farewell (tries : Nat) : Note :=
  .traced .debug "send ring stayed full"
    [("attempts", toString (UInt32.ofNat (tries + 1)))]

theorem step_of_resting
    {tries : Nat}
    {moment : Nanoseconds}
    (rests : call.phase = .resting tries moment)
    (host : Host State) :
    call.step host =
      if moment ≤ host.clock then
        ⟨.running { call with phase := .trying tries }, host, []⟩
      else ⟨.asleep call (some moment), host, []⟩ := by
  simp only [step, rests]
  change (if moment ≤ host.clock then pure _ else pure _ :
    Action (Host State) (Progress Send (Outcome Unit))) host = _
  split <;> rfl

section Trying

variable
  {tries : Nat}
  (trying : call.phase = .trying tries)

include trying

/-- A try that does not find the ring full ends the thread with its answer. -/
theorem step_of_other (other : ¬ FindsFull call.session call.content host) :
    call.step host =
      { value := .finished (trySend call.session call.content host).value
        state := (trySend call.session call.content host).state
        notes := (trySend call.session call.content host).notes } := by
  simp only [step, trying, bind_apply]
  unfold FindsFull at other
  generalize trySend call.session call.content host = reply at other ⊢
  obtain ⟨outcome, after, notes⟩ := reply
  dsimp only at other ⊢
  split
  next what => exact absurd ⟨what, rfl⟩ other
  next => exact congrArg (Reply.mk _ after) (List.append_nil notes)

/-- A thread that finds the ring full rests, or gives up. -/
theorem step_of_full (full : FindsFull call.session call.content host) :
    call.step host =
      let reply := trySend call.session call.content host
      if tries < call.config.sendRetries.toNat then
        { value := .running { call with
            phase := .resting (tries + 1)
              (reply.state.clock + call.config.sendBackoff) }
          state := reply.state
          notes := reply.notes }
      else
        { value := .finished (refuse .timedOut)
          state := reply.state
          notes := reply.notes ++ [farewell tries] } := by
  obtain ⟨what, value⟩ := full
  simp only [step, trying, bind_apply, value]
  split
  next => exact congrArg (Reply.mk _ _) (List.append_nil _)
  next => rfl

end Trying

/-- A thread takes the same steps as the future that stands for it, and says
good-bye when it gives up. -/
theorem step_asFuture (call : Send) (host : Host State) :
    (call.asFuture.step host).value =
        (call.step host).value.map asFuture (fun outcome => outcome) ∧
      (call.asFuture.step host).state = (call.step host).state ∧
      ((call.step host).notes = (call.asFuture.step host).notes ∨
        ∃ tries,
          (call.step host).value = .finished (refuse .timedOut) ∧
          (call.step host).notes =
            (call.asFuture.step host).notes ++ [farewell tries]) := by
  obtain ⟨session, content, config, tries | ⟨tries, moment⟩⟩ := call
  · by_cases full : FindsFull session content host
    · rw [step_of_full rfl full, SendFuture.step_of_full rfl full]
      cases left : config.sendRetries.toNat - tries with
      | zero =>
          have spent : ¬ tries < config.sendRetries.toNat := by omega
          simp only [asFuture, left, if_neg spent]
          exact ⟨rfl, trivial, .inr ⟨tries, trivial, rfl⟩⟩
      | succ fewer =>
          have few : tries < config.sendRetries.toNat := by omega
          obtain rfl : fewer = config.sendRetries.toNat - (tries + 1) := by omega
          simp only [asFuture, left, if_pos few]
          exact ⟨rfl, trivial, .inl trivial⟩
    · rw [step_of_other rfl full, SendFuture.step_of_other rfl full]
      exact ⟨rfl, rfl, .inl rfl⟩
  · rw [step_of_resting rfl, SendFuture.step_of_resting rfl]
    by_cases due : moment ≤ host.clock
    · simp only [if_pos due]
      exact ⟨rfl, trivial, .inl trivial⟩
    · simp only [if_neg due]
      exact ⟨rfl, trivial, .inl trivial⟩

end Send

/-! ## What comes of the tries -/

section Tried

omit [Driver State]

variable
  {Call : Type}
  {step : Call → Action (Host State) (Progress Call (Outcome Unit))}
  {isTrying : Call → Bool}
  {call next : Call}

theorem tried_cons_of_trying
    (trying : isTrying call = true)
    (host : Host State)
    (later : List (Host State)) :
    tried step isTrying call (host :: later) =
      host :: match (step call host).value.next? with
        | some next => tried step isTrying next later
        | none => [] := by
  simp only [tried, trail, List.filter, trying, List.map_cons]
  cases (step call host).value.next? <;> rfl

theorem tried_cons_of_resting
    (resting : isTrying call = false)
    (host : Host State)
    (later : List (Host State)) :
    tried step isTrying call (host :: later) =
      match (step call host).value.next? with
      | some next => tried step isTrying next later
      | none => [] := by
  simp only [tried, trail, List.filter, resting]
  cases (step call host).value.next? <;> rfl

theorem mem_of_mem_tried
    {hosts : List (Host State)}
    (member : host ∈ tried step isTrying call hosts) : host ∈ hosts := by
  obtain ⟨taken, filtered, rfl⟩ := List.mem_map.mp member
  exact mem_of_mem_trail (List.mem_of_mem_filter filtered)

end Tried

/-- What comes of the tries of a future. -/
theorem SendFuture.settles
    (future : SendFuture)
    (hosts : List (Host State)) :
    Settles future.session future.content future.retriesLeft
      (tried step isTrying future hosts) (result? step future hosts) := by
  induction hosts generalizing future with
  | nil => exact .undecided (fun _ none => absurd none List.not_mem_nil) (Nat.zero_le _)
  | cons host later hypothesis =>
      unfold result?
      rw [course]
      cases rests : future.restingUntil with
      | some moment =>
          rw [tried_cons_of_resting (by rw [isTrying, rests]; rfl),
            step_of_resting rests]
          by_cases due : moment ≤ host.clock
          · rw [if_pos due]
            exact hypothesis { future with restingUntil := none }
          · rw [if_neg due]
            exact hypothesis future
      | none =>
          rw [tried_cons_of_trying (by rw [isTrying, rests]; rfl)]
          by_cases full : FindsFull future.session future.content host
          · rw [step_of_full rests full]
            cases some_left : future.retriesLeft with
            | zero => exact .spent (List.forall_mem_singleton.mpr full) rfl
            | succ left =>
                let moment :=
                  (trySend future.session future.content host).state.clock +
                    future.backoff
                exact (hypothesis { future with
                  retriesLeft := left, restingUntil := some moment }).cons full
          · rw [step_of_other rests full]
            exact .answered [] rfl
              (fun _ none => absurd none List.not_mem_nil) (Nat.zero_le _) full

/-- A future stays one of the session, with the same packet. -/
theorem SendFuture.step_keeps
    {future next : SendFuture}
    (goes : (future.step host).value.next? = some next) :
    next.session = future.session ∧ next.content = future.content := by
  cases rests : future.restingUntil with
  | some moment =>
      rw [step_of_resting rests] at goes
      by_cases due : moment ≤ host.clock
      · rw [if_pos due] at goes
        cases goes
        exact ⟨rfl, rfl⟩
      · rw [if_neg due] at goes
        cases goes
        exact ⟨rfl, rfl⟩
  | none =>
      by_cases full : FindsFull future.session future.content host
      · rw [step_of_full rests full] at goes
        cases left : future.retriesLeft with
        | zero =>
            simp only [left] at goes
            cases goes
        | succ fewer =>
            simp only [left] at goes
            cases goes
            exact ⟨rfl, rfl⟩
      · rw [step_of_other rests full] at goes
        cases goes

/-- A step of a future is a try, or it does nothing. -/
theorem SendFuture.leaves (future : SendFuture) (host : Host State) :
    Leaves future.session future.content future.isTrying host (future.step host) [] := by
  unfold isTrying
  cases rests : future.restingUntil with
  | some moment =>
      rw [step_of_resting rests]
      split <;> exact ⟨rfl, rfl⟩
  | none =>
      by_cases full : FindsFull future.session future.content host
      · rw [step_of_full rests full]
        exact ⟨rfl, (List.append_nil _).symm⟩
      · rw [step_of_other rests full]
        exact ⟨rfl, (List.append_nil _).symm⟩

/-! ## Every sender comes to an end -/

/-- In hosts that follow one another, time goes on beyond every moment. -/
def TimeGoesOn (hosts : Nat → Host State) : Prop :=
  ∀ moment, ∃ first, ∀ later, first ≤ later → moment ≤ (hosts later).clock

/-- Some of the hosts that follow one another. -/
def stretch (hosts : Nat → Host State) (start count : Nat) : List (Host State) :=
  (List.range' start count).map hosts

section Stretch

omit [Driver State]

variable
  {hosts : Nat → Host State}
  {start count : Nat}

theorem stretch_succ :
    stretch hosts start (count + 1) = hosts start :: stretch hosts (start + 1) count := by
  unfold stretch
  rw [List.range'_succ, List.map_cons]

theorem stretch_add (more : Nat) :
    stretch hosts start (count + more) =
      stretch hosts start count ++ stretch hosts (start + count) more := by
  unfold stretch
  rw [← List.range'_append_1, List.map_append]

end Stretch

namespace SendFuture

variable
  {future : SendFuture}
  {hosts : Nat → Host State}

/-- A future that rests tries again at last. -/
theorem wakes
    (future : SendFuture)
    {moment : Nanoseconds}
    (goesOn : TimeGoesOn hosts)
    (rests : future.restingUntil = some moment)
    (start : Nat) :
    ∃ count, course step future (stretch hosts start count) =
      .running { future with restingUntil := none } := by
  obtain ⟨first, late⟩ := goesOn moment
  -- The number of hosts before the moment is certainly over.
  induction ahead : first - start generalizing start with
  | zero =>
      refine ⟨1, ?_⟩
      rw [stretch_succ, course, step_of_resting rests,
        if_pos (late start (Nat.le_of_sub_eq_zero ahead))]
      rfl
  | succ fewer hypothesis =>
      by_cases due : moment ≤ (hosts start).clock
      · refine ⟨1, ?_⟩
        rw [stretch_succ, course, step_of_resting rests, if_pos due]
        rfl
      · obtain ⟨count, wakes⟩ := hypothesis (start + 1) (by omega)
        refine ⟨count + 1, ?_⟩
        rw [stretch_succ, course, step_of_resting rests, if_neg due]
        exact wakes

/-- While time goes on, a future comes to a result. -/
theorem comes_to_result
    (goesOn : TimeGoesOn hosts)
    (future : SendFuture)
    (trying : future.restingUntil = none)
    (start : Nat) :
    ∃ count outcome,
      course step future (stretch hosts start count) = .finished outcome := by
  induction left : future.retriesLeft generalizing future start with
  | zero =>
      refine ⟨1, ?_⟩
      rw [stretch_succ, course]
      by_cases full : FindsFull future.session future.content (hosts start)
      · rw [step_of_full trying full, left]
        exact ⟨_, rfl⟩
      · rw [step_of_other trying full]
        exact ⟨_, rfl⟩
  | succ fewer hypothesis =>
      by_cases full : FindsFull future.session future.content (hosts start)
      · have value := congrArg Reply.value (step_of_full trying full)
        simp only [left] at value
        obtain ⟨rest, wakes⟩ := wakes
          { future with retriesLeft := _, restingUntil := some _ }
          goesOn rfl (start + 1)
        obtain ⟨count, outcome, ends⟩ := hypothesis
          { future with retriesLeft := fewer, restingUntil := none } rfl
          (start + 1 + rest) rfl
        refine ⟨rest + count + 1, outcome, ?_⟩
        rw [stretch_succ, course_of_running value, stretch_add]
        exact (course_append wakes _).trans ends
      · refine ⟨1, (trySend future.session future.content (hosts start)).value, ?_⟩
        rw [stretch_succ, course, step_of_other trying full]

end SendFuture

/-! ## Both senders -/

/-- A thread and a future that may try again so often send alike in hosts in
which both take their steps. -/
structure SendsAlike
    (id : SessionId)
    (content : Bytes)
    (retries : Nat)
    (thread : Send)
    (future : SendFuture)
    (hosts : List (Host State)) : Prop where
  /-- They make the same tries. -/
  tried_eq : tried SendFuture.step SendFuture.isTrying future hosts =
    tried Send.step Send.isTrying thread hosts
  /-- They make few of them. -/
  few : (tried Send.step Send.isTrying thread hosts).length ≤ retries + 1
  /-- They come to the same result. -/
  result_eq : result? SendFuture.step future hosts = result? Send.step thread hosts
  /-- The first try that does not find the ring full decides the result, or
  that all of them do. -/
  settles : Settles id content retries
    (tried Send.step Send.isTrying thread hosts) (result? Send.step thread hosts)
  /-- A step of the future is a try, or it does nothing. -/
  future_leaves : ∀ taken ∈ trail SendFuture.step future hosts,
    Leaves id content taken.1.isTrying taken.2 (taken.1.step taken.2) []
  /-- So is a step of the thread, which only says good-bye when it gives up. -/
  thread_leaves : ∀ taken ∈ trail Send.step thread hosts,
    Leaves id content taken.1.isTrying taken.2 (taken.1.step taken.2) [] ∨
      (taken.1.step taken.2).value = .finished (refuse .timedOut) ∧
        ∃ tries, Leaves id content taken.1.isTrying taken.2
          (taken.1.step taken.2) [Send.farewell tries]

/-- Every step of a future is a try of its packet, or it does nothing. -/
theorem SendFuture.leaves_of_mem_trail
    (future : SendFuture)
    (hosts : List (Host State)) :
    ∀ taken ∈ trail SendFuture.step future hosts,
      Leaves future.session future.content taken.1.isTrying taken.2
        (taken.1.step taken.2) [] := by
  intro taken member
  obtain ⟨session, content⟩ := trail_forall
    (fun other => other.session = future.session ∧ other.content = future.content)
    (fun other host next good goes =>
      ⟨(SendFuture.step_keeps goes).1.trans good.1,
        (SendFuture.step_keeps goes).2.trans good.2⟩)
    ⟨rfl, rfl⟩ hosts taken member
  rw [← session, ← content]
  exact taken.1.leaves taken.2

namespace Send

section AsFuture

variable (call : Send) (hosts : List (Host State))

theorem trail_asFuture :
    trail SendFuture.step call.asFuture hosts =
      (trail step call hosts).map (Prod.map asFuture fun host => host) :=
  trail_view (fun call host => (step_asFuture call host).1) call hosts

theorem tried_asFuture :
    tried SendFuture.step SendFuture.isTrying call.asFuture hosts =
      tried step isTrying call hosts := by
  unfold tried
  rw [trail_asFuture, List.filter_map, List.map_map]
  have same : (fun taken : SendFuture × Host State => taken.1.isTrying) ∘
      Prod.map asFuture (fun host => host) = fun taken => taken.1.isTrying :=
    funext fun taken => isTrying_asFuture taken.1
  rw [same]
  rfl

theorem result?_asFuture :
    result? SendFuture.step call.asFuture hosts = result? step call hosts := by
  unfold result?
  rw [course_view fun call host => (step_asFuture call host).1]
  cases course step call hosts <;> rfl

end AsFuture

/-- A thread and the future that stands for it send alike. -/
theorem sendsAlike (call : Send) (hosts : List (Host State)) :
    SendsAlike call.asFuture.session call.asFuture.content
      call.asFuture.retriesLeft call call.asFuture hosts := by
  have settles := call.asFuture.settles hosts
  rw [tried_asFuture, result?_asFuture] at settles
  have leaves := call.asFuture.leaves_of_mem_trail hosts
  exact {
    tried_eq := call.tried_asFuture hosts
    few := settles.length_le
    result_eq := call.result?_asFuture hosts
    settles
    future_leaves := leaves
    thread_leaves := by
      rintro ⟨thread, host⟩ member
      have member := List.mem_map_of_mem
        (f := Prod.map asFuture fun host : Host State => host) member
      rw [← trail_asFuture] at member
      obtain ⟨_, state, same | ⟨tries, ends, notes⟩⟩ := step_asFuture thread host
      all_goals
        have left := leaves _ member
        simp only [Prod.map_apply, isTrying_asFuture] at left
      · exact .inl (left.transfer state.symm (same.trans (List.append_nil _).symm))
      · exact .inr ⟨ends, tries, left.transfer state.symm notes⟩ }

end Send

/-- Whatever a session and its driver are like at successive tries, a sending
thread and a sending future make the same ones, at most one more than they may
make again, with the same effects, and answer the same: what the first try
answers that does not find the ring full, or that the time is over exactly if as
many tries as may be made all find it full.  This does not depend on how long
they rest between the tries, and while time goes on they do answer. -/
theorem sends_alike
    (id : SessionId)
    (content : Bytes)
    (begun : Host State) :
    let config := ((begun.sessions.get? id).map (·.config)).getD {}
    let retries := config.sendRetries.toNat
    let thread := (send id content begun).value
    let future := (sendAsync id content begun).value
    let triedBy : List (Host State) → List (Host State) :=
      tried Send.step Send.isTrying thread
    let answered : List (Host State) → Option (Outcome Unit) :=
      result? Send.step thread
    send id content begun = ⟨thread, begun, []⟩ ∧
    sendAsync id content begun = ⟨future, begun, []⟩ ∧
    (∀ hosts, SendsAlike id content retries thread future hosts ∧
      ((∀ host ∈ triedBy hosts,
          (trySend id content host).value ≠ refuse .timedOut) →
        (answered hosts = some (refuse .timedOut) ↔
          (triedBy hosts).length = retries + 1 ∧
            ∀ host ∈ triedBy hosts, FindsFull id content host))) ∧
    (∀ hosts others states outcome last,
      triedBy hosts <+: states →
      tried SendFuture.step SendFuture.isTrying future others <+: states →
      answered hosts = some outcome →
      result? SendFuture.step future others = some last →
        triedBy hosts = tried SendFuture.step SendFuture.isTrying future others ∧
          outcome = last) ∧
    ∀ hosts, TimeGoesOn hosts → ∃ count outcome,
      answered (stretch hosts 0 count) = some outcome ∧
        result? SendFuture.step future (stretch hosts 0 count) = some outcome := by
  intro config retries thread future triedBy answered
  have view : future = thread.asFuture := rfl
  have alike (hosts : List (Host State)) :
      SendsAlike id content retries thread future hosts :=
    thread.sendsAlike hosts
  refine ⟨rfl, rfl, fun hosts => ⟨alike hosts, (alike hosts).settles.timedOut_iff⟩,
    ?_, ?_⟩
  · intro hosts others states outcome last first second ends ended
    have settles := (alike hosts).settles
    rw [show result? Send.step thread hosts = some outcome from ends] at settles
    have settled := (alike others).settles
    rw [← (alike others).tried_eq, ← (alike others).result_eq, ended] at settled
    exact settles.unique settled first second
  · intro hosts goesOn
    obtain ⟨count, outcome, ends⟩ := future.comes_to_result goesOn rfl 0
    have result : result? SendFuture.step future (stretch hosts 0 count) =
        some outcome := by
      rw [result?, ends]
      rfl
    exact ⟨count, outcome, (alike _).result_eq.symm.trans result, result⟩

/-- A session that may try again twice, after five nanoseconds, with a ring that
was filled. -/
def filledRing : Host MemoryDriver :=
  (List.replicate 4 [1]).foldl (fun host content => (trySend 3 content host).state)
    (Polling.oneAdapter.launched 2 1 4 { sendRetries := 2, sendBackoff := 5 })

/-- While nothing but the time changes, the ring stays full, and both senders
give up after three tries. -/
theorem sends_alike_of_filled :
    let hosts := fun clock => { filledRing with clock }
    let thread := (send 3 [9] filledRing).value
    let future := (sendAsync 3 [9] filledRing).value
    TimeGoesOn hosts ∧ ∃ count,
      result? Send.step thread (stretch hosts 0 count) = some (refuse .timedOut) ∧
      result? SendFuture.step future (stretch hosts 0 count) =
        some (refuse .timedOut) ∧
      (tried Send.step Send.isTrying thread (stretch hosts 0 count)).length = 3 := by
  intro hosts thread future
  have goesOn : TimeGoesOn hosts := fun moment => ⟨moment, fun _ late => late⟩
  have full (clock : Nat) : (trySend 3 [9] (hosts clock)).value =
      refuse (.resourceExhausted "send ring") := by
    have same : (trySend 3 [9] (hosts clock)).value =
        (trySend 3 [9] filledRing).value := rfl
    rw [same]
    decide +kernel
  obtain ⟨-, -, alike, -, ends⟩ := sends_alike 3 [9] filledRing
  obtain ⟨count, outcome, answered, same⟩ := ends hosts goesOn
  have made : ∀ host ∈ tried Send.step Send.isTrying thread (stretch hosts 0 count),
      ∃ clock, host = hosts clock := by
    intro host member
    obtain ⟨clock, -, rfl⟩ := List.mem_map.mp (mem_of_mem_tried member)
    exact ⟨clock, rfl⟩
  obtain ⟨alike, late⟩ := alike (stretch hosts 0 count)
  have late := late fun host member same => by
    obtain ⟨clock, rfl⟩ := made host member
    cases (full clock).symm.trans same
  obtain rfl : refuse .timedOut = outcome := by
    have settles := alike.settles
    rw [answered] at settles
    cases settles with
    | spent => rfl
    | @answered earlier last split _ _ other =>
        obtain ⟨clock, rfl⟩ := made last
          (split ▸ List.mem_append_right earlier (List.mem_singleton_self last))
        exact absurd ⟨_, full clock⟩ other
  refine ⟨goesOn, count, answered, same, ?_⟩
  exact (late.mp answered).1

end Host
end VirtualAdapter

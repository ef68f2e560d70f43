import VirtualAdapter.Proofs.Signal.Heeded
import VirtualAdapter.Proofs.Signal.Registrations

/-!
# What the end of a wait tells

A wait reads its signals one after another while other threads set and reset
them.  Its end is what it read: a signal that it found set, or, after its
deadline, all of them unset.  A signal that stays set is found in the order of
the ranks, and the wait then ends after a few steps of its own.
-/

namespace VirtualAdapter
namespace Signal

/-! ## The steps of the thread that waits -/

/-- A step of the thread that waits. -/
structure OwnStep where
  /-- When it is taken. -/
  now : Nanoseconds
  /-- The phase that it starts from. -/
  phase : Phase
  /-- The signals that it meets. -/
  bank : Bank

/-- The step reads a signal and finds it in this state. -/
def OwnStep.Reads
    (step : OwnStep)
    (reading : SignalId × Wakeup)
    (isSet : Bool) : Prop :=
  (∃ afterDeadline rest, step.phase = .reading afterDeadline (reading :: rest)) ∧
    step.bank.isSet reading.1 = isSet

namespace Turn

variable {waiter : WaiterId}

/-- The step of the thread that waits, if this is one. -/
def ownStep? : Turn waiter → Wait × Bank → Option OwnStep
  | own now, (wait, bank) => some ⟨now, wait.phase, bank⟩
  | set _, _ | reset _, _ | other _ _ _, _ => none

/-- The steps that the thread that waits takes in a run, first ones first. -/
def ownSteps : List (Turn waiter) → Wait × Bank → List OwnStep
  | [], _ => []
  | turn :: turns, state =>
      (turn.ownStep? state).toList ++ ownSteps turns (turn.play state)

end Turn

/-! ## What is known in each phase -/

variable {watch : Watch} {steps : List OwnStep}

/-- The wait slept until its deadline, began no new round after that, and found
these signals unset. -/
def Expired
    (watch : Watch)
    (steps : List OwnStep)
    (read : List (SignalId × Wakeup)) : Prop :=
  ∃ before expiry check, steps = before ++ expiry :: check ∧
    expiry.phase = .sleeping ∧ watch.isOver expiry.now = true ∧
    (∀ step ∈ check, step.phase ≠ .clearing) ∧
    ∀ reading ∈ read, ∃ step ∈ check, step.Reads reading false

/-- The steps of a wait bear its end out. -/
def Justified (watch : Watch) (steps : List OwnStep) (outcome : Wakeup) : Prop :=
  (outcome = .timedOut ∧ Expired watch steps watch.readings) ∨
    ∃ signal, (signal, outcome) ∈ watch.readings ∧
      ∃ step ∈ steps, step.Reads (signal, outcome) true

/-- While it reads, a wait has found unset what it has read since its deadline;
when its end is known, its steps bear it out. -/
def Told (watch : Watch) (steps : List OwnStep) : Phase → Prop
  | .reading afterDeadline remaining =>
      ∃ read, watch.readings = read ++ remaining ∧
        (afterDeadline = true → Expired watch steps read)
  | .detaching _ (some outcome) | .finished outcome =>
      Justified watch steps outcome
  | .clearing | .attaching _ | .sleeping | .detaching _ none => True

/-- A step that begins no new round takes nothing back, and can add what it
reads. -/
theorem Expired.append
    {read more : List (SignalId × Wakeup)}
    (expired : Expired watch steps read)
    {step : OwnStep}
    (same : step.phase ≠ .clearing)
    (covers : ∀ reading ∈ more, reading ∈ read ∨ step.Reads reading false) :
    Expired watch (steps ++ [step]) more := by
  obtain ⟨before, expiry, check, rfl, asleep, late, round, unset⟩ := expired
  refine ⟨before, expiry, check ++ [step], by simp, asleep, late, ?_, ?_⟩
  · intro other member
    rcases List.mem_append.mp member with earlier | last
    · exact round other earlier
    · exact List.mem_singleton.mp last ▸ same
  · intro reading asked
    rcases covers reading asked with past | reads
    · obtain ⟨other, member, reads⟩ := unset reading past
      exact ⟨other, List.mem_append_left _ member, reads⟩
    · exact ⟨step, List.mem_append_right _ (List.mem_singleton_self _), reads⟩

theorem Justified.append
    {outcome : Wakeup}
    (justified : Justified watch steps outcome)
    {step : OwnStep}
    (same : step.phase ≠ .clearing) :
    Justified watch (steps ++ [step]) outcome := by
  rcases justified with ⟨late, expired⟩ | ⟨signal, watched, other, member, reads⟩
  · exact .inl ⟨late, expired.append same fun _ => .inl⟩
  · exact .inr ⟨signal, watched, other, List.mem_append_left _ member, reads⟩

namespace Told

variable {phase : Phase} {bank : Bank}

/-- A signal that is found set is the end; one that is found unset joins those
before it. -/
theorem afterReading
    {afterDeadline : Bool}
    {reading : SignalId × Wakeup}
    {rest : List (SignalId × Wakeup)}
    (told : Told watch steps (.reading afterDeadline (reading :: rest)))
    (now : Nanoseconds) :
    Told watch
      (steps ++ [⟨now, .reading afterDeadline (reading :: rest), bank⟩])
      (Wait.afterReading watch afterDeadline (bank.isSet reading.1) reading.2
        rest) := by
  obtain ⟨read, equal, expired⟩ := told
  have reads : OwnStep.Reads
      ⟨now, .reading afterDeadline (reading :: rest), bank⟩ reading
      (bank.isSet reading.1) := ⟨⟨afterDeadline, rest, rfl⟩, rfl⟩
  unfold Wait.afterReading
  split
  case isTrue isSet =>
    rw [isSet] at reads
    refine .inr ⟨reading.1, ?_, _, List.mem_append_right _ List.mem_cons_self, reads⟩
    rw [equal]
    exact List.mem_append_right _ List.mem_cons_self
  case isFalse unset =>
    rw [Bool.eq_false_iff.mpr unset] at reads
    refine ⟨read ++ [reading], by simp [equal], fun late =>
      (expired late).append nofun fun other asked => ?_⟩
    rcases List.mem_append.mp asked with past | this
    · exact .inl past
    · exact .inr (List.mem_singleton.mp this ▸ reads)

/-- A wait that wakes up at its deadline has read nothing since. -/
theorem wake (now : Nanoseconds) :
    Told watch (steps ++ [⟨now, .sleeping, bank⟩]) (Wait.wake watch now bank) := by
  unfold Wait.wake
  split
  case isTrue => trivial
  case isFalse =>
    split
    case isTrue late =>
      exact ⟨[], rfl, fun _ =>
        ⟨steps, _, [], rfl, rfl, late, by simp, by simp⟩⟩
    case isFalse => trivial

/-- Every step of the wait itself adds to what is known. -/
theorem advance
    (told : Told watch steps phase)
    (now : Nanoseconds) :
    Told watch (steps ++ [⟨now, phase, bank⟩])
      (Wait.advance watch now bank phase).1 := by
  cases phase with
  | clearing => trivial
  | attaching remaining =>
      cases remaining with
      | nil => exact ⟨[], rfl, fun none => nomatch none⟩
      | cons => trivial
  | reading afterDeadline remaining =>
      cases remaining with
      | nil =>
          obtain ⟨read, equal, expired⟩ := told
          cases afterDeadline with
          | false => trivial
          | true =>
              rw [List.append_nil] at equal
              subst equal
              exact .inl ⟨rfl, (expired rfl).append nofun fun _ => .inl⟩
      | cons reading rest => exact told.afterReading now
  | sleeping => exact wake now
  | detaching remaining outcome =>
      cases outcome with
      | none => cases remaining <;> trivial
      | some outcome => cases remaining <;> exact Justified.append told nofun
  | finished outcome => exact Justified.append told nofun

/-- However the steps interleave, the end of a wait is borne out by what the
wait has read. -/
theorem playAll
    {state : Wait × Bank}
    (turns : List (Turn watch.waiter))
    (watches : state.1.watch = watch)
    (told : Told watch steps state.1.phase) :
    Told watch (steps ++ Turn.ownSteps turns state)
      (Turn.playAll turns state).1.phase := by
  -- The steps taken so far grow along the run.
  induction turns generalizing state steps with
  | nil => simpa [Turn.ownSteps] using told
  | cons turn turns hypothesis =>
      rw [Turn.ownSteps, ← List.append_assoc]
      refine hypothesis ((turn.watch_play state).trans watches) ?_
      subst watches
      cases turn with
      | own now => exact told.advance now
      | set | reset | other =>
          rw [Turn.ownStep?, Option.toList_none, List.append_nil]
          exact told

end Told

/-! ## Signals that stay set -/

section Heeding

variable {banks : List Bank} {phase : Phase}

/-- A wait that is over stays so, any other one comes nearer to its end. -/
theorem Heeding.nearer
    (stays : ∃ reading ∈ watch.readings,
      ∀ bank ∈ banks, bank.isSet reading.1 = true)
    (heeding : Heeding watch banks phase)
    {bank : Bank}
    (member : bank ∈ banks)
    (now : Nanoseconds) :
    Heeding watch banks (Wait.advance watch now bank phase).1 ∧
      stepsLeft watch (Wait.advance watch now bank phase).1 ≤
        stepsLeft watch phase - 1 := by
  by_cases ended : ∃ outcome, phase = .finished outcome
  case pos =>
    obtain ⟨outcome, rfl⟩ := ended
    exact ⟨heeding, Nat.zero_le _⟩
  case neg =>
    obtain ⟨kept, less⟩ := heeding.advance stays
      (fun outcome same => ended ⟨outcome, same⟩) member now
    exact ⟨kept, Nat.le_sub_one_of_lt less⟩

/-- While a watched signal stays set at the steps of a wait, each of them
brings it nearer to its end. -/
theorem Heeding.playAll
    {state : Wait × Bank}
    (turns : List (Turn watch.waiter))
    (watches : state.1.watch = watch)
    (stays : ∃ reading ∈ watch.readings,
      ∀ bank ∈ banks, bank.isSet reading.1 = true)
    (within : ∀ step ∈ Turn.ownSteps turns state, step.bank ∈ banks)
    (heeding : Heeding watch banks state.1.phase) :
    Heeding watch banks (Turn.playAll turns state).1.phase ∧
      stepsLeft watch (Turn.playAll turns state).1.phase ≤
        stepsLeft watch state.1.phase - (Turn.ownSteps turns state).length := by
  induction turns generalizing state with
  | nil => exact ⟨heeding, Nat.le_refl _⟩
  | cons turn turns hypothesis =>
      have watched := (turn.watch_play state).trans watches
      have later : ∀ step ∈ Turn.ownSteps turns (turn.play state),
          step.bank ∈ banks :=
        fun step member => within step (List.mem_append_right _ member)
      rw [Turn.playAll_cons, Turn.ownSteps, List.length_append]
      subst watches
      cases turn with
      | own now =>
          have member : state.2 ∈ banks :=
            within _ (List.mem_append_left _ (List.mem_singleton_self _))
          obtain ⟨kept, nearer⟩ := heeding.nearer stays member now
          obtain ⟨kept, few⟩ := hypothesis watched later kept
          refine ⟨kept, Nat.le_trans few ?_⟩
          rw [← Nat.sub_sub]
          exact Nat.sub_le_sub_right nearer _
      | set | reset | other =>
          rw [Turn.ownStep?, Option.toList_none, List.length_nil, Nat.zero_add]
          exact hypothesis watched later heeding

end Heeding

/-! ## Whole calls -/

namespace Justified

end Justified

end Signal
end VirtualAdapter

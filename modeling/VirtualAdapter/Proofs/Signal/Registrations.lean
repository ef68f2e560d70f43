import VirtualAdapter.Proofs.Signal.Wakeups

/-!
# Registrations of one wait and of all others

A wait registers its own waiter and takes those registrations back.  What the
other threads have registered is at any time what they would have registered
without it, and at its end nothing of its own is left.
-/

namespace VirtualAdapter
namespace Signal

/-! ## One step of any wait -/

/-- The registrations with a signal after the next step of a wait. -/
def Wait.registered
    (wait : Wait)
    (signal : SignalId)
    (waiters : List WaiterId) : List WaiterId :=
  match wait.phase with
  | .attaching (next :: _) =>
      if signal = next then waiters ++ [wait.watch.waiter] else waiters
  | .detaching (next :: _) _ =>
      if signal = next then waiters.filter (· ≠ wait.watch.waiter) else waiters
  | _ => waiters

/-- The registrations after a step depend on those before it only. -/
theorem Wait.waiters_step
    (wait : Wait)
    (now : Nanoseconds)
    (bank : Bank)
    (signal : SignalId) :
    (wait.step now bank).2.waiters signal =
      wait.registered signal (bank.waiters signal) := by
  obtain ⟨watch, phase⟩ := wait
  unfold Wait.registered
  cases phase with
  | clearing => rfl
  | attaching remaining =>
      cases remaining with
      | nil => rfl
      | cons next rest =>
          refine (Bank.waiters_attach next signal watch.waiter).trans ?_
          dsimp only
          split
          case isTrue same => rw [same]
          case isFalse => rfl
  | reading afterDeadline remaining =>
      cases remaining with
      | nil => cases afterDeadline <;> rfl
      | cons reading rest => rfl
  | sleeping => rfl
  | detaching remaining outcome =>
      cases remaining with
      | nil => cases outcome <;> rfl
      | cons next rest =>
          refine (Bank.waiters_detach next signal watch.waiter).trans ?_
          dsimp only
          split
          case isTrue same => rw [same]
          case isFalse => rfl
  | finished outcome => rfl

/-- A wait touches no registration but its own. -/
theorem Wait.filter_registered
    (wait : Wait)
    (signal : SignalId)
    (waiters : List WaiterId) :
    (wait.registered signal waiters).filter (· ≠ wait.watch.waiter) =
      waiters.filter (· ≠ wait.watch.waiter) := by
  unfold Wait.registered
  split
  · split <;> simp
  · split <;> simp
  · rfl

/-- What a wait does to the registrations, it does to those without another
waiter. -/
theorem Wait.filter_registered_of_foreign
    {wait : Wait}
    {waiter : WaiterId}
    (foreign : wait.watch.waiter ≠ waiter)
    (signal : SignalId)
    (waiters : List WaiterId) :
    (wait.registered signal waiters).filter (· ≠ waiter) =
      wait.registered signal (waiters.filter (· ≠ waiter)) := by
  unfold Wait.registered
  split
  · split <;> simp [foreign]
  · split
    case isTrue => exact List.filter_comm _ _ waiters
    case isFalse => rfl
  · rfl

/-- A wait registers no other waiter. -/
theorem Wait.not_mem_registered
    {wait : Wait}
    {waiter : WaiterId}
    (foreign : wait.watch.waiter ≠ waiter)
    (signal : SignalId)
    {waiters : List WaiterId}
    (absent : waiter ∉ waiters) : waiter ∉ wait.registered signal waiters := by
  unfold Wait.registered
  split
  · split
    case isTrue => simp [absent, foreign.symm]
    case isFalse => exact absent
  · split
    case isTrue => exact fun member => absent (List.mem_of_mem_filter member)
    case isFalse => exact absent
  · exact absent

/-! ## The other threads -/

namespace Turn

variable {waiter : WaiterId}

/-- The step is one of the thread that waits. -/
def isOwn : Turn waiter → Bool
  | own _ => true
  | set _ | reset _ | other _ _ _ => false

/-- The others have registered the same in both states. -/
def SameOthers (waiter : WaiterId) (bank beside : Bank) : Prop :=
  ∀ signal, (bank.waiters signal).filter (· ≠ waiter) =
    (beside.waiters signal).filter (· ≠ waiter)

/-- A step of another thread registers the same, whatever the waiter itself has
registered. -/
theorem SameOthers.play
    {state beside : Wait × Bank}
    (same : SameOthers waiter state.2 beside.2)
    {turn : Turn waiter}
    (another : turn.isOwn = false) :
    SameOthers waiter (turn.play state).2 (turn.play beside).2 := by
  intro signal
  cases turn with
  | own now => cases another
  | set id =>
      simp only [Turn.play, Bank.waiters_set]
      exact same signal
  | reset id =>
      simp only [Turn.play, Bank.waiters_reset]
      exact same signal
  | other wait foreign now =>
      simp only [Turn.play, Wait.waiters_step,
        Wait.filter_registered_of_foreign foreign]
      rw [same signal]

/-- A run registers for the other threads what they register alone. -/
theorem SameOthers.playAll
    {state beside : Wait × Bank}
    (waits : state.1.watch.waiter = waiter)
    (same : SameOthers waiter state.2 beside.2)
    (turns : List (Turn waiter)) :
    SameOthers waiter (Turn.playAll turns state).2
      (Turn.playAll (turns.filter (!·.isOwn)) beside).2 := by
  -- The second run skips the steps of the waiter, which the filter hides.
  induction turns generalizing state beside with
  | nil => exact same
  | cons turn turns hypothesis =>
      rw [Turn.playAll_cons]
      cases side : turn.isOwn with
      | false =>
          rw [List.filter_cons_of_pos (by simp [side]), Turn.playAll_cons]
          exact hypothesis (by simpa using waits) (same.play side)
      | true =>
          rw [List.filter_cons_of_neg (by simp [side])]
          refine hypothesis (by simpa using waits) fun signal => ?_
          cases turn with
          | own now =>
              subst waits
              rw [← same signal]
              simp only [Turn.play, Wait.waiters_step, Wait.filter_registered]
          | set | reset | other => cases side

end Turn

/-! ## The end of a wait -/

/-- From the end of a round on, the waiter is registered at most with the
signals from which it has not withdrawn yet. -/
def Withdrawn (watch : Watch) (bank : Bank) : Phase → Prop
  | .detaching remaining _ =>
      ∀ signal ∈ watch.signals, signal ∉ remaining →
        watch.waiter ∉ bank.waiters signal
  | .finished _ =>
      ∀ signal ∈ watch.signals, watch.waiter ∉ bank.waiters signal
  | .clearing | .attaching _ | .reading _ _ | .sleeping => True

namespace Withdrawn

variable {watch : Watch} {bank after : Bank} {phase : Phase}

/-- At the start of a withdrawal nothing is said. -/
theorem start (watch : Watch) (bank : Bank) (outcome : Option Wakeup) :
    Withdrawn watch bank (.detaching watch.signals outcome) :=
  fun _ watched past => absurd watched past

/-- Who registers no more of this waiter keeps it withdrawn. -/
theorem of_absent
    (withdrawn : Withdrawn watch bank phase)
    (absent : ∀ signal, watch.waiter ∉ bank.waiters signal →
      watch.waiter ∉ after.waiters signal) : Withdrawn watch after phase := by
  cases phase with
  | detaching remaining outcome =>
      exact fun signal watched past => absent signal (withdrawn signal watched past)
  | finished outcome =>
      exact fun signal watched => absent signal (withdrawn signal watched)
  | clearing | attaching | reading | sleeping => trivial

/-- Every step of the wait itself withdraws as far as its next phase asks. -/
theorem advance
    (now : Nanoseconds)
    (withdrawn : Withdrawn watch bank phase) :
    Withdrawn watch (Wait.advance watch now bank phase).2
      (Wait.advance watch now bank phase).1 := by
  cases phase with
  | clearing => trivial
  | attaching remaining => cases remaining <;> trivial
  | reading afterDeadline remaining =>
      cases remaining with
      | nil =>
          cases afterDeadline with
          | false => trivial
          | true => exact start watch bank (some .timedOut)
      | cons reading rest =>
          change Withdrawn watch bank (Wait.afterReading _ _ _ _ _)
          unfold Wait.afterReading
          split
          case isTrue => exact start watch bank _
          case isFalse => trivial
  | sleeping =>
      change Withdrawn watch bank (Wait.wake watch now bank)
      unfold Wait.wake
      split
      case isTrue => exact start watch bank none
      case isFalse => split <;> trivial
  | detaching remaining outcome =>
      cases remaining with
      | nil =>
          cases outcome with
          | none => trivial
          | some outcome =>
              exact fun signal watched =>
                withdrawn signal watched List.not_mem_nil
      | cons next rest =>
          intro signal watched past
          change watch.waiter ∉ (bank.detach next watch.waiter).waiters signal
          rw [Bank.waiters_detach]
          split
          case isTrue => simp
          case isFalse other =>
            exact withdrawn signal watched
              (List.not_mem_cons_of_ne_of_not_mem other past)
  | finished outcome => exact withdrawn

/-- One step of any thread keeps the waiter withdrawn. -/
theorem play
    (turn : Turn watch.waiter)
    (state : Wait × Bank)
    (watches : state.1.watch = watch)
    (withdrawn : Withdrawn watch state.2 state.1.phase) :
    Withdrawn watch (turn.play state).2 (turn.play state).1.phase := by
  subst watches
  cases turn with
  | own now => exact withdrawn.advance now
  | set id => exact withdrawn.of_absent fun _ => by simp [Turn.play]
  | reset id => exact withdrawn.of_absent fun _ => by simp [Turn.play]
  | other beside foreign now =>
      refine withdrawn.of_absent fun signal absent => ?_
      simp only [Turn.play, Wait.waiters_step]
      exact Wait.not_mem_registered foreign signal absent

end Withdrawn

end Signal
end VirtualAdapter

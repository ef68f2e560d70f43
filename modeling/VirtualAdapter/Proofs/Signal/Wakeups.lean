import VirtualAdapter.Proofs.Signal.Bank

/-!
# No wakeup is lost

One thread waits while others set and reset signals and wait themselves.  Each
registration is made before the reading that belongs to it, so from the
reading on a set signal has either been seen or has flagged the waiter.  What
has to hold is stated phase by phase, kept by every step of either side, and
says of the sleep that an unflagged waiter sleeps over unset signals only.
-/

namespace VirtualAdapter
namespace Signal

/-- One atomic step of the thread that waits or of any other one. -/
inductive Turn (waiter : WaiterId)
  /-- The thread that waits takes its next step. -/
  | own (now : Nanoseconds)
  /-- Another thread sets a signal. -/
  | set (signal : SignalId)
  /-- Another thread resets a signal. -/
  | reset (signal : SignalId)
  /-- Another thread takes some step of a wait of its own. -/
  | other
      (wait : Wait)
      (foreign : wait.watch.waiter ≠ waiter)
      (now : Nanoseconds)

namespace Turn

variable {waiter : WaiterId}

/-- The wait and the signals after one step. -/
def play : Turn waiter → Wait × Bank → Wait × Bank
  | own now, (wait, bank) => wait.step now bank
  | set signal, (wait, bank) => (wait, bank.set signal)
  | reset signal, (wait, bank) => (wait, bank.reset signal)
  | other beside _ now, (wait, bank) => (wait, (beside.step now bank).2)

/-- The wait and the signals after several steps, the first one first. -/
def playAll (turns : List (Turn waiter)) (state : Wait × Bank) : Wait × Bank :=
  turns.foldl (fun state turn => turn.play state) state

@[simp]
theorem playAll_nil (state : Wait × Bank) :
    playAll ([] : List (Turn waiter)) state = state :=
  rfl

@[simp]
theorem playAll_cons
    (turn : Turn waiter)
    (turns : List (Turn waiter))
    (state : Wait × Bank) :
    playAll (turn :: turns) state = playAll turns (turn.play state) :=
  rfl

/-- No step changes what is watched. -/
@[simp]
theorem watch_play (turn : Turn waiter) (state : Wait × Bank) :
    (turn.play state).1.watch = state.1.watch := by
  cases turn <;> rfl

/-- What every step keeps of the signals and the phase, a run keeps. -/
theorem playAll_keeps
    {watch : Watch}
    {fact : Bank → Phase → Prop}
    (keeps : ∀ (turn : Turn watch.waiter) (state : Wait × Bank),
      state.1.watch = watch → fact state.2 state.1.phase →
        fact (turn.play state).2 (turn.play state).1.phase)
    {state : Wait × Bank}
    (watches : state.1.watch = watch)
    (holds : fact state.2 state.1.phase)
    (turns : List (Turn watch.waiter)) :
    (playAll turns state).1.watch = watch ∧
      fact (playAll turns state).2 (playAll turns state).1.phase := by
  induction turns generalizing state with
  | nil => exact ⟨watches, holds⟩
  | cons turn turns hypothesis =>
      exact hypothesis ((turn.watch_play state).trans watches)
        (keeps turn state watches holds)

end Turn

/-! ## What a waiter hears -/

/-- The waiter is registered with a signal, and flagged if that is set. -/
structure Hears (waiter : WaiterId) (bank : Bank) (signal : SignalId) : Prop where
  registered : waiter ∈ bank.waiters signal
  flagged : bank.isSet signal = true → bank.isFlagged waiter = true

/-- The waiter keeps its registrations, and what it heard of it still hears
of. -/
structure Undisturbed (waiter : WaiterId) (before after : Bank) : Prop where
  registered :
    ∀ signal, waiter ∈ before.waiters signal → waiter ∈ after.waiters signal
  hears : ∀ signal, Hears waiter before signal → Hears waiter after signal

namespace Undisturbed

variable {waiter : WaiterId} {bank : Bank}

theorem rfl : Undisturbed waiter bank bank :=
  ⟨fun _ registered => registered, fun _ hears => hears⟩

theorem set (signal : SignalId) :
    Undisturbed waiter bank (bank.set signal) := by
  refine ⟨fun other registered => ?_, fun other hears => ⟨?_, fun isSet => ?_⟩⟩
  · rwa [Bank.waiters_set]
  · rw [Bank.waiters_set]
    exact hears.registered
  · rw [Bank.isFlagged_set, Bool.or_eq_true, List.contains_iff_mem]
    rw [Bank.isSet_set] at isSet
    split at isSet
    case isTrue same => exact .inr (same ▸ hears.registered)
    case isFalse => exact .inl (hears.flagged isSet)

theorem reset (signal : SignalId) :
    Undisturbed waiter bank (bank.reset signal) := by
  refine ⟨fun other registered => ?_, fun other hears => ⟨?_, fun isSet => ?_⟩⟩
  · rwa [Bank.waiters_reset]
  · rw [Bank.waiters_reset]
    exact hears.registered
  · rw [Bank.isSet_reset] at isSet
    split at isSet
    case isTrue => cases isSet
    case isFalse => exact hears.flagged isSet

/-- A change that takes no registration, sets nothing and clears no flag of
this waiter disturbs it in nothing. -/
theorem of_quiet
    {after : Bank}
    (registered :
      ∀ signal, waiter ∈ bank.waiters signal → waiter ∈ after.waiters signal)
    (isSet : ∀ signal, after.isSet signal = bank.isSet signal)
    (isFlagged : after.isFlagged waiter = bank.isFlagged waiter) :
    Undisturbed waiter bank after := by
  refine ⟨registered, fun signal hears =>
    ⟨registered signal hears.registered, ?_⟩⟩
  rw [isSet, isFlagged]
  exact hears.flagged

theorem attach (signal : SignalId) (other : WaiterId) :
    Undisturbed waiter bank (bank.attach signal other) := by
  refine of_quiet (fun watched registered => ?_)
    (fun _ => Bank.isSet_attach _ _ _) (Bank.isFlagged_attach _ _ _)
  rw [Bank.waiters_attach]
  split
  case isTrue same => exact List.mem_append_left _ (same ▸ registered)
  case isFalse => exact registered

variable {other : WaiterId}

theorem detach (foreign : other ≠ waiter) (signal : SignalId) :
    Undisturbed waiter bank (bank.detach signal other) := by
  refine of_quiet (fun watched registered => ?_)
    (fun _ => Bank.isSet_detach _ _ _) (Bank.isFlagged_detach _ _ _)
  rw [Bank.waiters_detach]
  split
  case isTrue same =>
      exact List.mem_filter.mpr ⟨same ▸ registered, by simpa using foreign.symm⟩
  case isFalse => exact registered

theorem clear (foreign : other ≠ waiter) :
    Undisturbed waiter bank (bank.clear other) :=
  of_quiet (fun _ registered => registered) (fun _ => Bank.isSet_clear _ _)
    (Bank.isFlagged_clear_of_ne foreign.symm)

/-- No step of another wait disturbs the waiter. -/
theorem step
    {wait : Wait}
    (foreign : wait.watch.waiter ≠ waiter)
    (now : Nanoseconds) :
    Undisturbed waiter bank (wait.step now bank).2 := by
  rcases wait.step_cases now bank with same | same | ⟨signal, same⟩ | ⟨signal, same⟩
  · rw [same]
    exact rfl
  · rw [same]
    exact clear foreign
  · rw [same]
    exact attach signal _
  · rw [same]
    exact detach foreign signal

end Undisturbed

/-! ## What holds in each phase -/

/-- While it registers, the waiter is registered with every signal whose turn
is past; while it reads, with all of them, and it hears of those already read;
while it sleeps, it hears of all. -/
def Guarded (watch : Watch) (bank : Bank) : Phase → Prop
  | .attaching remaining =>
      ∀ signal ∈ watch.signals, signal ∉ remaining →
        watch.waiter ∈ bank.waiters signal
  | .reading _ remaining =>
      ∀ signal ∈ watch.signals,
        watch.waiter ∈ bank.waiters signal ∧
          (signal ∉ remaining.map Prod.fst → Hears watch.waiter bank signal)
  | .sleeping => ∀ signal ∈ watch.signals, Hears watch.waiter bank signal
  | .clearing | .detaching _ _ | .finished _ => True

/-- The signals that are registered with are those that are read. -/
theorem mem_map_readings (watch : Watch) (signal : SignalId) :
    signal ∈ watch.readings.map Prod.fst ↔ signal ∈ watch.signals := by
  unfold Watch.readings Watch.signals
  cases watch.interrupt <;> simp <;> grind

namespace Guarded

variable {watch : Watch} {bank after : Bank} {phase : Phase}

/-- Steps of other threads keep what holds in the phase. -/
theorem of_undisturbed
    (guarded : Guarded watch bank phase)
    (undisturbed : Undisturbed watch.waiter bank after) :
    Guarded watch after phase := by
  cases phase with
  | attaching remaining =>
      intro signal watched past
      exact undisturbed.registered signal (guarded signal watched past)
  | reading afterDeadline remaining =>
      intro signal watched
      obtain ⟨registered, hears⟩ := guarded signal watched
      exact ⟨undisturbed.registered signal registered, fun past =>
        undisturbed.hears signal (hears past)⟩
  | sleeping =>
      intro signal watched
      exact undisturbed.hears signal (guarded signal watched)
  | clearing => trivial
  | detaching remaining outcome => trivial
  | finished outcome => trivial

/-- A registration: the signal whose turn it was joins those behind. -/
theorem attach
    {signal : SignalId}
    {rest : List SignalId}
    (guarded : Guarded watch bank (.attaching (signal :: rest))) :
    Guarded watch (bank.attach signal watch.waiter) (.attaching rest) := by
  intro other watched past
  rw [Bank.waiters_attach]
  split
  case isTrue => exact List.mem_append_right _ (List.mem_singleton_self _)
  case isFalse different =>
      exact guarded other watched (by simp [different, past])

/-- A reading: an unset signal joins those the waiter hears of, a set one ends
the round. -/
theorem afterReading
    {afterDeadline : Bool}
    {signal : SignalId}
    {meaning : Wakeup}
    {rest : List (SignalId × Wakeup)}
    (guarded :
      Guarded watch bank (.reading afterDeadline ((signal, meaning) :: rest))) :
    Guarded watch bank
      (Wait.afterReading watch afterDeadline (bank.isSet signal) meaning rest) := by
  unfold Wait.afterReading
  split
  case isTrue => trivial
  case isFalse unset =>
      intro other watched
      obtain ⟨registered, hears⟩ := guarded other watched
      refine ⟨registered, fun past => ?_⟩
      by_cases same : other = signal
      case pos =>
          subst same
          exact ⟨registered, fun isSet => absurd isSet unset⟩
      case neg => exact hears (by simpa [same] using past)

/-- Waking up: whatever it leads to, a waiter that sleeps on still hears of
every signal, and one that reads again is still registered. -/
theorem wake
    (now : Nanoseconds)
    (guarded : Guarded watch bank .sleeping) :
    Guarded watch bank (Wait.wake watch now bank) := by
  unfold Wait.wake
  split
  case isTrue => trivial
  case isFalse =>
      split
      case isTrue =>
          intro signal watched
          exact ⟨(guarded signal watched).registered, fun unread =>
            absurd ((mem_map_readings watch signal).mpr watched) unread⟩
      case isFalse => exact guarded

/-- Every step of the wait itself leads to what its next phase asks for. -/
theorem advance
    (now : Nanoseconds)
    (guarded : Guarded watch bank phase) :
    Guarded watch (Wait.advance watch now bank phase).2
      (Wait.advance watch now bank phase).1 := by
  cases phase with
  | clearing => exact fun signal watched unregistered => absurd watched unregistered
  | attaching remaining =>
      cases remaining with
      | cons signal rest => exact guarded.attach
      | nil =>
          intro signal watched
          exact ⟨guarded signal watched (List.not_mem_nil), fun unread =>
            absurd ((mem_map_readings watch signal).mpr watched) unread⟩
  | reading afterDeadline remaining =>
      cases remaining with
      | cons reading rest => exact guarded.afterReading
      | nil =>
          cases afterDeadline with
          | true => trivial
          | false => exact fun signal watched => (guarded signal watched).2 (by simp)
  | sleeping => exact guarded.wake now
  | detaching remaining outcome =>
      cases remaining with
      | cons signal rest => trivial
      | nil => cases outcome <;> trivial
  | finished outcome => trivial

end Guarded

/-! ## Whole runs -/

/-- One step of any thread keeps what holds in the phase. -/
theorem Guarded.play
    {watch : Watch}
    (turn : Turn watch.waiter)
    (state : Wait × Bank)
    (watches : state.1.watch = watch)
    (guarded : Guarded watch state.2 state.1.phase) :
    Guarded watch (turn.play state).2 (turn.play state).1.phase := by
  subst watches
  cases turn with
  | own now => exact guarded.advance now
  | set signal => exact guarded.of_undisturbed (.set signal)
  | reset signal => exact guarded.of_undisturbed (.reset signal)
  | other beside foreign now =>
      exact guarded.of_undisturbed (.step foreign now)

theorem Guarded.playAll
    {watch : Watch}
    {wait : Wait}
    {bank : Bank}
    (turns : List (Turn watch.waiter))
    (watches : wait.watch = watch)
    (guarded : Guarded watch bank wait.phase) :
    (Turn.playAll turns (wait, bank)).1.watch = watch ∧
      Guarded watch (Turn.playAll turns (wait, bank)).2
        (Turn.playAll turns (wait, bank)).1.phase :=
  @Turn.playAll_keeps watch (Guarded watch) Guarded.play (wait, bank) watches
    guarded turns

/-- However the steps of a wait and of other threads interleave, a thread that
is asleep with its waiter unflagged watches unset signals only, and one that is
asleep while a watched signal is set leaves the sleep with its next step. -/
theorem asleep_over_unset_signals
    (bank : Bank)
    (own cancel : SignalId)
    (interrupt : Option SignalId)
    (deadline : Option Nanoseconds)
    (turns : List (Turn bank.nextWaiter))
    (wait : Wait)
    (after : Bank)
    (reached :
      Turn.playAll turns (Wait.start bank own cancel interrupt deadline) =
        (wait, after))
    (asleep : wait.phase = .sleeping) :
    (after.isFlagged bank.nextWaiter = false →
      ∀ signal ∈ [own, cancel] ++ interrupt.toList,
        after.isSet signal = false) ∧
    ((∃ signal ∈ [own, cancel] ++ interrupt.toList,
        after.isSet signal = true) →
      ∀ now, (wait.step now after).1.phase =
        .detaching ([own, cancel] ++ interrupt.toList) none) := by
  let watch : Watch := ⟨own, cancel, interrupt, deadline, bank.nextWaiter⟩
  obtain ⟨watches, guarded⟩ :=
    @Guarded.playAll watch ⟨watch, .clearing⟩ bank.newWaiter.2 turns rfl trivial
  change Turn.playAll turns (⟨watch, .clearing⟩, bank.newWaiter.2) = _ at reached
  rw [reached] at watches guarded
  change Guarded watch after wait.phase at guarded
  rw [asleep] at guarded
  refine ⟨fun unflagged signal watched => ?_, fun ⟨signal, watched, isSet⟩ now => ?_⟩
  · cases state : after.isSet signal with
    | false => rfl
    | true =>
        have flagged := (guarded signal watched).flagged state
        exact absurd flagged (by rw [unflagged]; exact Bool.false_ne_true)
  · have flagged := (guarded signal watched).flagged isSet
    obtain ⟨_, phase⟩ := wait
    subst watches asleep
    change Wait.wake watch now after = _
    exact if_pos flagged

/-- Another thread sets a signal between its registration and its reading and
takes that back before the reading; the waiter then takes many steps. -/
def setTakenBack : List (Turn 0) :=
  List.replicate 3 (.own 0) ++ [.set 0] ++ List.replicate 3 (.own 0) ++
    [.reset 0] ++ List.replicate 17 (.own 0)

/-- The flag of a set taken back sends the waiter round once more, and then it
sleeps on unflagged over unset signals. -/
theorem asleep_after_setTakenBack :
    ∃ wait after,
      Turn.playAll setTakenBack (Wait.start {} 0 1 (some 0) none) =
          (wait, after) ∧
        wait.phase = .sleeping ∧ after.isFlagged 0 = false ∧
          ∀ signal ∈ [0, 1, 0], after.isSet signal = false := by
  refine ⟨_, _, rfl, rfl, rfl, ?_⟩
  exact (asleep_over_unset_signals {} 0 1 (some 0) none setTakenBack _ _
    rfl rfl).1 rfl

end Signal
end VirtualAdapter

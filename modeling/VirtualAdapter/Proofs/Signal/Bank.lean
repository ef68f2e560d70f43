import VirtualAdapter.Proofs.Table
import VirtualAdapter.Signal.Wait

/-!
# What the signals show after each operation

Setting and resetting show at the signal itself only, registering and taking
registrations back show among its waiters only, and flagging a waiter shows at
no signal.
-/

namespace VirtualAdapter
namespace Signal
namespace Bank

variable {bank : Bank}

theorem signals_foldl_flag (waiters : List WaiterId) :
    (waiters.foldl flag bank).signals = bank.signals := by
  induction waiters generalizing bank with
  | nil => rfl
  | cons waiter rest hypothesis =>
      rw [List.foldl_cons, hypothesis, flag]
      split <;> rfl

theorem signal_setSignal (id other : SignalId) (state : State) :
    (bank.setSignal id state).signal other =
      if other = id then state else bank.signal other := by
  unfold signal setSignal
  rw [Table.get?_insert]
  split <;> rfl

theorem signal_set (id other : SignalId) :
    (bank.set id).signal other =
      if other = id then { bank.signal id with isSet := true }
      else bank.signal other := by
  rw [← signal_setSignal]
  unfold set
  conv =>
    lhs
    unfold signal
    rw [signals_foldl_flag]
  rfl

@[simp]
theorem isSet_set (id other : SignalId) :
    (bank.set id).isSet other = if other = id then true else bank.isSet other := by
  unfold isSet signal set
  rw [signals_foldl_flag, setSignal, Table.get?_insert]
  split <;> rfl

@[simp]
theorem isSet_reset (id other : SignalId) :
    (bank.reset id).isSet other =
      if other = id then false else bank.isSet other := by
  unfold isSet signal reset
  rw [setSignal, Table.get?_insert]
  split <;> rfl

@[simp]
theorem isSet_attach (id other : SignalId) (waiter : WaiterId) :
    (bank.attach id waiter).isSet other = bank.isSet other := by
  unfold isSet attach
  rw [signal_setSignal]
  split
  case isTrue same => rw [same]
  case isFalse => rfl

@[simp]
theorem isSet_detach (id other : SignalId) (waiter : WaiterId) :
    (bank.detach id waiter).isSet other = bank.isSet other := by
  unfold isSet detach
  rw [signal_setSignal]
  split
  case isTrue same => rw [same]
  case isFalse => rfl

@[simp]
theorem isSet_clear (id : SignalId) (waiter : WaiterId) :
    (bank.clear waiter).isSet id = bank.isSet id :=
  rfl

@[simp]
theorem waiters_set (id other : SignalId) :
    (bank.set id).waiters other = bank.waiters other := by
  unfold waiters
  rw [signal_set]
  split
  case isTrue same => rw [same]
  case isFalse => rfl

@[simp]
theorem waiters_reset (id other : SignalId) :
    (bank.reset id).waiters other = bank.waiters other := by
  unfold waiters reset
  rw [signal_setSignal]
  split
  case isTrue same => rw [same]
  case isFalse => rfl

@[simp]
theorem waiters_attach (id other : SignalId) (waiter : WaiterId) :
    (bank.attach id waiter).waiters other =
      if other = id then bank.waiters id ++ [waiter]
      else bank.waiters other := by
  conv =>
    lhs
    unfold waiters attach
  rw [signal_setSignal]
  split <;> rfl

@[simp]
theorem waiters_detach (id other : SignalId) (waiter : WaiterId) :
    (bank.detach id waiter).waiters other =
      if other = id then (bank.waiters id).filter (· ≠ waiter)
      else bank.waiters other := by
  conv =>
    lhs
    unfold waiters detach
  rw [signal_setSignal]
  split <;> rfl

@[simp]
theorem waiters_clear (id : SignalId) (waiter : WaiterId) :
    (bank.clear waiter).waiters id = bank.waiters id :=
  rfl

theorem isFlagged_flag (waiter other : WaiterId) :
    (bank.flag waiter).isFlagged other =
      (bank.isFlagged other || other == waiter) := by
  unfold flag
  split
  case isTrue flagged =>
      cases same : other == waiter with
      | false => simp
      | true => rw [eq_of_beq same, flagged, Bool.or_true]
  case isFalse =>
      unfold isFlagged
      rw [List.contains_cons, Bool.or_comm]

theorem isFlagged_foldl_flag (waiters : List WaiterId) (other : WaiterId) :
    (waiters.foldl flag bank).isFlagged other =
      (bank.isFlagged other || waiters.contains other) := by
  induction waiters generalizing bank with
  | nil => simp
  | cons waiter rest hypothesis =>
      rw [List.foldl_cons, hypothesis, isFlagged_flag, List.contains_cons,
        Bool.or_assoc]

/-- Setting a signal flags the waiters registered with it and no others. -/
@[simp]
theorem isFlagged_set (id : SignalId) (waiter : WaiterId) :
    (bank.set id).isFlagged waiter =
      (bank.isFlagged waiter || (bank.waiters id).contains waiter) := by
  unfold set
  rw [isFlagged_foldl_flag]
  rfl

@[simp]
theorem isFlagged_reset (id : SignalId) (waiter : WaiterId) :
    (bank.reset id).isFlagged waiter = bank.isFlagged waiter :=
  rfl

@[simp]
theorem isFlagged_attach (id : SignalId) (waiter other : WaiterId) :
    (bank.attach id waiter).isFlagged other = bank.isFlagged other :=
  rfl

@[simp]
theorem isFlagged_detach (id : SignalId) (waiter other : WaiterId) :
    (bank.detach id waiter).isFlagged other = bank.isFlagged other :=
  rfl

theorem isFlagged_clear_of_ne
    {waiter other : WaiterId}
    (foreign : other ≠ waiter) :
    (bank.clear waiter).isFlagged other = bank.isFlagged other := by
  unfold isFlagged clear
  rw [Bool.eq_iff_iff]
  simp [foreign]

@[simp]
theorem isSet_newWaiter (id : SignalId) :
    bank.newWaiter.2.isSet id = bank.isSet id :=
  rfl

/-- A new signal is not set, and the others are what they were. -/
theorem isSet_newSignal (id : SignalId) :
    bank.newSignal.2.isSet id =
      if id = bank.nextSignal then false else bank.isSet id := by
  change ((bank.setSignal bank.nextSignal {}).signal id).isSet = _
  rw [signal_setSignal]
  split <;> rfl

theorem nextSignal_set (id : SignalId) :
    (bank.set id).nextSignal = bank.nextSignal := by
  have kept : ∀ (waiters : List WaiterId) (bank : Bank),
      (waiters.foldl flag bank).nextSignal = bank.nextSignal := by
    intro waiters
    induction waiters with
    | nil => exact fun _ => rfl
    | cons waiter rest hypothesis =>
        intro bank
        rw [List.foldl_cons, hypothesis, flag]
        split <;> rfl
  exact kept _ _

/-! ## Signals that were given out -/

/-- Every signal that was given out has a state. -/
def IsComplete (bank : Bank) : Prop :=
  ∀ id < bank.nextSignal, (bank.signals.get? id).isSome

namespace IsComplete

theorem setSignal
    (complete : bank.IsComplete)
    (id : SignalId)
    (state : State) : (bank.setSignal id state).IsComplete := by
  intro other given
  unfold Bank.setSignal
  rw [Table.get?_insert]
  split
  case isTrue => rfl
  case isFalse => exact complete other given

theorem set (complete : bank.IsComplete) (id : SignalId) :
    (bank.set id).IsComplete := by
  have kept := complete.setSignal id { bank.signal id with isSet := true }
  intro other given
  rw [nextSignal_set] at given
  unfold Bank.set
  rw [signals_foldl_flag]
  exact kept other given

theorem newSignal (complete : bank.IsComplete) :
    bank.newSignal.2.IsComplete := by
  intro id given
  change ((bank.setSignal bank.nextSignal {}).signals.get? id).isSome
  rcases Nat.lt_succ_iff_lt_or_eq.mp given with before | rfl
  · exact complete.setSignal _ _ id before
  · unfold Bank.setSignal
    rw [Table.get?_insert, if_pos rfl]
    rfl

/-- Resetting a signal that is not set changes nothing. -/
theorem reset_eq_self
    (complete : bank.IsComplete)
    {id : SignalId}
    (given : id < bank.nextSignal)
    (unset : bank.isSet id = false) : bank.reset id = bank := by
  obtain ⟨state, found⟩ := Option.isSome_iff_exists.mp (complete id given)
  have shown : bank.signal id = state := by simp [signal, found]
  have same : { bank.signal id with isSet := false } = state := by
    rw [isSet, shown] at unset
    rw [shown, ← unset]
  rw [reset, same, Bank.setSignal, Table.insert_of_present found]

end IsComplete

end Bank

/-- A step of a wait touches the registrations and the flag of its own waiter
only, if it touches anything. -/
theorem Wait.step_cases (wait : Wait) (now : Nanoseconds) (bank : Bank) :
    (wait.step now bank).2 = bank ∨
    (wait.step now bank).2 = bank.clear wait.watch.waiter ∨
    (∃ signal,
      (wait.step now bank).2 = bank.attach signal wait.watch.waiter) ∨
    ∃ signal,
      (wait.step now bank).2 = bank.detach signal wait.watch.waiter := by
  obtain ⟨watch, phase⟩ := wait
  cases phase with
  | clearing => exact .inr (.inl rfl)
  | attaching remaining =>
      cases remaining with
      | nil => exact .inl rfl
      | cons signal rest => exact .inr (.inr (.inl ⟨signal, rfl⟩))
  | reading afterDeadline remaining =>
      cases remaining with
      | nil => cases afterDeadline <;> exact .inl rfl
      | cons reading rest => exact .inl rfl
  | sleeping => exact .inl rfl
  | detaching remaining outcome =>
      cases remaining with
      | cons signal rest => exact .inr (.inr (.inr ⟨signal, rfl⟩))
      | nil =>
          cases outcome with
          | none => exact .inl rfl
          | some wakeup => exact .inr (.inl rfl)
  | finished outcome => exact .inl rfl

/-- A step of a wait sets and resets nothing. -/
theorem Wait.isSet_step
    (wait : Wait)
    (now : Nanoseconds)
    (bank : Bank)
    (id : SignalId) : (wait.step now bank).2.isSet id = bank.isSet id := by
  rcases wait.step_cases now bank with same | same | ⟨_, same⟩ | ⟨_, same⟩ <;>
    simp [same]

/-- A step of a wait takes the state of no signal away. -/
theorem Wait.isComplete_step
    {bank : Bank}
    (complete : bank.IsComplete)
    (wait : Wait)
    (now : Nanoseconds) : (wait.step now bank).2.IsComplete := by
  rcases wait.step_cases now bank with same | same | ⟨_, same⟩ | ⟨_, same⟩ <;>
    rw [same]
  · exact complete
  · exact complete
  · exact complete.setSignal _ _
  · exact complete.setSignal _ _

end Signal
end VirtualAdapter

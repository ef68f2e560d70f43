import VirtualAdapter.Signal.Wait

/-!
# Signals that stay set are heeded

A wait reads the watched signals by their rank: the cancelling one, the
interrupting one, its own.  If one of them stays set the wait neither sleeps
nor runs out of time.  After a few steps of its own it ends, and whatever
others did to the signals meanwhile, it ends with a signal that it found set
after it found those of higher rank unset.
-/

namespace VirtualAdapter
namespace Signal

/-- Some signal with this meaning was set at a time, and each one of higher
rank was unset at a time. -/
def Found (watch : Watch) (banks : List Bank) (outcome : Wakeup) : Prop :=
  ∃ higher signal lower,
    watch.readings = higher ++ (signal, outcome) :: lower ∧
    (∃ bank ∈ banks, bank.isSet signal = true) ∧
    ∀ reading ∈ higher, ∃ bank ∈ banks, bank.isSet reading.1 = false

/-- A wait is on its way to such an end. -/
def Heeding (watch : Watch) (banks : List Bank) : Phase → Prop
  | .clearing | .attaching _ => True
  | .reading false remaining =>
      ∃ higher, watch.readings = higher ++ remaining ∧
        ∀ reading ∈ higher, ∃ bank ∈ banks, bank.isSet reading.1 = false
  | .detaching _ (some outcome) | .finished outcome =>
      Found watch banks outcome
  | _ => False

/-- The steps that such a wait still takes at most. -/
def stepsLeft (watch : Watch) : Phase → Nat
  | .clearing => 2 * watch.signals.length + watch.readings.length + 3
  | .attaching remaining =>
      remaining.length + watch.readings.length + watch.signals.length + 2
  | .reading _ remaining => remaining.length + watch.signals.length + 1
  | .detaching remaining _ => remaining.length + 1
  | .sleeping | .finished _ => 0

variable {watch : Watch} {banks : List Bank} {phase : Phase}

theorem stepsLeft_clearing_le (watch : Watch) :
    stepsLeft watch .clearing ≤ 12 := by
  obtain ⟨own, cancel, interrupt, deadline, waiter⟩ := watch
  cases interrupt <;> exact Nat.le_of_ble_eq_true rfl

/-! ## What an end means -/

/-- Each end but the last stands for the signal of its role. -/
theorem mem_readings_iff {signal : SignalId} {outcome : Wakeup} :
    (signal, outcome) ∈ watch.readings ↔
      match outcome with
      | .cancelled => signal = watch.cancel
      | .interrupted => watch.interrupt = some signal
      | .ready => signal = watch.own
      | .timedOut => False := by
  obtain ⟨own, cancel, interrupt, deadline, waiter⟩ := watch
  cases interrupt <;> cases outcome <;> simp [Watch.readings, eq_comm]

namespace Found

/-- A signal that was found has the meaning of the end, and was set. -/
theorem exists_isSet
    {outcome : Wakeup}
    (found : Found watch banks outcome) :
    ∃ signal, (signal, outcome) ∈ watch.readings ∧
      ∃ bank ∈ banks, bank.isSet signal = true := by
  obtain ⟨higher, signal, lower, equal, isSet, _⟩ := found
  refine ⟨signal, ?_, isSet⟩
  rw [equal]
  exact List.mem_append_right _ List.mem_cons_self

theorem ne_timedOut (found : Found watch banks .timedOut) : False := by
  obtain ⟨signal, watched, _⟩ := found.exists_isSet
  exact mem_readings_iff.mp watched

/-- A wait is cancelled only if the cancelling signal was set. -/
theorem of_cancelled (found : Found watch banks .cancelled) :
    ∃ bank ∈ banks, bank.isSet watch.cancel = true := by
  obtain ⟨signal, watched, isSet⟩ := found.exists_isSet
  obtain rfl : signal = watch.cancel := mem_readings_iff.mp watched
  exact isSet

/-- A wait is interrupted only if the interrupting signal was set. -/
theorem of_interrupted (found : Found watch banks .interrupted) :
    ∃ event, watch.interrupt = some event ∧
      ∃ bank ∈ banks, bank.isSet event = true := by
  obtain ⟨signal, watched, isSet⟩ := found.exists_isSet
  exact ⟨signal, mem_readings_iff.mp watched, isSet⟩

/-- A wait finds its own signal only if that was set, and no interrupting
signal was set all the time. -/
theorem of_ready (found : Found watch banks .ready) :
    (∃ bank ∈ banks, bank.isSet watch.own = true) ∧
      ∀ event, watch.interrupt = some event →
        ∃ bank ∈ banks, bank.isSet event = false := by
  obtain ⟨higher, signal, lower, equal, isSet, unset⟩ := found
  obtain ⟨own, cancel, interrupt, deadline, waiter⟩ := watch
  -- The own signal is the last one that is read.
  have last : higher = (cancel, .cancelled) ::
      interrupt.toList.map (·, Wakeup.interrupted) ∧ signal = own := by
    rcases lower.eq_nil_or_concat with rfl | ⟨front, final, rfl⟩
    · obtain ⟨same, only⟩ := List.append_inj' equal rfl
      exact ⟨same.symm, (Prod.mk.inj (List.singleton_inj.mp only)).1.symm⟩
    · have equal : (cancel, Wakeup.cancelled) ::
          interrupt.toList.map (·, Wakeup.interrupted) ++ [(own, .ready)] =
            (higher ++ (signal, .ready) :: front) ++ [final] := by
        simpa [Watch.readings] using equal
      have member : (signal, Wakeup.ready) ∈ (cancel, Wakeup.cancelled) ::
          interrupt.toList.map (·, Wakeup.interrupted) := by
        rw [(List.append_inj' equal rfl).1]
        exact List.mem_append_right _ List.mem_cons_self
      cases interrupt <;> simp at member
  obtain ⟨rfl, rfl⟩ := last
  refine ⟨isSet, ?_⟩
  rintro event rfl
  exact unset (event, .interrupted) (.tail _ (.head _))

end Found

/-! ## One step -/

/-- A signal that is read is the end of the reading, or was unset. -/
theorem Heeding.afterReading
    {bank : Bank}
    (member : bank ∈ banks)
    {signal : SignalId}
    {meaning : Wakeup}
    {rest : List (SignalId × Wakeup)}
    (heeding : Heeding watch banks (.reading false ((signal, meaning) :: rest))) :
    Heeding watch banks
        (Wait.afterReading watch false (bank.isSet signal) meaning rest) ∧
      stepsLeft watch
          (Wait.afterReading watch false (bank.isSet signal) meaning rest) <
        stepsLeft watch (.reading false ((signal, meaning) :: rest)) := by
  obtain ⟨higher, equal, unset⟩ := heeding
  unfold Wait.afterReading
  split
  case isTrue isSet =>
    refine ⟨⟨higher, signal, rest, equal, ⟨bank, member, isSet⟩, unset⟩, ?_⟩
    simp only [stepsLeft, List.length_cons]
    omega
  case isFalse unread =>
    refine ⟨⟨higher ++ [(signal, meaning)], ?_, ?_⟩, ?_⟩
    · rw [equal, List.append_assoc, List.singleton_append]
    · intro other known
      rcases List.mem_append.mp known with before | this
      · exact unset other before
      · obtain rfl := List.mem_singleton.mp this
        exact ⟨bank, member, Bool.eq_false_iff.mpr unread⟩
    · simp only [stepsLeft, List.length_cons]
      omega

/-- While a watched signal stays set, a wait comes nearer to its end by every
step. -/
theorem Heeding.advance
    (stays : ∃ reading ∈ watch.readings,
      ∀ bank ∈ banks, bank.isSet reading.1 = true)
    (heeding : Heeding watch banks phase)
    (going : ∀ outcome, phase ≠ .finished outcome)
    {bank : Bank}
    (member : bank ∈ banks)
    (now : Nanoseconds) :
    Heeding watch banks (Wait.advance watch now bank phase).1 ∧
      stepsLeft watch (Wait.advance watch now bank phase).1 <
        stepsLeft watch phase := by
  cases phase with
  | clearing => exact ⟨trivial, by simp only [Wait.advance, stepsLeft]; omega⟩
  | attaching remaining =>
      cases remaining with
      | nil =>
          exact ⟨⟨[], rfl, fun _ absent => nomatch absent⟩,
            by simp only [Wait.advance, stepsLeft, List.length_nil]; omega⟩
      | cons signal rest =>
          exact ⟨trivial,
            by simp only [Wait.advance, stepsLeft, List.length_cons]; omega⟩
  | reading afterDeadline remaining =>
      cases afterDeadline with
      | true => exact heeding.elim
      | false =>
          obtain ⟨higher, equal, unset⟩ := heeding
          cases remaining with
          | nil =>
              -- The signal that stays set would have been found unset.
              obtain ⟨reading, watched, isSet⟩ := stays
              rw [equal, List.append_nil] at watched
              obtain ⟨other, known, was⟩ := unset reading watched
              cases (isSet other known).symm.trans was
          | cons reading rest =>
              exact Heeding.afterReading member ⟨higher, equal, unset⟩
  | sleeping => exact heeding.elim
  | detaching remaining outcome =>
      cases outcome with
      | none => cases remaining <;> exact heeding.elim
      | some outcome =>
          cases remaining with
          | nil => exact ⟨heeding, Nat.zero_lt_one⟩
          | cons signal rest =>
              exact ⟨heeding,
                by simp only [Wait.advance, stepsLeft, List.length_cons]; omega⟩
  | finished outcome => exact absurd rfl (going outcome)

/-! ## Every end has a cause -/

/-- An end has a cause: the time was over, or a watched signal with this meaning
was set at a time. -/
def Caused (watch : Watch) (banks : List Bank) (outcome : Wakeup) : Prop :=
  outcome = .timedOut ∨
    ∃ signal, (signal, outcome) ∈ watch.readings ∧
      ∃ bank ∈ banks, bank.isSet signal = true

/-- A wait reads only what it watches, and its end has a cause as soon as it is
known. -/
def Accounting (watch : Watch) (banks : List Bank) : Phase → Prop
  | .reading _ remaining => ∀ reading ∈ remaining, reading ∈ watch.readings
  | .detaching _ (some outcome) | .finished outcome =>
      Caused watch banks outcome
  | _ => True

namespace Accounting

/-- What was the cause of an end stays it. -/
theorem mono
    {more : List Bank}
    (accounting : Accounting watch banks phase)
    (subset : banks ⊆ more) : Accounting watch more phase := by
  have caused {outcome : Wakeup} (known : Caused watch banks outcome) :
      Caused watch more outcome :=
    known.imp_right fun ⟨signal, watched, bank, member, isSet⟩ =>
      ⟨signal, watched, bank, subset member, isSet⟩
  cases phase with
  | finished outcome => exact caused accounting
  | detaching remaining outcome =>
      cases outcome with
      | none => trivial
      | some outcome => exact caused accounting
  | _ => exact accounting

/-- No step of a wait makes up an end. -/
theorem advance
    (accounting : Accounting watch banks phase)
    {bank : Bank}
    (member : bank ∈ banks)
    (now : Nanoseconds) :
    Accounting watch banks (Wait.advance watch now bank phase).1 := by
  cases phase with
  | clearing => trivial
  | attaching remaining =>
      cases remaining with
      | nil => exact fun _ watched => watched
      | cons => trivial
  | reading afterDeadline remaining =>
      cases remaining with
      | nil =>
          cases afterDeadline with
          | true => exact .inl rfl
          | false => trivial
      | cons reading rest =>
          obtain ⟨watched, others⟩ := List.forall_mem_cons.mp accounting
          change Accounting watch banks
            (Wait.afterReading watch afterDeadline (bank.isSet reading.1) reading.2
              rest)
          unfold Wait.afterReading
          split
          case isTrue isSet =>
            exact .inr ⟨reading.1, watched, bank, member, isSet⟩
          case isFalse => exact others
  | sleeping =>
      change Accounting watch banks (Wait.wake watch now bank)
      unfold Wait.wake
      split
      · trivial
      · split
        · exact fun _ watched => watched
        · trivial
  | detaching remaining outcome =>
      cases outcome with
      | none => cases remaining <;> trivial
      | some outcome => cases remaining <;> exact accounting
  | finished outcome => exact accounting

end Accounting

end Signal
end VirtualAdapter

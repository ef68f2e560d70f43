import VirtualAdapter.Signal.Bank

/-!
# Waiting for signals

A wait watches its own signal, a cancelling one and possibly an interrupting
one.  Each round clears the waiter's flag, registers the waiter with every
watched signal, reads the signals, sleeps if none was set, and takes the
registrations back.  Registering comes before reading, so a signal set before
the reading is seen there and one set after it flags the waiter.  A waiter is
forgotten with its wait.
-/

namespace VirtualAdapter
namespace Signal

/-- A moment or a span of time in nanoseconds. -/
abbrev Nanoseconds := Nat

/-- The nanoseconds of a millisecond. -/
def nanosecondsPerMillisecond : Nat := 1000000

/-- The last moment that the clock can name: it counts seconds in signed numbers
of 64 bits, and their nanoseconds. -/
def lastMoment : Nanoseconds := 9223372036854775808 * 1000000000 - 1

/-- The clock can name the deadline, if there is one. -/
def isNameable (deadline : Option Nanoseconds) : Bool :=
  deadline.all (· ≤ lastMoment)

@[simp]
theorem isNameable_none : isNameable none = true := rfl

/-- How a wait ends. -/
inductive Wakeup
  /-- The waiter's own signal was set. -/
  | ready
  /-- The cancelling signal was set. -/
  | cancelled
  /-- The interrupting signal was set. -/
  | interrupted
  /-- The time allowed was over. -/
  | timedOut
  deriving DecidableEq

/-- The name of an end. -/
def Wakeup.text : Wakeup → String
  | ready => "Ready"
  | cancelled => "Cancelled"
  | interrupted => "Interrupted"
  | timedOut => "TimedOut"

/-- What a wait watches, and until when. -/
structure Watch where
  /-- The waiter's own signal. -/
  own : SignalId
  /-- The signal that cancels the wait. -/
  cancel : SignalId
  /-- The signal that interrupts the wait, if there is one. -/
  interrupt : Option SignalId
  /-- The moment at which the wait is given up, if there is one. -/
  deadline : Option Nanoseconds
  /-- The waiter of this wait. -/
  waiter : WaiterId

namespace Watch

/-- The watched signals in the order of registration. -/
def signals (watch : Watch) : List SignalId :=
  [watch.own, watch.cancel] ++ watch.interrupt.toList

/-- The watched signals in the order of reading, with what each one means. -/
def readings (watch : Watch) : List (SignalId × Wakeup) :=
  [(watch.cancel, .cancelled)] ++
    watch.interrupt.toList.map (·, .interrupted) ++ [(watch.own, .ready)]

/-- The deadline has come. -/
def isOver (watch : Watch) (now : Nanoseconds) : Bool :=
  match watch.deadline with
  | none => false
  | some deadline => deadline ≤ now

end Watch

/-- Where a wait is in its round. -/
inductive Phase
  /-- The flag is about to be cleared. -/
  | clearing
  /-- Registrations are left to be made. -/
  | attaching (remaining : List SignalId)
  /-- Signals are left to be read, before the sleep or after the deadline. -/
  | reading (afterDeadline : Bool) (remaining : List (SignalId × Wakeup))
  /-- The waiter sleeps. -/
  | sleeping
  /-- Registrations are left to be taken back, for another round or for good. -/
  | detaching (remaining : List SignalId) (outcome : Option Wakeup)
  /-- The wait is over. -/
  | finished (outcome : Wakeup)

/-- A wait on its way. -/
structure Wait where
  /-- What it watches. -/
  watch : Watch
  /-- Where it is. -/
  phase : Phase

namespace Wait

/-- A wait at its start, with a waiter of its own. -/
def start
    (bank : Bank)
    (own cancel : SignalId)
    (interrupt : Option SignalId)
    (deadline : Option Nanoseconds) : Wait × Bank :=
  let (waiter, bank) := bank.newWaiter
  (⟨⟨own, cancel, interrupt, deadline, waiter⟩, .clearing⟩, bank)

/-- A call that waits, limited in time or not.  It finds its deadline before
anything else, and breaks off if the clock cannot name it. -/
def startWithin
    (bank : Bank)
    (own cancel : SignalId)
    (interrupt : Option SignalId)
    (timeout : Option Nanoseconds)
    (now : Nanoseconds) : Option (Wait × Bank) :=
  let deadline := timeout.map (now + ·)
  if isNameable deadline then some (start bank own cancel interrupt deadline)
  else none

theorem startWithin_of_nameable
    {timeout : Option Nanoseconds}
    {now : Nanoseconds}
    (nameable : isNameable (timeout.map (now + ·)) = true)
    (bank : Bank)
    (own cancel : SignalId)
    (interrupt : Option SignalId) :
    startWithin bank own cancel interrupt timeout now =
      some (start bank own cancel interrupt (timeout.map (now + ·))) :=
  if_pos nameable

theorem startWithin_of_unnameable
    {timeout : Option Nanoseconds}
    {now : Nanoseconds}
    (unnameable : isNameable (timeout.map (now + ·)) = false)
    (bank : Bank)
    (own cancel : SignalId)
    (interrupt : Option SignalId) :
    startWithin bank own cancel interrupt timeout now = none :=
  if_neg (Bool.eq_false_iff.mp unnameable)

/-- Sleep on, unless the waiter was flagged or the deadline has come. -/
def wake (watch : Watch) (now : Nanoseconds) (bank : Bank) : Phase :=
  if bank.isFlagged watch.waiter then .detaching watch.signals none
  else if watch.isOver now then .reading true watch.readings
  else .sleeping

/-- The next phase after one reading. -/
def afterReading
    (watch : Watch)
    (afterDeadline : Bool)
    (isSet : Bool)
    (meaning : Wakeup)
    (rest : List (SignalId × Wakeup)) : Phase :=
  if isSet then .detaching watch.signals (some meaning)
  else .reading afterDeadline rest

/-- The phase after one atomic step, and the signals after it. -/
def advance
    (watch : Watch)
    (now : Nanoseconds)
    (bank : Bank) : Phase → Phase × Bank
  | .clearing => (.attaching watch.signals, bank.clear watch.waiter)
  | .attaching [] => (.reading false watch.readings, bank)
  | .attaching (signal :: rest) =>
      (.attaching rest, bank.attach signal watch.waiter)
  | .reading afterDeadline ((signal, meaning) :: rest) =>
      (afterReading watch afterDeadline (bank.isSet signal) meaning rest, bank)
  | .reading false [] => (.sleeping, bank)
  | .reading true [] => (.detaching watch.signals (some .timedOut), bank)
  | .sleeping => (wake watch now bank, bank)
  | .detaching (signal :: rest) outcome =>
      (.detaching rest outcome, bank.detach signal watch.waiter)
  | .detaching [] none => (.clearing, bank)
  | .detaching [] (some outcome) =>
      (.finished outcome, bank.clear watch.waiter)
  | .finished outcome => (.finished outcome, bank)

/-- One atomic step of a wait. -/
def step (wait : Wait) (now : Nanoseconds) (bank : Bank) : Wait × Bank :=
  let (phase, bank) := advance wait.watch now bank wait.phase
  ({ wait with phase }, bank)

/-- The wait sleeps and no step changes that before a signal is set or its
deadline comes. -/
def isAsleep (wait : Wait) (now : Nanoseconds) (bank : Bank) : Bool :=
  match wait.phase with
  | .sleeping =>
      !bank.isFlagged wait.watch.waiter && !wait.watch.isOver now
  | _ => false

/-- How the wait ended, if it did. -/
def outcome? (wait : Wait) : Option Wakeup :=
  match wait.phase with
  | .finished outcome => some outcome
  | _ => none

/-- More steps than a wait takes alone before it sleeps or ends: a round has
at most three registrations, four readings and three registrations back, and a
second one follows only on a flag that the second one clears. -/
def settlingSteps : Nat := 48

/-- Take steps until the wait sleeps or is over. -/
def settle
    (now : Nanoseconds) : (limit : Nat) → Wait → Bank → Wait × Bank
  | 0, wait, bank => (wait, bank)
  | limit + 1, wait, bank =>
      if wait.isAsleep now bank || wait.outcome?.isSome then (wait, bank)
      else
        let (next, bank) := wait.step now bank
        settle now limit next bank

end Wait
end Signal
end VirtualAdapter

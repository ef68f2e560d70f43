import VirtualAdapter.Table
import VirtualAdapter.Text.Quoted

/-!
# Signals

A signal is set until it is reset.  Waiters register with the signals that
they watch, and setting a signal flags every waiter registered with it.  Each
operation here is one atomic step.
-/

namespace VirtualAdapter
namespace Signal

/-- The name of a signal. -/
abbrev SignalId := Nat

/-- The name of a waiter. -/
abbrev WaiterId := Nat

/-- One signal. -/
structure State where
  /-- The signal is set. -/
  isSet : Bool := false
  /-- The registrations, one waiter possibly several times. -/
  waiters : List WaiterId := []

/-- All signals with the flags of all waiters. -/
structure Bank where
  /-- The signals that were touched; all others are unset and unwatched. -/
  signals : Table SignalId State := ∅
  /-- The waiters that are flagged. -/
  flagged : List WaiterId := []
  /-- The next signal to be given out. -/
  nextSignal : SignalId := 0
  /-- The next waiter to be given out. -/
  nextWaiter : WaiterId := 0

namespace Bank

/-- The state of a signal. -/
def signal (bank : Bank) (id : SignalId) : State :=
  (bank.signals.get? id).getD {}

/-- Put a signal in another state. -/
def setSignal (bank : Bank) (id : SignalId) (state : State) : Bank :=
  { bank with signals := bank.signals.insert id state }

/-- The signal is set. -/
def isSet (bank : Bank) (id : SignalId) : Bool := (bank.signal id).isSet

/-- The waiters registered with a signal. -/
def waiters (bank : Bank) (id : SignalId) : List WaiterId :=
  (bank.signal id).waiters

/-- The number of registrations with a signal. -/
def waiterCount (bank : Bank) (id : SignalId) : Nat :=
  (bank.waiters id).length

/-- The waiter was flagged since its flag was last cleared. -/
def isFlagged (bank : Bank) (waiter : WaiterId) : Bool :=
  bank.flagged.contains waiter

/-- Flag a waiter. -/
def flag (bank : Bank) (waiter : WaiterId) : Bank :=
  if bank.isFlagged waiter then bank
  else { bank with flagged := waiter :: bank.flagged }

/-- Clear the flag of a waiter. -/
def clear (bank : Bank) (waiter : WaiterId) : Bank :=
  { bank with flagged := bank.flagged.filter (· ≠ waiter) }

/-- Set a signal and flag every waiter registered with it. -/
def set (bank : Bank) (id : SignalId) : Bank :=
  (bank.waiters id).foldl flag
    (bank.setSignal id { bank.signal id with isSet := true })

/-- Reset a signal. -/
def reset (bank : Bank) (id : SignalId) : Bank :=
  bank.setSignal id { bank.signal id with isSet := false }

/-- Register a waiter with a signal once more. -/
def attach (bank : Bank) (id : SignalId) (waiter : WaiterId) : Bank :=
  bank.setSignal id
    { bank.signal id with waiters := bank.waiters id ++ [waiter] }

/-- Drop every registration of a waiter with a signal. -/
def detach (bank : Bank) (id : SignalId) (waiter : WaiterId) : Bank :=
  bank.setSignal id
    { bank.signal id with waiters := (bank.waiters id).filter (· ≠ waiter) }

/-- Give out a signal that is not set. -/
def newSignal (bank : Bank) : SignalId × Bank :=
  (bank.nextSignal,
    { bank.setSignal bank.nextSignal {} with
      nextSignal := bank.nextSignal + 1 })

/-- Give out a waiter that is not flagged. -/
def newWaiter (bank : Bank) : WaiterId × Bank :=
  (bank.nextWaiter, { bank with nextWaiter := bank.nextWaiter + 1 })

/-- The description of a signal. -/
def text (bank : Bank) (id : SignalId) : String :=
  Text.describeFields "Signal"
    [("set", Text.truth (bank.isSet id)),
      ("waiters", toString (bank.waiterCount id))]

end Bank
end Signal
end VirtualAdapter

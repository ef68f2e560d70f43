import VirtualAdapter.Error
import VirtualAdapter.Signal.Wait

/-!
# A bench for signals

A number of fresh signals, waits of the caller on them, and waits of other
threads that are woken once all of them sleep.
-/

namespace VirtualAdapter
namespace Bench

open Signal

/-- A wait as a command describes it. -/
structure WaitRequest where
  /-- The waiter's own signal. -/
  own : SignalId
  /-- The cancelling signal. -/
  cancel : SignalId
  /-- The interrupting signal, if there is one. -/
  interrupt : Option SignalId := none
  /-- The time allowed, if it is limited. -/
  timeout : Option Nanoseconds := none

/-- What can be asked of the signals. -/
inductive SignalCommand
  | set (signal : SignalId)
  | reset (signal : SignalId)
  | wait (signal : SignalId) (timeout : Option Nanoseconds)
  | waitFor (request : WaitRequest)
  | parked (threads : Nat) (request : WaitRequest) (wake : Option SignalId)
  | describe (signal : SignalId)
  | unknown (name : String)

/-- What the signals answer. -/
inductive SignalAnswer
  | done
  | flag (value : Bool)
  | woken (outcome : Wakeup)
  | text (text : String)
  | parked (waiters : Option (List Nat)) (outcomes : List Wakeup)
  | stuck
  | brokenOff (failure : Failure)
  | unbound (name : String)

/-- The signals and the time. -/
structure SignalBench where
  /-- The number of signals of the bench. -/
  size : Nat
  /-- All signals. -/
  bank : Bank
  /-- The present moment. -/
  clock : Nanoseconds := 0

namespace SignalBench

/-- A bench with signals that are not set. -/
def ofSize (size : Nat) : SignalBench where
  size
  bank := { nextSignal := size }

/-- Set and number of registrations of every signal. -/
def view (bench : SignalBench) : List (Bool × Nat) :=
  (List.range bench.size).map fun signal =>
    (bench.bank.isSet signal, bench.bank.waiterCount signal)

/-- Start a wait and take it to its sleep or its end. -/
def beginWait
    (bench : SignalBench)
    (request : WaitRequest) : Except Failure Wait × SignalBench :=
  match Wait.startWithin bench.bank request.own request.cancel
      request.interrupt request.timeout bench.clock with
  | none => (.error .beyondClock, bench)
  | some (wait, bank) =>
      let (wait, bank) := wait.settle bench.clock Wait.settlingSteps bank
      (.ok wait, { bench with bank })

/-- Take a wait to its end, letting time pass to its deadline if it sleeps. -/
def endWait
    (bench : SignalBench)
    (wait : Wait) : Option Wakeup × SignalBench :=
  let (wait, bank) := wait.settle bench.clock Wait.settlingSteps bench.bank
  match wait.outcome? with
  | some outcome => (some outcome, { bench with bank })
  | none =>
      match wait.watch.deadline with
      | none => (none, { bench with bank })
      | some deadline =>
          let clock := max bench.clock deadline
          let (wait, bank) := wait.settle clock Wait.settlingSteps bank
          (wait.outcome?, { bench with bank, clock })

/-- Start a wait, take it to its end, and answer with its outcome. -/
def wait
    (bench : SignalBench)
    (request : WaitRequest)
    (answer : Wakeup → SignalAnswer) : SignalAnswer × SignalBench :=
  match bench.beginWait request with
  | (.error failure, bench) => (.brokenOff failure, bench)
  | (.ok wait, bench) =>
      match bench.endWait wait with
      | (none, bench) => (.stuck, bench)
      | (some outcome, bench) => (answer outcome, bench)

/-- Start the same wait on several threads; one that breaks off is gone. -/
def beginWaits
    (bench : SignalBench)
    (request : WaitRequest) : (threads : Nat) → List Wait × SignalBench
  | 0 => ([], bench)
  | threads + 1 =>
      let (wait, bench) := bench.beginWait request
      let (waits, bench) := bench.beginWaits request threads
      (wait.toOption.toList ++ waits, bench)

/-- Take the waits of several threads to their ends. -/
def endWaits
    (bench : SignalBench) : List Wait → List Wakeup × SignalBench
  | [] => ([], bench)
  | wait :: waits =>
      let (outcome, bench) := bench.endWait wait
      let (outcomes, bench) := bench.endWaits waits
      (outcome.toList ++ outcomes, bench)

/-- One of the watched signals is set. -/
def isReady (bench : SignalBench) (request : WaitRequest) : Bool :=
  ([request.own, request.cancel] ++ request.interrupt.toList).any
    bench.bank.isSet

/-- Let threads sleep in the same wait, set a signal, and collect how they
were woken.  The registrations while they sleep are shown unless one of the
watched signals was set from the start. -/
def park
    (bench : SignalBench)
    (threads : Nat)
    (request : WaitRequest)
    (wake : Option SignalId) : SignalAnswer × SignalBench :=
  let ready := bench.isReady request
  let (waits, bench) := bench.beginWaits request threads
  let counts := bench.view.map (·.2)
  let bench :=
    match wake with
    | none => bench
    | some signal => { bench with bank := bench.bank.set signal }
  let (outcomes, bench) := bench.endWaits waits
  (.parked (if ready then none else some counts) outcomes, bench)

/-- The signals that a command names. -/
def named : SignalCommand → List SignalId
  | .set signal | .reset signal | .describe signal | .wait signal _ => [signal]
  | .waitFor request =>
      [request.own, request.cancel] ++ request.interrupt.toList
  | .parked _ request wake =>
      [request.own, request.cancel] ++ request.interrupt.toList ++ wake.toList
  | .unknown _ => []

/-- Carry out one command whose signals are all there. -/
def perform
    (bench : SignalBench) : SignalCommand → SignalAnswer × SignalBench
  | .set signal => (.done, { bench with bank := bench.bank.set signal })
  | .reset signal => (.done, { bench with bank := bench.bank.reset signal })
  | .wait signal timeout =>
      let (never, bank) := bench.bank.newSignal
      { bench with bank }.wait { own := signal, cancel := never, timeout }
        fun outcome => .flag (outcome = Wakeup.ready)
  | .waitFor request => bench.wait request .woken
  | .parked threads request wake => bench.park threads request wake
  | .describe signal => (.text (bench.bank.text signal), bench)
  | .unknown name => (.unbound name, bench)

/-- Carry out one command. -/
def run
    (bench : SignalBench)
    (command : SignalCommand) : SignalAnswer × SignalBench :=
  match (named command).find? (bench.size ≤ ·) with
  | some missing => (.unbound (toString missing), bench)
  | none => bench.perform command

end SignalBench
end Bench
end VirtualAdapter

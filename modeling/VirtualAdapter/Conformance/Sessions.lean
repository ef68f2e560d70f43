import VirtualAdapter.Conformance.Scenario

/-!
# Scenarios for every driver

These scenarios need no network side.
-/

namespace VirtualAdapter
namespace Conformance

open Host
open Scenario
open Signal (Nanoseconds)

variable {State : Type} [Driver State]

/-- Look for a packet a number of times, each time in vain. -/
def lookInVain (session : SessionId) : (count : Nat) → Scenario State Unit
  | 0 => return ()
  | count + 1 => do
      expectRefusal "try_receive" (← act (Host.tryReceive session))
        (· = .wouldBlock)
      lookInVain session count

/-- Looking for a packet in an empty ring is refused at once. -/
def emptyReceiveWouldBlock (capacity : UInt32) : Scenario State Unit := do
  let manager ← quietManager
  let adapter ← adapter manager (adapterName "empty")
  let session ← require (startSmall capacity adapter)
  let start ← act now
  lookInVain session 100
  check ((← act now) - start < milliseconds 1000) "try_receive blocked"

/-- A receiver with a limited time gives up, and not before. -/
def receiveTimeout (capacity : UInt32) : Scenario State Unit := do
  let manager ← quietManager
  let adapter ← adapter manager (adapterName "timeout")
  let session ← require (startSmall capacity adapter)
  let start ← act now
  let outcome ← receiveNow session none (some (milliseconds 50))
  expectRefusal "receive" outcome (· = .timedOut)
  check (milliseconds 50 ≤ (← act now) - start) "returned before timeout"

/-- The shutdown wakes a sleeping receiver, which gets no packet. -/
def shutdownUnblocksWaiter (capacity : UInt32) : Scenario State Unit := do
  let manager ← quietManager
  let adapter ← adapter manager (adapterName "shutdown")
  let session ← require (startSmall capacity adapter)
  let waiter ← receiveElsewhere session none none
  rest (milliseconds 20)
  require (Host.shutdown session)
  expectRefusal "blocked receive" (← join waiter) (·.isTerminal)

/-- Only one session runs on an adapter. -/
def secondSessionRejected (capacity : UInt32) : Scenario State Unit := do
  let manager ← quietManager
  let adapter ← adapter manager (adapterName "second")
  let session ← require (startSmall capacity adapter)
  expectRefusal "second start" (← act (startSmall capacity adapter))
    isContractViolation
  require (Host.endSession session)
  let _ ← require (startSmall capacity adapter)

/-- A second handle cannot start a session while one runs on the first. -/
def secondHandleSessionRejected (capacity : UInt32) : Scenario State Unit := do
  let manager ← quietManager
  let name := adapterName "handles"
  let first ← adapter manager name
  let second ← require (Host.openAdapter manager name)
  let session ← require (startSmall capacity first)
  expectRefusal "start on second handle" (← act (startSmall capacity second))
    isContractViolation
  require (Host.endSession session)
  let _ ← require (startSmall capacity second)

/-- An interrupt ends one receiver and leaves the session as it is. -/
def receiveInterruptible (capacity : UInt32) : Scenario State Unit := do
  let manager ← quietManager
  let adapter ← adapter manager (adapterName "interrupt")
  let session ← require (startSmall capacity adapter)
  let interrupt ← require (ask Driver.newEvent)
  let waiter ← receiveElsewhere session (some interrupt)
    (some (milliseconds 5000))
  rest (milliseconds 20)
  beside waiter session (require (ask (Driver.setEvent interrupt)))
  expectRefusal "interrupted receive" (← join waiter) (· = .interrupted)
  match ← act (session? session) with
  | none => throw (.assertion "interrupt ended the session")
  | some entry =>
      check (!(← act (isShutDown entry))) "interrupt ended the session"
  require (ask (Driver.resetEvent interrupt))
  expectRefusal "try_receive after interrupt" (← act (Host.tryReceive session))
    (· = .wouldBlock)
  let outcome ← receiveNow session (some interrupt) (some (milliseconds 20))
  expectRefusal "receive after reset" outcome (· = .timedOut)

/-- Closing an adapter under its session is reported, and the driver gets it
back only after the session. -/
def closeDeferredWhileSessionActive (capacity : UInt32) :
    Scenario State Unit := do
  let manager ← quietManager
  let adapter ← adapter manager (adapterName "deferred")
  let session ← require (startSmall capacity adapter)
  expectRefusal "close" (← act (Host.closeAdapter adapter)) isContractViolation
  check ((← openAdapters manager) == 1) "adapter closed under a running session"
  require (Host.endSession session)
  check ((← openAdapters manager) == 0) "adapter not closed after session end"

/-- The driver is not removed while a session runs. -/
def deleteDriverRejectedWithSession (capacity : UInt32) :
    Scenario State Unit := do
  let manager ← quietManager
  let adapter ← adapter manager (adapterName "delete")
  let _ ← require (startSmall capacity adapter)
  expectRefusal "delete_driver" (← act (Host.deleteDriver manager))
    isContractViolation
  let _ ← require Host.driverVersion

/-- The numbers of records that two receivers got. -/
structure RecordCounts where
  /-- By the receiver with the first tag. -/
  first : Nat := 0
  /-- By the receiver with the second tag. -/
  second : Nat := 0

/-- The tag of the first receiver. -/
def firstTag : String := "first"

/-- The tag of the second receiver. -/
def secondTag : String := "second"

/-- Count the records among notes. -/
def RecordCounts.add (counts : RecordCounts) (notes : List Note) : RecordCounts :=
  let records := Note.records notes
  { first := counts.first + records.countP fun entry => entry.tag = firstTag
    second := counts.second + records.countP fun entry => entry.tag = secondTag }

/-- Create an adapter, let go of it, and count the records. -/
def createAndCount
    (manager : ManagerId)
    (name : String)
    (counts : RecordCounts) : Scenario State RecordCounts := do
  let (outcome, created) ← act (Host.createAdapter manager { name }).listen
  let adapter ← required outcome
  let ((), dropped) ← act (Host.dropAdapter adapter).listen
  return (counts.add created).add dropped

/-- A new choice for the records replaces the one before. -/
def loggerReplacement : Scenario State Unit := do
  let manager ← require (Host.newManager { logger := .custom firstTag })
  let before ← createAndCount manager (adapterName "log-a") {}
  check (0 < before.first) "first logger got no records"
  require (Host.setLogger (.custom secondTag))
  let after ← createAndCount manager (adapterName "log-b") before
  check (after.first == before.first) "replaced logger still called"
  check (0 < after.second) "new logger got no records"
  require (Host.setLogger .disabled)

end Conformance
end VirtualAdapter

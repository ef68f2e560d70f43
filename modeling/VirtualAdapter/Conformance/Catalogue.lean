import VirtualAdapter.Conformance.Sessions
import VirtualAdapter.Conformance.Traffic

/-!
# All scenarios

Every scenario has a name and runs on a fresh driver.
-/

namespace VirtualAdapter
namespace Conformance

open Memory (MemoryDriver)

/-- The scenarios. -/
inductive ScenarioName
  | emptyReceiveWouldBlock
  | receiveTimeout
  | shutdownUnblocksWaiter
  | secondSessionRejected
  | secondHandleSessionRejected
  | receiveInterruptible
  | closeDeferredWhileSessionActive
  | deleteDriverRejectedWithSession
  | loggerReplacement
  | sendInterruptible
  | loopbackRoundTrip
  | sendRingExhaustion
  | packetsReleasedExactlyOnce
  | readerDrainsRing
  | driverEofIsTerminal
  deriving DecidableEq

namespace ScenarioName

/-- The name by which a scenario is asked for. -/
def text : ScenarioName → String
  | emptyReceiveWouldBlock => "empty_receive_would_block"
  | receiveTimeout => "receive_timeout"
  | shutdownUnblocksWaiter => "shutdown_unblocks_waiter"
  | secondSessionRejected => "second_session_rejected"
  | secondHandleSessionRejected => "second_handle_session_rejected"
  | receiveInterruptible => "receive_interruptible"
  | closeDeferredWhileSessionActive => "close_deferred_while_session_active"
  | deleteDriverRejectedWithSession => "delete_driver_rejected_with_session"
  | loggerReplacement => "logger_replacement"
  | sendInterruptible => "send_interruptible"
  | loopbackRoundTrip => "loopback_round_trip"
  | sendRingExhaustion => "send_ring_exhaustion"
  | packetsReleasedExactlyOnce => "packets_released_exactly_once"
  | readerDrainsRing => "reader_drains_ring"
  | driverEofIsTerminal => "driver_eof_is_terminal"

/-- Every scenario. -/
def all : List ScenarioName :=
  [emptyReceiveWouldBlock, receiveTimeout, shutdownUnblocksWaiter,
    secondSessionRejected, secondHandleSessionRejected, receiveInterruptible,
    closeDeferredWhileSessionActive, deleteDriverRejectedWithSession,
    loggerReplacement, sendInterruptible, loopbackRoundTrip,
    sendRingExhaustion, packetsReleasedExactlyOnce, readerDrainsRing,
    driverEofIsTerminal]

/-- The scenario of a name. -/
def ofText? (text : String) : Option ScenarioName :=
  all.find? fun name => name.text == text

variable {State : Type} [Driver State] [Loopback State]

/-- What a scenario does, given the capacity of its rings; most have nothing
to answer. -/
def body (capacity : UInt32) : ScenarioName → Scenario State (Option Nat)
  | emptyReceiveWouldBlock => quiet (Conformance.emptyReceiveWouldBlock capacity)
  | receiveTimeout => quiet (Conformance.receiveTimeout capacity)
  | shutdownUnblocksWaiter => quiet (Conformance.shutdownUnblocksWaiter capacity)
  | secondSessionRejected => quiet (Conformance.secondSessionRejected capacity)
  | secondHandleSessionRejected =>
      quiet (Conformance.secondHandleSessionRejected capacity)
  | receiveInterruptible => quiet (Conformance.receiveInterruptible capacity)
  | closeDeferredWhileSessionActive =>
      quiet (Conformance.closeDeferredWhileSessionActive capacity)
  | deleteDriverRejectedWithSession =>
      quiet (Conformance.deleteDriverRejectedWithSession capacity)
  | loggerReplacement => quiet Conformance.loggerReplacement
  | sendInterruptible => quiet (Conformance.sendInterruptible capacity)
  | loopbackRoundTrip => quiet (Conformance.loopbackRoundTrip capacity)
  | sendRingExhaustion => some <$> Conformance.sendRingExhaustion capacity
  | packetsReleasedExactlyOnce =>
      quiet (Conformance.packetsReleasedExactlyOnce capacity)
  | readerDrainsRing => quiet (Conformance.readerDrainsRing capacity)
  | driverEofIsTerminal => quiet (Conformance.driverEofIsTerminal capacity)
where
  /-- A scenario without an answer. -/
  quiet (scenario : Scenario State Unit) : Scenario State (Option Nat) := do
    scenario
    return none

/-- Run a scenario on a fresh driver. -/
def run (name : ScenarioName) (factory : Factory State) :
    Except ScenarioFailure (Option Nat) := do
  let driver ← factory.make
  ((name.body factory.smallCapacity).thenLeave.run { driver }).value

/-- The message of a scenario that failed; a call that broke off leaves its
own. -/
def failureMessage (name : ScenarioName) : ScenarioFailure → String
  | .crashed message => message
  | failure => s!"run_{name.text} failed: {failure.text}"

end ScenarioName

/-- Drivers in memory with faults. -/
def faultyFactory (faults : List (Method × Fault)) :
    Factory (Faulty MemoryDriver) where
  make :=
    let driver : Faulty MemoryDriver :=
      { driver := {}
        faults := faults.foldl (fun table entry => table.insert entry.1 entry.2) ∅ }
    let setUp := Faulty.failureOf .setUp driver
    match setUp.value with
    | some (.refused error) => .error (.setUp error.message)
    | some (.crashed message) => .error (.crashed message)
    | none =>
        let made := Faulty.failureOf .make setUp.state
        match made.value with
        | some failure => .error (.ofFailure failure)
        | none => .ok made.state
  smallCapacity := CapacityBounds.inMemory.min

end Conformance
end VirtualAdapter

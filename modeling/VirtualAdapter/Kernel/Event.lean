import VirtualAdapter.Error
import VirtualAdapter.Kernel.Machine
import VirtualAdapter.Signal.Wait
import VirtualAdapter.Text.Quoted

/-!
# Events of the system

An event that was made here is closed when it is dropped; the event of a
session belongs to the driver and is only borrowed.  A wait names the
cancelling event first, then the interrupting one and the waiter's own last,
because the first one that is set is reported.
-/

namespace VirtualAdapter
namespace Kernel

open Signal (Nanoseconds Wakeup nanosecondsPerMillisecond)

/-- An event. -/
structure SystemEvent where
  /-- The handle. -/
  handle : Handle
  /-- It was made here. -/
  isOwned : Bool
  deriving DecidableEq

namespace SystemEvent

/-- The description of an event. -/
def text (event : SystemEvent) : String :=
  Text.describeFields "WinEvent"
    [("handle", toString event.handle), ("owned", Text.truth event.isOwned)]

end SystemEvent

/-- The milliseconds of a wait: whole ones, at most one less than those of a
wait without an end. -/
def waitMilliseconds (timeout : Option Nanoseconds) : UInt32 :=
  match timeout with
  | none => Machine.infinite
  | some span =>
      UInt32.ofNat
        (min (span / nanosecondsPerMillisecond) (Machine.infinite.toNat - 1))

namespace Event

/-- The cause of the call that failed last. -/
def lastError : Action Machine Error :=
  Action.inspect fun machine => .ofIo (.os machine.lastError)

/-- What a call of the system comes to. -/
def outcomeOf (done : Bool) : Action Machine (Outcome Unit) := do
  if done then return .ok () else return refuse (← lastError)

/-- Make an event. -/
def new : Action Machine (Outcome Handle) := do
  match ← Machine.handleCall .createEvent with
  | some handle => return .ok handle
  | none => return refuse (← lastError)

/-- Set an event. -/
def set (event : Handle) : Action Machine (Outcome Unit) := do
  outcomeOf (← Machine.putEvent (.setEvent event) event true)

/-- Reset an event. -/
def reset (event : Handle) : Action Machine (Outcome Unit) := do
  outcomeOf (← Machine.putEvent (.resetEvent event) event false)

/-- Look whether an event is set; a look that fails says no. -/
def isSet (event : Handle) : Action Machine Bool := do
  return (← Machine.wait (.waitForSingleObject event 0) [event]) == 0

/-- Give an event back. -/
def close (event : Handle) : Action Machine Unit :=
  Machine.command (.closeHandle event)

/-- What the result of a wait means, given what each event means. -/
def wakeupOf
    (meanings : List Wakeup)
    (result : UInt32) : Action Machine (Outcome Wakeup) := do
  if result = Machine.waitTimeout then return .ok .timedOut
  else if result = Machine.waitFailed then return refuse (← lastError)
  else
    match meanings[result.toNat]? with
    | some wakeup => return .ok wakeup
    | none =>
        return refuse (.driver
          ("unexpected wait result " ++ Text.markedHexText result.toNat))

/-- Wait for an event, with one that cancels the wait, possibly one that
interrupts it, and possibly a limited time. -/
def wait
    (own cancel : Handle)
    (interrupt : Option Handle)
    (timeout : Option Nanoseconds) : Action Machine (Outcome Wakeup) := do
  let events := [cancel] ++ interrupt.toList ++ [own]
  let meanings :=
    [.cancelled] ++ interrupt.toList.map (fun _ => .interrupted) ++ [.ready]
  let call := Call.waitForMultipleObjects events (waitMilliseconds timeout)
  wakeupOf meanings (← Machine.wait call events)

end Event
end Kernel
end VirtualAdapter

import VirtualAdapter.Faulty
import VirtualAdapter.Host.Blocking
import VirtualAdapter.Host.Manager
import VirtualAdapter.Memory.Driver

/-!
# Scenarios for drivers

A scenario uses a driver through a manager and states what has to come of it.
It ends at the first thing that is not so.
-/

namespace VirtualAdapter
namespace Conformance

open Host
open Memory (MemoryDriver)
open Signal (Nanoseconds nanosecondsPerMillisecond)

/-- Why a scenario failed. -/
inductive ScenarioFailure
  /-- The driver could not be made, or a thread broke off. -/
  | setUp (message : String)
  /-- A call was refused that should not be. -/
  | refused (error : Error)
  /-- Something is not as it has to be. -/
  | assertion (message : String)
  /-- A call broke off with a message. -/
  | crashed (message : String)
  deriving DecidableEq

/-- The text of a failure. -/
def ScenarioFailure.text : ScenarioFailure → String
  | setUp message => "setup error: " ++ message
  | refused error => "tunring error: " ++ error.message
  | assertion message => "assertion failed: " ++ message
  | crashed message => message

/-- How drivers for scenarios are made. -/
structure Factory (State : Type) where
  /-- A fresh driver. -/
  make : Except ScenarioFailure State
  /-- The smallest capacity that the driver accepts. -/
  smallCapacity : UInt32

/-- Drivers whose network side can be played. -/
class Loopback (State : Type) where
  /-- Put a packet in, unless the ring is full. -/
  inject : (name : String) → Bytes → Action State (Outcome Bool)
  /-- Take out what was sent. -/
  drain : (name : String) → Action State (Outcome (List Bytes))
  /-- Take a device away under its session. -/
  fail : (name : String) → Action State (Outcome Bool)
  /-- The number of received packets that were not given back. -/
  outstanding : Action State (Outcome Nat)
  /-- The number of violations so far. -/
  violations : Action State (Outcome Nat)

instance : Loopback MemoryDriver where
  inject := fun name content => do
    return .ok (← MemoryDriver.inject name content)
  drain := fun name => do return .ok (← MemoryDriver.drainOutbound name)
  fail := fun name => do return .ok (← MemoryDriver.failSession name)
  outstanding := Action.inspect fun driver => .ok driver.outstandingPackets
  violations := Action.inspect fun driver => .ok driver.violations.length

/-- A packet with its first bit turned round. -/
def damaged : Bytes → Bytes
  | [] => []
  | first :: rest => (first ^^^ 0x80) :: rest

/-- What a packet is when it is put in; a packet that will not be put in counts
for the damage as well. -/
def contentToInject
    {State : Type}
    (content : Bytes) : Action (Faulty State) (Outcome Bytes) :=
  Faulty.orElse .damage (return .ok (damaged content)) (return .ok content)

instance {State : Type} [Loopback State] : Loopback (Faulty State) where
  inject := fun name content => do
    match ← contentToInject content with
    | .error failure => return .error failure
    | .ok content =>
        Faulty.orElse .inject (return .ok false)
          (Faulty.pass (Loopback.inject name content))
  drain := fun name =>
    Faulty.orElse .drain
      (do
        let _ ← Faulty.pass (Loopback.drain name)
        return .ok [])
      (Faulty.pass (Loopback.drain name))
  fail := fun name =>
    Faulty.orElse .fail (return .ok false) (Faulty.pass (Loopback.fail name))
  outstanding :=
    Faulty.orElse .countOutstanding
      (do return (← Faulty.pass Loopback.outstanding).map (· + 1))
      (Faulty.pass Loopback.outstanding)
  violations :=
    Faulty.orElse .countViolations
      (do return (← Faulty.pass Loopback.violations).map (· + 1))
      (Faulty.pass Loopback.violations)

/-- What a scenario does. -/
abbrev Scenario (State : Type) := ExceptT ScenarioFailure (Action (Host State))

/-- The failure that a failed call is for a scenario. -/
def ScenarioFailure.ofFailure : Failure → ScenarioFailure
  | .refused error => .refused error
  | .crashed message => .crashed message

/-- The name of the adapter of a scenario. -/
def adapterName (scenario : String) : String := "scenario-" ++ scenario

namespace Scenario

variable {State Value : Type}

/-- An action that cannot fail. -/
def act (action : Action (Host State) Value) : Scenario State Value :=
  ExceptT.lift action

/-- The answer of a call that has to succeed. -/
def required (outcome : Outcome Value) : Scenario State Value :=
  match outcome with
  | .ok value => return value
  | .error failure => throw (.ofFailure failure)

/-- A call that has to succeed. -/
def require (action : Action (Host State) (Outcome Value)) :
    Scenario State Value := do
  required (← act action)

/-- Something has to be so. -/
def check (condition : Bool) (message : String) : Scenario State Unit :=
  if condition then return () else throw (.assertion message)

/-- A call has to be refused with an error of a kind. -/
def expectRefusal
    (what : String)
    (outcome : Outcome Value)
    (expected : Error → Bool) : Scenario State Unit :=
  match outcome with
  | .ok _ => throw (.assertion s!"{what}: expected an error")
  | .error (.crashed message) => throw (.crashed message)
  | .error (.refused error) =>
      if expected error then return ()
      else throw (.assertion s!"{what}: unexpected error {error.message}")

/-- The refusal of a call that breaks a rule. -/
def isContractViolation : Error → Bool
  | .contractViolation _ => true
  | _ => false

/-- The refusal of a full ring. -/
def isExhausted : Error → Bool
  | .resourceExhausted _ => true
  | _ => false

/-- The refusal of an argument. -/
def isInvalidArgument : Error → Bool
  | .invalidArgument _ => true
  | _ => false

/-- A span of milliseconds. -/
def milliseconds (count : Nat) : Nanoseconds := count * nanosecondsPerMillisecond

/-- Let a span of time pass. -/
def rest (span : Nanoseconds) : Scenario State Unit :=
  act do passTime ((← now) + span)

variable [Driver State]

/-- A manager that drops the driver's records. -/
def quietManager : Scenario State ManagerId :=
  require (Host.newManager { logger := .disabled })

/-- The adapter of a scenario. -/
def adapter (manager : ManagerId) (name : String) : Scenario State AdapterId :=
  require (Host.createAdapter manager { name })

/-- Start a session with rings of a capacity. -/
def startSmall (capacity : UInt32) (adapter : AdapterId) :
    Action (Host State) (Outcome SessionId) :=
  Host.startSession adapter { ringCapacity := some capacity }

/-- Carry a blocking call out on the thread of the scenario. -/
def finish (call : Blocking) : Scenario State BlockingResult := do
  match ← act call.toEnd with
  | some result => return result
  | none => throw (.setUp "call never returned")

/-- What a receiver got. -/
def received : BlockingResult → Scenario State (Outcome PacketId)
  | .received outcome => return outcome
  | _ => throw (.setUp "not a receiver")

/-- What a sender got. -/
def sent : BlockingResult → Scenario State (Outcome Unit)
  | .sent outcome => return outcome
  | _ => throw (.setUp "not a sender")

/-- Receive on the thread of the scenario. -/
def receiveNow
    (session : SessionId)
    (interrupt : Option EventHandle)
    (timeout : Option Nanoseconds) : Scenario State (Outcome PacketId) := do
  let call ← act (Host.receive session interrupt timeout)
  received (← finish (.receive call))

/-- Begin to receive on another thread, which runs until it sleeps or is over. -/
def receiveElsewhere
    (session : SessionId)
    (interrupt : Option EventHandle)
    (timeout : Option Nanoseconds) :
    Scenario State (Progress Blocking BlockingResult) := do
  let call ← act (Host.receive session interrupt timeout)
  act (Blocking.receive call).toSleep

/-- Wait until another thread is over; a packet that it got is given back. -/
def join (progress : Progress Blocking BlockingResult) :
    Scenario State (Outcome Unit) := do
  let result ← match progress with
    | .finished result => pure result
    | .running call | .asleep call _ => finish call
  match ← received result with
  | .error (.crashed _) => throw (.setUp "waiter panicked")
  | .error failure => return .error failure
  | .ok packet =>
      act (Host.finishPacket packet)
      return .ok ()

/-- Do something while another thread may sleep on a session.  If it fails, a
thread that sleeps outlives the scenario and keeps the session. -/
def beside
    (waiter : Progress Blocking BlockingResult)
    (session : SessionId)
    (scenario : Scenario State Value) : Scenario State Value :=
  tryCatch scenario fun failure => do
    match waiter with
    | .finished _ => pure ()
    | .running _ | .asleep _ _ => act (Host.forgetSession session)
    throw failure

/-- End sessions one after the other. -/
def endAll : List SessionId → Scenario State Unit
  | [] => return ()
  | session :: rest => do
      require (Host.endSession session)
      endAll rest

/-- Carry a scenario out and end what it leaves running; if that breaks off, it
is what the scenario comes to.  Nothing is ended after a call that broke off. -/
def thenLeave (scenario : Scenario State Value) : Scenario State Value := do
  match ← act scenario.run with
  | .error (.crashed message) => throw (.crashed message)
  | .error failure =>
      endAll (← act Host.sessionIds)
      throw failure
  | .ok value =>
      endAll (← act Host.sessionIds)
      return value

/-- The number of adapters that a manager counts. -/
def openAdapters (manager : ManagerId) : Scenario State Nat := do
  return ((← act (manager? manager)).map (·.openAdapters)).getD 0

end Scenario
end Conformance
end VirtualAdapter

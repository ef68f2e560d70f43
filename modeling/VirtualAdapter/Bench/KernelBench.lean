import VirtualAdapter.Kernel.Library
import VirtualAdapter.Kernel.LogCallback
import VirtualAdapter.Kernel.RoundTrip

/-!
# A bench for the kernel driver

Commands call the driver directly and name what earlier commands obtained.
The machine notes the calls of one command at a time.
-/

namespace VirtualAdapter
namespace Bench

open Kernel
open Signal (Nanoseconds Wakeup)

/-- What can be asked of the kernel driver. -/
inductive KernelCommand
  | load (file : Option Library)
  | describe
  | bounds
  | script (function : Function) (behaviours : List Behaviour)
  | create (id name tunnelType : String) (guid : Option Guid)
  | openExisting (id name : String)
  | close (adapter : String)
  | luid (adapter : String)
  | version
  | deleteDriver
  | start (id adapter : String) (capacity : UInt32)
  | finish (session : String)
  | event (id session : String)
  | receive (id session : String)
  | alloc (id session : String) (size : Nat)
  | write (packet : String) (start : Nat) (content : Bytes)
  | release (session packet : String)
  | send (session packet : String)
  | setSink (tag : Option String)
  | emit (record : RawRecord)
  | newEvent (id : String)
  | setEvent (id : String)
  | resetEvent (id : String)
  | isEventSet (id : String)
  | describeEvent (id : String)
  | dropEvent (id : String)
  | wait (own cancel : String) (interrupt : Option String)
      (timeout : Option Nanoseconds)
  | roundTrip (trip : RoundTrip)
  | nothing
  | unknown (name : String)

/-- What the kernel driver answers. -/
inductive KernelAnswer
  | done
  | flag (value : Bool)
  | number (value : Nat)
  | text (text : String)
  | bounds (bounds : CapacityBounds)
  | lent (tag : UInt64) (content : Bytes)
  | woken (wakeup : Wakeup)
  | trip (answers : List RoundTripAnswer)
  | failed (failure : Failure)
  | unbound (name : String)

/-- The kernel driver with everything that was obtained from it. -/
structure KernelBench where
  /-- The machine. -/
  machine : Machine := {}
  /-- Adapters by name. -/
  adapters : Table String AdapterHandle := ∅
  /-- Sessions by name. -/
  sessions : Table String SessionHandle := ∅
  /-- Packets by name. -/
  packets : Table String RawPacket := ∅
  /-- Events by name. -/
  events : Table String SystemEvent := ∅

namespace KernelBench

variable {Value : Type}

/-- An action of the machine. -/
def onMachine (action : Action Machine Value) : Action KernelBench Value :=
  action.on (·.machine) fun bench machine => { bench with machine }

/-- Go on with what a name is bound to. -/
def bound
    (table : KernelBench → Table String Value)
    (name : String)
    (continuation : Value → Action KernelBench KernelAnswer) :
    Action KernelBench KernelAnswer :=
  fun bench =>
    match (table bench).get? name with
    | none => ⟨.unbound name, bench, []⟩
    | some value => continuation value bench

/-- Answer an outcome. -/
def conclude
    (outcome : Outcome Value)
    (continuation : Value → Action KernelBench KernelAnswer) :
    Action KernelBench KernelAnswer :=
  match outcome with
  | .error failure => .answer (.failed failure)
  | .ok value => continuation value

/-- Answer that something was done, or why not. -/
def report (outcome : Outcome Unit) : KernelAnswer :=
  match outcome with
  | .error failure => .failed failure
  | .ok () => .done

/-- Bind an adapter and show it. -/
def bindAdapter (id : String) (outcome : Outcome AdapterHandle) :
    Action KernelBench KernelAnswer :=
  conclude outcome fun adapter => do
    Action.change fun bench =>
      { bench with adapters := bench.adapters.insert id adapter }
    return .text (Kernel.adapterText adapter)

/-- Bind a session and show it. -/
def bindSession (id : String) (outcome : Outcome SessionHandle) :
    Action KernelBench KernelAnswer :=
  conclude outcome fun session => do
    Action.change fun bench =>
      { bench with sessions := bench.sessions.insert id session }
    return .text (Kernel.sessionText session)

/-- Show a packet. -/
def showPacket (packet : RawPacket) : Action KernelBench KernelAnswer :=
  Action.inspect fun bench =>
    .lent packet.tag (Kernel.readPacket packet bench.machine)

/-- Bind a packet and show it. -/
def bindPacket (id : String) (outcome : Outcome RawPacket) :
    Action KernelBench KernelAnswer :=
  conclude outcome fun packet => do
    Action.change fun bench =>
      { bench with packets := bench.packets.insert id packet }
    showPacket packet

/-- Close an event that was made here. -/
def closeOwned (event : SystemEvent) : Action KernelBench Unit :=
  if event.isOwned then onMachine (Kernel.Event.close event.handle)
  else return ()

/-- Bind an event, drop the one that was bound before, and show the handle. -/
def bindEvent (id : String) (isOwned : Bool) (outcome : Outcome Handle) :
    Action KernelBench KernelAnswer :=
  conclude outcome fun handle => do
    let old ← Action.inspect fun bench => bench.events.get? id
    Action.change fun bench =>
      { bench with events := bench.events.insert id { handle, isOwned } }
    match old with
    | some event => closeOwned event
    | none => pure ()
    return .number handle

/-- Drop an event. -/
def dropEvent (id : String) : Action KernelBench KernelAnswer :=
  bound (·.events) id fun event => do
    closeOwned event
    Action.change fun bench => { bench with events := bench.events.erase id }
    return .done

/-- Go on with the event that interrupts a wait, if there is one. -/
def withInterrupt
    (name : Option String)
    (continuation : Option Handle → Action KernelBench KernelAnswer) :
    Action KernelBench KernelAnswer :=
  match name with
  | none => continuation none
  | some name => bound (·.events) name fun event => continuation (some event.handle)

/-- Wait for events. -/
def wait
    (own cancel : String)
    (interrupt : Option String)
    (timeout : Option Nanoseconds) : Action KernelBench KernelAnswer :=
  bound (·.events) own fun own =>
    bound (·.events) cancel fun cancel =>
      withInterrupt interrupt fun interrupt => do
        let outcome ← onMachine
          (Kernel.Event.wait own.handle cancel.handle interrupt timeout)
        conclude outcome fun wakeup => return .woken wakeup

/-- Hand a packet to a session. -/
def handOver
    (session packet : String)
    (action : SessionHandle → RawPacket → Action Machine Unit) :
    Action KernelBench KernelAnswer :=
  bound (·.sessions) session fun session =>
    bound (·.packets) packet fun packet => do
      onMachine (action session packet)
      return .done

/-- Carry out a command. -/
def perform : KernelCommand → Action KernelBench KernelAnswer
  | .load file =>
      match Library.load file with
      | .error error => return .failed (.refused error)
      | .ok () => return .text Kernel.driverText
  | .describe => return .text Kernel.driverText
  | .bounds => return .bounds .kernel
  | .script function behaviours => do
      onMachine (Machine.script function behaviours)
      return .done
  | .create id name tunnelType guid => do
      bindAdapter id (← onMachine (Kernel.createAdapter name tunnelType guid))
  | .openExisting id name => do
      bindAdapter id (← onMachine (Kernel.openAdapter name))
  | .close adapter =>
      bound (·.adapters) adapter fun adapter => do
        onMachine (Driver.closeAdapter adapter)
        return .done
  | .luid adapter =>
      bound (·.adapters) adapter fun adapter => do
        return .text (← onMachine (Driver.adapterLuid adapter)).text
  | .version => do
      conclude (← onMachine Kernel.runningVersion) fun version =>
        return .text version.text
  | .deleteDriver => do return report (← onMachine Kernel.deleteDriver)
  | .start id adapter capacity =>
      bound (·.adapters) adapter fun adapter => do
        bindSession id (← onMachine (Kernel.startSession adapter capacity))
  | .finish session =>
      bound (·.sessions) session fun session => do
        onMachine (Driver.endSession session)
        return .done
  | .event id session =>
      bound (·.sessions) session fun session => do
        let outcome ← onMachine (Kernel.readWaitEvent session)
        bindEvent id false (outcome.map (·.number))
  | .receive id session =>
      bound (·.sessions) session fun session => do
        bindPacket id (← onMachine (Kernel.receivePacket session))
  | .alloc id session size =>
      bound (·.sessions) session fun session => do
        bindPacket id (← onMachine (Kernel.allocateSend session size))
  | .write packet start content =>
      bound (·.packets) packet fun packet => do
        Action.change fun bench =>
          { bench with
            machine := Kernel.writePacket packet start content bench.machine }
        showPacket packet
  | .release session packet => handOver session packet Kernel.releaseReceived
  | .send session packet => handOver session packet Kernel.sendPacket
  | .setSink tag => do
      onMachine (Kernel.setSink (tag.map .tagged))
      return .done
  | .emit record => do return .flag (← onMachine (Kernel.emit record))
  | .newEvent id => do bindEvent id true (← onMachine Kernel.Event.new)
  | .setEvent id =>
      bound (·.events) id fun event => do
        return report (← onMachine (Kernel.Event.set event.handle))
  | .resetEvent id =>
      bound (·.events) id fun event => do
        return report (← onMachine (Kernel.Event.reset event.handle))
  | .isEventSet id =>
      bound (·.events) id fun event => do
        return .flag (← onMachine (Kernel.Event.isSet event.handle))
  | .describeEvent id => bound (·.events) id fun event => return .text event.text
  | .dropEvent id => dropEvent id
  | .wait own cancel interrupt timeout => wait own cancel interrupt timeout
  | .roundTrip trip => do return .trip (← onMachine trip.onMachine)
  | .nothing => return .done
  | .unknown name => return .unbound name

/-- Forget the calls so far. -/
def forgetCalls : Action KernelBench Unit :=
  onMachine (Action.change fun machine => { machine with calls := [] })

/-- Carry out a command and note the calls of it alone. -/
def run (command : KernelCommand) : Action KernelBench KernelAnswer := do
  forgetCalls
  perform command

/-- Drop events one after the other. -/
def dropAll : List (String × SystemEvent) → Action KernelBench Unit
  | [] => return ()
  | (_, event) :: rest => do
      closeOwned event
      dropAll rest

/-- Drop the events that are left, in the order of their names, and note the
calls of that alone. -/
def close : Action KernelBench Unit := do
  forgetCalls
  let bench ← Action.current
  dropAll (bench.events.entries.mergeSort fun left right => !(right.1 < left.1))

end KernelBench
end Bench
end VirtualAdapter

import VirtualAdapter.Bench.PeerCommand
import VirtualAdapter.Faulty
import VirtualAdapter.Host.Blocking
import VirtualAdapter.Host.Manager
import VirtualAdapter.Host.ReadPump

/-!
# Commands for the host side

Commands name what earlier commands obtained.  Names are the caller's own;
every kind of thing has names of its own.
-/

namespace VirtualAdapter
namespace Bench

open Host
open Signal (Nanoseconds)

/-- The kinds of calls that can sleep. -/
inductive BlockingKind
  | receive
  | receiveInterruptible
  | waitReadable
  | waitReadableInterruptible
  | receiveInto (length : Nat)
  | send (content : Bytes)
  | sendInterruptible (content : Bytes)
  | receiveAsync

/-- A call that can sleep, with names for what it needs. -/
structure BlockingRequest where
  /-- The session. -/
  session : String
  /-- What is called. -/
  kind : BlockingKind
  /-- The event that interrupts the call. -/
  interrupt : String := ""
  /-- The time that the call may take, if it is limited. -/
  timeout : Option Nanoseconds := none

/-- What can be asked of the host side. -/
inductive HostCommand
  | plant (method : Method) (fault : Fault)
  | heal
  | claimBounds (bounds : Option CapacityBounds)
  | driverRecord (level : LogLevel) (message : String)
  | newSignal (id : String)
  | setSignal (id : String)
  | resetSignal (id : String)
  | signalIsSet (id : String)
  | newManager (id : String) (config : ManagerConfig)
  | dropManager (manager : String)
  | describeManager (manager : String)
  | setLogger (manager : String) (logger : Logger)
  | driverVersion (manager : String)
  | deleteDriver (manager : String)
  | driverInstalled (manager : String)
  | create (manager id : String) (config : AdapterConfig)
  | openExisting (manager id name : String)
  | viewAdapter (adapter : String)
  | close (adapter : String)
  | dropAdapter (adapter : String)
  | start (id adapter : String) (config : SessionConfig)
  | viewSession (session : String)
  | stats (session : String)
  | shutdown (session : String)
  | finish (session : String)
  | tryReceive (session id : String)
  | tryReceiveInto (session : String) (length : Nat)
  | alloc (session id : String) (size : Nat)
  | trySend (session : String) (content : Bytes)
  /-- A blocking call; a packet that it receives is kept under a name. -/
  | blocking (request : BlockingRequest) (id : String)
  | viewPacket (packet : String)
  | write (packet : String) (start : Nat) (content : Bytes)
  | finishPacket (packet : String)
  | dropPacket (packet : String)
  /-- A pump whose handler may send packets back and may break off on one. -/
  | pump (session id : String) (echo : Bool) (breakOn : Option UInt8)
  | viewPump (id : String)
  | stopPump (id : String)
  | joinPump (id : String)
  | dropPump (id : String)
  /-- An asynchronous session, which may ask to be the only user. -/
  | async (session id : String) (owned : Bool)
  | asyncReceive (id : String) (timeout : Option Nanoseconds)
  | asyncAbandon (id : String)
  | asyncSend (id : String) (content : Bytes)
  | asyncShutdown (id : String)
  | asyncDrop (id : String)
  /-- A blocking call elsewhere, and a command once it sleeps or is over. -/
  | parked (request : BlockingRequest) (wake : HostCommand)
  | peer (command : PeerCommand)
  | unknown (name : String)

/-- How an adapter looks. -/
structure AdapterView where
  /-- Its name. -/
  name : String
  /-- Its interface identifier. -/
  luid : Luid
  /-- A session was started through it. -/
  isActive : Bool
  /-- Its description. -/
  text : String

/-- How a session looks. -/
structure SessionView where
  /-- The capacity of its rings. -/
  capacity : UInt32
  /-- The name of its adapter. -/
  name : String
  /-- The interface identifier of its adapter. -/
  luid : Luid
  /-- What it has moved so far. -/
  stats : SessionStats
  /-- It was shut down. -/
  isShutDown : Bool
  /-- Its event for packets is set. -/
  isReadable : Bool
  /-- Its description. -/
  text : String
  /-- The choices of its starter. -/
  config : SessionConfig

/-- What the host side answers. -/
inductive HostAnswer
  | done
  | flag (value : Bool)
  | number (value : Nat)
  | text (text : String)
  | adapter (view : AdapterView)
  | started (text : String) (capacity : UInt32)
  | session (view : SessionView)
  | stats (stats : SessionStats)
  | received (content : Bytes)
  | copied (copied : Copied)
  | content (content : Bytes)
  | packet (content : Bytes) (text : String)
  /-- A pump: whether it is over, unless it was taken, and what it handed on. -/
  | pump (isFinished : Option Bool) (seen : List Bytes)
  | abandoned
  | parked (wake result : HostAnswer)
  | peer (answer : PeerAnswer)
  | busy
  | failed (failure : Failure)
  | unbound (name : String)
  /-- The call would never come back. -/
  | endless

end Bench
end VirtualAdapter

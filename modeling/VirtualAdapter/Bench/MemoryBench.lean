import VirtualAdapter.Bench.PeerCommand

/-!
# A bench for the in-memory driver

Commands call the driver directly and name what earlier commands obtained.
Handles and packets stay bound when they are given back, so that they can be
misused; only the bytes of a packet are out of reach from then on.
-/

namespace VirtualAdapter
namespace Bench

open Memory

/-- Changes to a packet before it is handed back. -/
structure Forgery where
  /-- The distance by which its address is moved. -/
  offset : Int := 0
  /-- The tag that it gets instead of its own. -/
  tag : Option UInt64 := none

/-- The packet after the changes. -/
def Forgery.apply (forgery : Forgery) (packet : RawPacket) : RawPacket :=
  { packet with
    address.offset := packet.address.offset + forgery.offset
    tag := forgery.tag.getD packet.tag }

/-- What can be asked of the driver. -/
inductive MemoryCommand
  | create (id name tunnelType : String) (guid : Option Guid)
  | openExisting (id name : String)
  | close (adapter : String)
  | luid (adapter : String)
  | start (id adapter : String) (capacity : UInt32)
  | version
  | deleteDriver
  | bounds
  | describe
  | setSink (tag : Option String)
  | finish (session : String)
  | event (id session : String)
  | eventIsSet (id : String)
  | receive (id session : String)
  | alloc (id session : String) (size : Nat)
  | release (session packet : String) (forgery : Forgery)
  | send (session packet : String) (forgery : Forgery)
  | write (packet : String) (start : Nat) (content : Bytes)
  | read (packet : String)
  | peer (command : PeerCommand)
  | unknown (name : String)

/-- What the driver answers. -/
inductive MemoryAnswer
  | done
  | flag (value : Bool)
  | text (text : String)
  | bounds (bounds : CapacityBounds)
  | lent (tag : UInt64) (content : Bytes)
  | content (bytes : Bytes)
  | caused (violations : List Violation)
  | peer (answer : PeerAnswer)
  | failed (failure : Failure)
  | unbound (name : String)

/-- A packet that was lent, and whether its bytes can still be reached. -/
structure LentPacket where
  /-- The session that lent it. -/
  session : SessionHandle
  /-- The packet. -/
  raw : RawPacket
  /-- It was handed back. -/
  returned : Bool := false

/-- A driver with everything that is bound. -/
structure MemoryBench where
  /-- The driver. -/
  driver : MemoryDriver
  /-- Open handles. -/
  adapters : Table String AdapterHandle := ∅
  /-- Sessions. -/
  sessions : Table String SessionHandle := ∅
  /-- Packets. -/
  packets : Table String LentPacket := ∅
  /-- Events. -/
  events : Table String EventHandle := ∅

namespace MemoryBench

/-- An action on the driver alone. -/
def onDriver {Value : Type} (action : Action MemoryDriver Value) :
    Action MemoryBench Value :=
  action.on (·.driver) fun bench driver => { bench with driver }

/-- Go on with what a name is bound to. -/
def bound
    {Value : Type}
    (table : MemoryBench → Table String Value)
    (name : String)
    (continuation : Value → Action MemoryBench MemoryAnswer) :
    Action MemoryBench MemoryAnswer :=
  fun bench =>
    match (table bench).get? name with
    | none => ⟨.unbound name, bench, []⟩
    | some value => continuation value bench

/-- Answer an outcome. -/
def conclude
    {Value : Type}
    (outcome : Outcome Value)
    (continuation : Value → Action MemoryBench MemoryAnswer) :
    Action MemoryBench MemoryAnswer :=
  match outcome with
  | .error failure => .answer (.failed failure)
  | .ok value => continuation value

/-- Bind an open handle and show it. -/
def bindAdapter
    (id : String)
    (outcome : Outcome AdapterHandle) : Action MemoryBench MemoryAnswer :=
  conclude outcome fun adapter => do
    Action.change fun bench =>
      { bench with adapters := bench.adapters.insert id adapter }
    return .text (MemoryDriver.adapterText adapter)

/-- Bind a lent packet and show it. -/
def bindPacket
    (id : String)
    (session : SessionHandle)
    (outcome : Outcome RawPacket) : Action MemoryBench MemoryAnswer :=
  conclude outcome fun raw => do
    Action.change fun bench =>
      { bench with packets := bench.packets.insert id { session, raw } }
    let bench ← Action.current
    return .lent raw.tag (MemoryDriver.readPacket raw bench.driver)

/-- Put the bytes of every packet of a session out of reach. -/
def loseSession
    (session : SessionHandle)
    (bench : MemoryBench) : MemoryBench :=
  { bench with
    packets := ⟨bench.packets.entries.map fun (id, packet) =>
      (id, { packet with
        returned := packet.returned || packet.session = session })⟩ }

/-- Hand a packet to a session and show the violations that this causes. -/
def handOver
    (session packet : String)
    (forgery : Forgery)
    (give : SessionHandle → RawPacket → Action MemoryDriver Unit) :
    Action MemoryBench MemoryAnswer :=
  bound (·.sessions) session fun target =>
    bound (·.packets) packet fun lent => do
      let before ← Action.inspect fun bench =>
        bench.driver.violations.length
      onDriver (give target (forgery.apply lent.raw))
      Action.change fun bench =>
        { bench with
          packets := bench.packets.insert packet { lent with returned := true } }
      Action.inspect fun bench =>
        .caused (bench.driver.violations.drop before)

/-- Carry out one command. -/
def run : MemoryCommand → Action MemoryBench MemoryAnswer
  | .create id name tunnelType guid => do
      bindAdapter id
        (← onDriver (MemoryDriver.createAdapter name tunnelType guid))
  | .openExisting id name => do
      bindAdapter id (← onDriver (MemoryDriver.openAdapter name))
  | .close adapter =>
      bound (·.adapters) adapter fun handle => do
        onDriver (MemoryDriver.closeAdapter handle)
        return .done
  | .luid adapter =>
      bound (·.adapters) adapter fun handle => do
        return .text (← onDriver (MemoryDriver.adapterLuid handle)).text
  | .start id adapter capacity =>
      bound (·.adapters) adapter fun handle => do
        let outcome ← onDriver (MemoryDriver.startSession handle capacity)
        conclude outcome fun session => do
          Action.change fun bench =>
            { bench with sessions := bench.sessions.insert id session }
          return .text (MemoryDriver.sessionText session)
  | .version => do
      conclude (← onDriver MemoryDriver.runningVersion) fun version =>
        return .text version.text
  | .deleteDriver => do
      conclude (← onDriver MemoryDriver.deleteDriver) fun _ => return .done
  | .bounds => return .bounds .inMemory
  | .describe => Action.inspect fun bench => .text bench.driver.text
  | .setSink tag => do
      onDriver (MemoryDriver.setSink (tag.map .tagged))
      return .done
  | .finish session =>
      bound (·.sessions) session fun handle => do
        onDriver (MemoryDriver.endSession handle)
        Action.change (loseSession handle)
        return .done
  | .event id session =>
      bound (·.sessions) session fun handle => do
        conclude (← onDriver (MemoryDriver.readWaitEvent handle)) fun event => do
          Action.change fun bench =>
            { bench with events := bench.events.insert id event }
          Action.inspect fun bench =>
            .flag (bench.driver.signals.isSet event.number)
  | .eventIsSet id =>
      bound (·.events) id fun event =>
        Action.inspect fun bench =>
          .flag (bench.driver.signals.isSet event.number)
  | .receive id session =>
      bound (·.sessions) session fun handle => do
        bindPacket id handle (← onDriver (MemoryDriver.receivePacket handle))
  | .alloc id session size =>
      bound (·.sessions) session fun handle => do
        bindPacket id handle
          (← onDriver (MemoryDriver.allocateSend handle size))
  | .release session packet forgery =>
      handOver session packet forgery MemoryDriver.releaseReceived
  | .send session packet forgery =>
      handOver session packet forgery MemoryDriver.sendPacket
  | .write packet start content =>
      bound (·.packets) packet fun lent => do
        if lent.returned then return .unbound packet
        Action.change fun bench =>
          { bench with
            driver := bench.driver.writePacket lent.raw start content }
        Action.inspect fun bench =>
          .content (bench.driver.readPacket lent.raw)
  | .read packet =>
      bound (·.packets) packet fun lent => do
        if lent.returned then return .unbound packet
        Action.inspect fun bench =>
          .content (bench.driver.readPacket lent.raw)
  | .peer command => do
      return .peer (← onDriver command.run)
  | .unknown name => return .unbound name

end MemoryBench
end Bench
end VirtualAdapter

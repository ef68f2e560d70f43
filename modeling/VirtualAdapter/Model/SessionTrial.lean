import VirtualAdapter.Host.Manager
import VirtualAdapter.Host.Session
import VirtualAdapter.Memory.Driver
import VirtualAdapter.Model.Comparison

/-!
# A session over the in-memory driver beside two queues

One queue holds what the network side has put in and the host has not given
back, the other one what the host has allocated and the network side has not
taken out, both oldest first.
-/

namespace VirtualAdapter
namespace Model

open Host (PacketId SessionId)
open Memory (MemoryDriver)

/-- What is done to a session; a pick selects among what the host holds. -/
inductive SessionOperation
  /-- The network side puts a packet in. -/
  | inject (length : UInt16) (fill : UInt8)
  /-- The host takes the next packet and holds it. -/
  | receive
  /-- The host lets go of a received packet. -/
  | releaseHeld (pick : UInt8)
  /-- The host copies the next packet into a buffer. -/
  | receiveInto (length : UInt16)
  /-- The host sends a packet. -/
  | send (length : UInt16) (fill : UInt8)
  /-- The host takes a buffer, fills it and holds it. -/
  | allocate (length : UInt16) (fill : UInt8)
  /-- The host sends a buffer that it holds. -/
  | sendHeld (pick : UInt8)
  /-- The host lets go of a buffer without sending it. -/
  | dropHeld (pick : UInt8)
  /-- The network side takes out what was sent. -/
  | drain
  /-- The host shuts the session down. -/
  | shutdown

/-- Where an inbound packet is. -/
inductive Arrival
  | queued
  | held (packet : PacketId)
  | released
  deriving DecidableEq

/-- Where an outbound packet is. -/
inductive Departure
  | held (packet : PacketId)
  | committed
  deriving DecidableEq

/-- The queues beside a session. -/
structure SessionQueues where
  /-- The number of packets that either ring can hold. -/
  capacity : Nat
  /-- Inbound packets that were not given back, oldest first. -/
  inbound : List (Bytes × Arrival) := []
  /-- How many of them were delivered. -/
  read : Nat := 0
  /-- Outbound packets that were not taken out, oldest first. -/
  outbound : List (Bytes × Departure) := []
  /-- The host has shut the session down. -/
  isShutDown : Bool := false
  /-- The number of packets that were received. -/
  received : Nat := 0
  /-- The number of packets that were sent. -/
  sent : Nat := 0
  /-- The number of refusals because the ring was full. -/
  ringFull : Nat := 0
  /-- The received packets that the host holds. -/
  heldInbound : List PacketId := []
  /-- The buffers that the host holds. -/
  heldOutbound : List PacketId := []

namespace SessionQueues

/-- The inbound ring has room. -/
def hasRoom (queues : SessionQueues) : Bool :=
  queues.inbound.length < queues.capacity

/-- The outbound ring is full. -/
def isFull (queues : SessionQueues) : Bool :=
  queues.capacity ≤ queues.outbound.length

/-- The next inbound packet to be delivered. -/
def next? (queues : SessionQueues) : Option Bytes :=
  (queues.inbound[queues.read]?).map (·.1)

/-- Deliver the next inbound packet and count it. -/
def deliver (queues : SessionQueues) (arrival : Arrival) : SessionQueues :=
  { queues with
    inbound := queues.inbound.modify queues.read fun entry => (entry.1, arrival)
    read := queues.read + 1
    received := queues.received + 1 }

/-- How many packets at the front were delivered and given back. -/
def reclaimable : (read : Nat) → List (Bytes × Arrival) → Nat
  | read + 1, (_, arrival) :: rest =>
      if arrival = .released then reclaimable read rest + 1 else 0
  | _, _ => 0

/-- Forget the inbound packets at the front that were given back. -/
def reclaim (queues : SessionQueues) : SessionQueues :=
  let count := reclaimable queues.read queues.inbound
  { queues with
    inbound := queues.inbound.drop count
    read := queues.read - count }

/-- The host lets go of a received packet. -/
def letGo (queues : SessionQueues) (packet : PacketId) : SessionQueues :=
  { queues with
    inbound := queues.inbound.map fun (content, arrival) =>
      (content, if arrival = Arrival.held packet then .released else arrival)
    heldInbound := queues.heldInbound.filter (· ≠ packet) }.reclaim

/-- Commit a buffer that the host holds, its content changed. -/
def commit
    (queues : SessionQueues)
    (packet : PacketId)
    (change : Bytes → Bytes) : SessionQueues :=
  { queues with
    outbound := queues.outbound.map fun (content, departure) =>
      if departure = .held packet then (change content, .committed)
      else (content, departure)
    heldOutbound := queues.heldOutbound.filter (· ≠ packet) }

/-- What the network side can take out. -/
def drainable (queues : SessionQueues) : List (Bytes × Departure) :=
  queues.outbound.takeWhile fun entry => entry.2 = .committed

end SessionQueues

/-- What an operation comes to. -/
abbrev SessionStep := Action (Host MemoryDriver) (Except Finding SessionQueues)

namespace SessionTrial

/-- A call has to be refused in a way that is expected. -/
def expectRefusal
    {Value : Type}
    (call : String)
    (outcome : Outcome Value)
    (expected : Error → Bool)
    (queues : SessionQueues) : Except Finding SessionQueues :=
  match outcome with
  | .ok _ => .error (.accepted call)
  | .error (.crashed message) => .error (.refused call message)
  | .error (.refused error) =>
      if expected error then .ok queues
      else .error (.refused call error.message)

/-- The refusal after the shutdown. -/
def isEnded (error : Error) : Bool := error = .sessionEnded

/-- The refusal of a full ring. -/
def isExhausted : Error → Bool
  | .resourceExhausted _ => true
  | _ => false

/-- The refusal of a buffer that is too short. -/
def isInvalid : Error → Bool
  | .invalidArgument _ => true
  | _ => false

/-- The name of the adapter. -/
def adapterName : String := "fuzz0"

/-- The network side puts a packet in. -/
def inject (queues : SessionQueues) (content : Bytes) : SessionStep := do
  let accepted ← Host.ask (MemoryDriver.inject adapterName content)
  if accepted ≠ queues.hasRoom then
    return .error (if accepted then .accepted "inject on full ring"
      else .refused "inject" "ring full")
  else if accepted then
    return .ok { queues with
      inbound := queues.inbound ++ [(content, .queued)] }
  else return .ok queues

/-- The bytes of a packet that the host holds. -/
def contentOf (packet : PacketId) : Action (Host MemoryDriver) (Option Bytes) :=
  Action.inspect fun host =>
    (host.packets.get? packet).map host.packetBytes

/-- The host takes the next packet and holds it. -/
def receive (session : SessionId) (queues : SessionQueues) : SessionStep := do
  let outcome ← Host.tryReceive session
  if queues.isShutDown then
    return expectRefusal "receive after shutdown" outcome isEnded queues
  else
    match queues.next?, outcome with
    | none, .error (.refused .wouldBlock) => return .ok queues
    | some expected, .ok packet =>
        if (← contentOf packet) ≠ some expected then
          return .error (.different "received payload")
        else
          return .ok { queues.deliver (.held packet) with
            heldInbound := queues.heldInbound ++ [packet] }
    | _, .error failure => return .error (.refused "receive" failure.message)
    | none, .ok _ => return .error (.accepted "receive from an empty ring")

/-- The host lets go of a received packet. -/
def releaseHeld (queues : SessionQueues) (pick : UInt8) : SessionStep := do
  match choose pick queues.heldInbound with
  | none => return .ok queues
  | some packet =>
      Host.dropPacket packet
      if queues.inbound.any fun entry => entry.2 = .held packet then
        return .ok (queues.letGo packet)
      else return .error (.different "held packet")

/-- The host copies the next packet into a buffer. -/
def receiveInto
    (session : SessionId)
    (queues : SessionQueues)
    (length : Nat) : SessionStep := do
  let copied ← Host.tryReceiveInto session (Bytes.zeros length)
  if queues.isShutDown then
    return expectRefusal "receive into after shutdown" copied.outcome isEnded
      queues
  else
    match queues.next? with
    | none =>
        return expectRefusal "receive into from an empty ring" copied.outcome
          (· = .wouldBlock) queues
    | some expected =>
        let after := (queues.deliver .released).reclaim
        if length < expected.length then
          return expectRefusal "short receive into" copied.outcome isInvalid after
        else
          match copied.outcome with
          | .error failure =>
              return .error (.refused "receive into" failure.message)
          | .ok count =>
              if copied.buffer.take count ≠ expected then
                return .error (.different "copied payload")
              else return .ok after

/-- Go on with the outcome of a call that needs room in the outbound ring. -/
def withRoom
    {Value : Type}
    (call : String)
    (queues : SessionQueues)
    (outcome : Outcome Value)
    (continuation : Value → SessionStep) : SessionStep := do
  if queues.isShutDown then
    return expectRefusal (call ++ " after shutdown") outcome isEnded queues
  else if queues.isFull then
    return expectRefusal (call ++ " on full ring") outcome isExhausted
      { queues with ringFull := queues.ringFull + 1 }
  else
    match outcome with
    | .error failure => return .error (.refused call failure.message)
    | .ok value => continuation value

/-- The host sends a packet. -/
def send
    (session : SessionId)
    (queues : SessionQueues)
    (content : Bytes) : SessionStep := do
  withRoom "send" queues (← Host.trySend session content) fun () =>
    return .ok { queues with
      sent := queues.sent + 1
      outbound := queues.outbound ++ [(content, .committed)] }

/-- The host takes a buffer, fills it and holds it. -/
def allocate
    (session : SessionId)
    (queues : SessionQueues)
    (content : Bytes) : SessionStep := do
  let outcome ← Host.allocateSend session content.length
  withRoom "allocate" queues outcome fun packet => do
    if (← contentOf packet) ≠ some (Bytes.zeros content.length) then
      return .error (.different "fresh send buffer")
    else
      Host.withPacket packet fun held _ => Host.writePacket held 0 content
      return .ok { queues with
        outbound := queues.outbound ++ [(content, .held packet)]
        heldOutbound := queues.heldOutbound ++ [packet] }

/-- The host lets go of a buffer in one of two ways. -/
def settleHeld
    (queues : SessionQueues)
    (pick : UInt8)
    (action : PacketId → Action (Host MemoryDriver) Unit)
    (after : SessionQueues → PacketId → SessionQueues) : SessionStep := do
  match choose pick queues.heldOutbound with
  | none => return .ok queues
  | some packet =>
      if queues.outbound.any fun entry => entry.2 = .held packet then
        action packet
        return .ok (after queues packet)
      else return .error (.different "held buffer")

/-- The host sends a buffer that it holds. -/
def sendHeld (queues : SessionQueues) (pick : UInt8) : SessionStep :=
  settleHeld queues pick Host.finishPacket fun queues packet =>
    { queues.commit packet id with sent := queues.sent + 1 }

/-- The host lets go of a buffer without sending it, so that zeros are sent. -/
def dropHeld (queues : SessionQueues) (pick : UInt8) : SessionStep :=
  settleHeld queues pick Host.dropPacket fun queues packet =>
    queues.commit packet fun content => Bytes.zeros content.length

/-- The network side takes out what was sent. -/
def drain (queues : SessionQueues) : SessionStep := do
  let drained ← Host.ask (MemoryDriver.drainOutbound adapterName)
  let expected := queues.drainable
  if drained ≠ expected.map (·.1) then
    return .error
      (.miscounted "drained packets" drained.length expected.length)
  else
    return .ok { queues with
      outbound := queues.outbound.drop expected.length }

/-- Carry out an operation on both sides. -/
def apply
    (session : SessionId)
    (queues : SessionQueues) : SessionOperation → SessionStep
  | .inject length fill => inject queues (packet length fill)
  | .receive => receive session queues
  | .releaseHeld pick => releaseHeld queues pick
  | .receiveInto length =>
      receiveInto session queues (length.toNat % 1600)
  | .send length fill => send session queues (packet length fill)
  | .allocate length fill => allocate session queues (packet length fill)
  | .sendHeld pick => sendHeld queues pick
  | .dropHeld pick => dropHeld queues pick
  | .drain => drain queues
  | .shutdown => do
      let _ ← Host.shutdown session
      return .ok { queues with isShutDown := true }

/-- Compare the counts of both sides. -/
def compare
    (session : SessionId)
    (queues : SessionQueues)
    (host : Host MemoryDriver) : Except Finding Unit := do
  let stats := ((host.sessions.get? session).map (·.stats)).getD {}
  expectCount "packets received" stats.packetsReceived.toNat queues.received
  expectCount "packets sent" stats.packetsSent.toNat queues.sent
  expectCount "full rings" stats.sendRingFull.toNat queues.ringFull
  expectCount "outstanding packets" host.driver.outstandingPackets
    queues.heldInbound.length

/-- Carry out an operation on both sides and compare them. -/
def step
    (session : SessionId)
    (operation : SessionOperation)
    (state : Host MemoryDriver × SessionQueues) :
    Except Finding (Host MemoryDriver × SessionQueues) := do
  let reply := apply session state.2 operation state.1
  let queues ← reply.value
  compare session queues reply.state
  return (reply.state, queues)

/-- A session with rings of a capacity, with its adapter. -/
def setUp (capacity : UInt32) :
    Action (Host MemoryDriver) (Outcome (Host.AdapterId × SessionId)) := do
  match ← Host.newManager { logger := .disabled } with
  | .error failure => return .error failure
  | .ok manager =>
      match ← Host.createAdapter manager { name := adapterName } with
      | .error failure => return .error failure
      | .ok adapter =>
          match ← Host.startSession adapter { ringCapacity := some capacity } with
          | .error failure => return .error failure
          | .ok session => return .ok (adapter, session)

/-- Let go of packets one after the other. -/
def dropAll : List PacketId → Action (Host MemoryDriver) Unit
  | [] => return ()
  | packet :: rest => do
      Host.dropPacket packet
      dropAll rest

/-- Let go of everything that the host holds. -/
def tearDown
    (adapter : Host.AdapterId)
    (session : SessionId)
    (queues : SessionQueues) : Action (Host MemoryDriver) Unit := do
  dropAll queues.heldInbound
  dropAll queues.heldOutbound
  let _ ← Host.endSession session
  Host.dropAdapter adapter

/-- At the end nothing was misused and the adapter is gone. -/
def compareEnd (driver : MemoryDriver) : Except Finding Unit := do
  expectCount "driver violations" driver.violations.length 0
  if driver.adapterExists adapterName then
    throw (.different "adapter after its last handle")

end SessionTrial

/-- Carry operations out on a session with rings of about a capacity and on
the queues beside it. -/
def trySession
    (asked : UInt32)
    (operations : List SessionOperation) : Except Disagreement Unit :=
  let capacity := capacityFor asked
  let start := SessionTrial.setUp capacity { driver := {} }
  match start.value with
  | .error failure => .error (.atSetUp (.refused "start" failure.message))
  | .ok (adapter, session) => do
      let (host, queues) ← runAll (SessionTrial.step session) 0 operations
        (start.state, { capacity := capacity.toNat })
      let finish := SessionTrial.tearDown adapter session queues host
      match SessionTrial.compareEnd finish.state.driver with
      | .error finding => throw (.atEnd finding)
      | .ok () => return ()

end Model
end VirtualAdapter

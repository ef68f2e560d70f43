import VirtualAdapter.Conformance.Scenario
import VirtualAdapter.Host.ReadPump

/-!
# Scenarios with a network side

These scenarios put packets in and look at what was sent.
-/

namespace VirtualAdapter
namespace Conformance

open Host
open Scenario
open Signal (Nanoseconds)

variable {State : Type} [Driver State] [Loopback State]

/-- Put a packet in. -/
def inject (name : String) (content : Bytes) : Scenario State Bool :=
  require (ask (Loopback.inject name content))

/-- Take out what was sent. -/
def drain (name : String) : Scenario State (List Bytes) :=
  require (ask (Loopback.drain name))

/-- Put packets in that all have to fit. -/
def injectAll (name : String) : List Bytes → Scenario State Unit
  | [] => return ()
  | content :: rest => do
      check (← inject name content) "inject failed"
      injectAll name rest

/-- The bytes of a packet that is held. -/
def contentOf (packet : PacketId) : Scenario State Bytes :=
  act (Action.inspect fun host =>
    ((host.packets.get? packet).map host.packetBytes).getD [])

/-- The description of a list. -/
def listText (texts : List String) : String :=
  "[" ++ String.intercalate ", " texts ++ "]"

/-- The description of a packet as a list of numbers. -/
def bytesText (content : Bytes) : String :=
  listText (content.map fun byte => toString byte.toNat)

/-- Send packets until the ring is full and answer how many fit. -/
def fillRing (session : SessionId) (content : Bytes) :
    (limit queued : Nat) → Scenario State Nat
  | 0, queued => return queued
  | limit + 1, queued => do
      match ← act (Host.trySend session content) with
      | .ok () => fillRing session content limit (queued + 1)
      | .error (.refused (.resourceExhausted _)) => return queued
      | .error failure => throw (.ofFailure failure)

/-- Send with an interrupt on the thread of the scenario. -/
def sendInterruptiblyNow
    (session : SessionId)
    (content : Bytes)
    (interrupt : EventHandle) : Scenario State (Outcome Unit) := do
  sent (← finish (.sendInterruptible
    (Host.sendInterruptible session content interrupt)))

/-- An interrupt ends a sender on a full ring, which keeps what it holds. -/
def sendInterruptible (capacity : UInt32) : Scenario State Unit := do
  let manager ← quietManager
  let name := adapterName "send-interrupt"
  let adapter ← adapter manager name
  let session ← require (startSmall capacity adapter)
  let interrupt ← require (ask Driver.newEvent)
  let content : Bytes := List.replicate 64 0x45
  let queued ← fillRing session content patience 0
  require (ask (Driver.setEvent interrupt))
  expectRefusal "send on full ring"
    (← sendInterruptiblyNow session content interrupt) (· = .interrupted)
  check ((← drain name).length == queued) "queued packets lost"
  require (ask (Driver.resetEvent interrupt))
  required (← sendInterruptiblyNow session content interrupt)
  check ((← drain name).length == 1) "send after reset not delivered"

/-- Receive packets one after the other, each as it was put in. -/
def receiveAll (session : SessionId) : List Bytes → Scenario State Unit
  | [] => return ()
  | expected :: rest => do
      let packet ← required
        (← receiveNow session none (some (milliseconds 1000)))
      let content ← contentOf packet
      check (content == expected)
        ("expected " ++ bytesText expected ++ ", got " ++ bytesText content)
      act (Host.finishPacket packet)
      receiveAll session rest

/-- Send packets one after the other. -/
def sendAll (session : SessionId) : List Bytes → Scenario State Unit
  | [] => return ()
  | content :: rest => do
      let call ← act (Host.send session content)
      required (← sent (← finish (.send call)))
      sendAll session rest

/-- The counters of a session. -/
def statsOf (session : SessionId) : Scenario State SessionStats := do
  return ((← act (session? session)).map (·.stats)).getD {}

/-- Packets go both ways in order and are counted. -/
def loopbackRoundTrip (capacity : UInt32) : Scenario State Unit := do
  let name := adapterName "round-trip"
  let manager ← quietManager
  let adapter ← adapter manager name
  let session ← require (startSmall capacity adapter)
  let inbound : List Bytes := [0, 1, 2].map fun number =>
    [0x45, number, number, number]
  injectAll name inbound
  receiveAll session inbound
  let outbound : List Bytes := [0, 1, 2].map fun number => [0x60, number]
  sendAll session outbound
  let drained ← drain name
  check (drained == outbound)
    ("peer saw " ++ listText (drained.map bytesText))
  let stats ← statsOf session
  check (stats.packetsReceived == 3 && stats.packetsSent == 3)
    ("unexpected stats " ++ stats.text)

/-- More buffers than any ring lends. -/
def mostBuffers : Nat := 0x100001

/-- Hold buffers until the ring is full. -/
def holdAll (session : SessionId) (size : Nat) :
    (limit : Nat) → List PacketId → Scenario State (List PacketId)
  | 0, _ => throw (.assertion "send ring never filled")
  | limit + 1, held => do
      match ← act (Host.allocateSend session size) with
      | .ok packet => holdAll session size limit (held ++ [packet])
      | .error (.refused (.resourceExhausted _)) => return held
      | .error failure => throw (.ofFailure failure)

/-- Fill buffers and send them one after the other. -/
def sendHeld (content : Bytes) : List PacketId → Scenario State Unit
  | [] => return ()
  | packet :: rest => do
      act (Host.withPacket packet fun held session => do
        Host.writePacket held 0 content
        Host.commitPacket packet held session)
      sendHeld content rest

/-- A ring takes as many buffers as it takes and then says that it is full;
the answer is their number. -/
def sendRingExhaustion (capacity : UInt32) : Scenario State Nat := do
  let name := adapterName "exhaustion"
  let manager ← quietManager
  let adapter ← adapter manager name
  let session ← require (startSmall capacity adapter)
  let first ← require (Host.allocateSend session 100)
  act (Host.finishPacket first)
  let held ← holdAll session 100 mostBuffers []
  let count := held.length + 1
  sendHeld (List.replicate 100 0x45) held
  let drained := (← drain name).length
  check (drained == count) s!"peer saw {drained} of {count} packets"
  check ((← statsOf session).sendRingFull == 1) "ring-full count not recorded"
  return count

/-- Every received packet is given back once, however it is consumed. -/
def packetsReleasedExactlyOnce (capacity : UInt32) : Scenario State Unit := do
  let name := adapterName "release"
  let manager ← quietManager
  let adapter ← adapter manager name
  let session ← require (startSmall capacity adapter)
  injectAll name ([0, 1, 2].map fun number => List.replicate 32 number)
  let first ← require (Host.tryReceive session)
  let second ← require (Host.tryReceive session)
  check ((← require (ask Loopback.outstanding)) == 2)
    "expected two held packets"
  act (Host.finishPacket second)
  act (Host.dropPacket first)
  let copied ← act (Host.tryReceiveInto session (Bytes.zeros 8))
  expectRefusal "short recv_into" copied.outcome isInvalidArgument
  check ((← require (ask Loopback.outstanding)) == 0) "packet leaked"
  require (Host.endSession session)
  check ((← require (ask Loopback.violations)) == 0)
    "driver saw a double or unknown release"

/-- Let a pump run until it sleeps or is over, at most for a number of steps. -/
def runPump (limit : Nat) (pump : ReadPump) : Scenario State ReadPump := do
  match ← act (proceed (ReadPump.step fun _ => return .ok ()) limit pump) with
  | .running pump | .asleep pump _ | .finished pump => return pump

/-- The steps that a pump takes in a millisecond. -/
def pumpSteps : Nat := 1000

/-- Put a packet in as soon as the ring has room, up to a deadline. -/
def injectPatiently
    (name : String)
    (content : Bytes)
    (deadline : Nanoseconds) :
    (limit : Nat) → ReadPump → Scenario State ReadPump
  | 0, _ => throw (.assertion "ring never drained")
  | limit + 1, pump => do
      if ← inject name content then runPump pumpSteps pump
      else
        check ((← act now) < deadline) "ring never drained"
        rest (milliseconds 1)
        injectPatiently name content deadline limit (← runPump pumpSteps pump)

/-- How long a scenario waits for its reader, in milliseconds. -/
def readerPatience : Nat := 5000

/-- Put packets in one after the other while a pump takes them out. -/
def feedPump (name : String) :
    List Bytes → ReadPump → Scenario State ReadPump
  | [], pump => return pump
  | content :: rest, pump => do
      let deadline := (← act now) + milliseconds readerPatience
      feedPump name rest
        (← injectPatiently name content deadline (readerPatience + 1) pump)

/-- Let a pump run until it has seen a number of packets, at most for a number
of milliseconds. -/
def awaitPump (total : Nat) :
    (limit : Nat) → ReadPump → Scenario State ReadPump
  | 0, pump => return pump
  | limit + 1, pump => do
      if total ≤ pump.seen.length then return pump
      else
        rest (milliseconds 1)
        awaitPump total limit (← runPump pumpSteps pump)

/-- Do something while a pump runs; if it fails, the pump is let go of, which
shuts its session down. -/
def orShutDown
    {Value : Type}
    (session : SessionId)
    (scenario : Scenario State Value) : Scenario State Value :=
  tryCatch scenario fun failure => do
    require (Host.shutdown session)
    throw failure

/-- A pump takes everything out in order and stops at the shutdown. -/
def readerDrainsRing (capacity : UInt32) : Scenario State Unit := do
  let name := adapterName "reader"
  let manager ← quietManager
  let adapter ← adapter manager name
  let session ← require (startSmall capacity adapter)
  let total := 20
  let numbers : List UInt8 := (List.range total).map UInt8.ofNat
  let pump ← runPump pumpSteps (.ofSession session)
  let pump ← orShutDown session
    (feedPump name (numbers.map fun number => [number]) pump)
  let pump ← awaitPump total readerPatience pump
  require (Host.shutdown session)
  let pump ← runPump patience pump
  require (Host.endSession session)
  let delivered ← match pump.result? with
    | some outcome => required outcome
    | none => throw (.setUp "reader never stopped")
  check (delivered == total) s!"reader delivered {delivered} of {total}"
  let seen := pump.seen.filterMap List.head?
  check (seen == numbers) ("out of order: " ++ bytesText seen)

/-- A device that is taken away ends sleeping and later calls for good. -/
def driverEofIsTerminal (capacity : UInt32) : Scenario State Unit := do
  let name := adapterName "eof"
  let manager ← quietManager
  let adapter ← adapter manager name
  let session ← require (startSmall capacity adapter)
  let waiter ← receiveElsewhere session none (some (milliseconds 5000))
  rest (milliseconds 20)
  beside waiter session do
    check (← require (ask (Loopback.fail name))) "no session to fail"
  expectRefusal "blocked receive" (← join waiter) (·.isTerminal)
  expectRefusal "send after eof" (← act (Host.trySend session [1]))
    (·.isTerminal)

end Conformance
end VirtualAdapter

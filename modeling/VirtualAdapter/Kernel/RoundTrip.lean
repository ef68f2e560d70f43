import VirtualAdapter.Host.Blocking
import VirtualAdapter.Host.Manager
import VirtualAdapter.Kernel.Binding

/-!
# A round trip through the kernel driver

One adapter with one session, from the manager's making to its end: a packet
is sent, one is looked for, and closing and deleting are tried while the
session runs.
-/

namespace VirtualAdapter
namespace Kernel

open Host

/-- What a round trip is asked to do. -/
structure RoundTrip where
  /-- The name of the adapter. -/
  name : String
  /-- The capacity of the rings, if one is asked for. -/
  capacity : Option UInt32
  /-- The packet that is sent. -/
  content : Bytes
  /-- The length of the buffer for a received packet. -/
  bufferLength : Nat

/-- What a step of a round trip came to. -/
inductive RoundTripAnswer
  | luid (luid : Luid)
  | did (outcome : Outcome Unit)
  | readable (outcome : Outcome Bool)
  | copied (copied : Copied)
  | stats (stats : SessionStats)

namespace RoundTrip

/-- The tag of the receiver of the driver's records. -/
def tag : String := "F"

/-- A call that cannot block for ever. -/
def finish (call : Blocking) : Action (Host Machine) (Option BlockingResult) :=
  call.toEnd

/-- Send the packet. -/
def send (trip : RoundTrip) (session : SessionId) :
    Action (Host Machine) RoundTripAnswer := do
  match ← finish (.send (← Host.send session trip.content)) with
  | some (.sent outcome) => return .did outcome
  | _ => return .did (refuse .sessionEnded)

/-- Wait for a packet without an end. -/
def waitReadable (session : SessionId) :
    Action (Host Machine) RoundTripAnswer := do
  match ← finish (.wait (← Host.waitReadable session none none)) with
  | some (.readable outcome) => return .readable outcome
  | _ => return .readable (refuse .sessionEnded)

/-- Use a session and end it. -/
def useSession
    (trip : RoundTrip)
    (manager : ManagerId)
    (adapter : AdapterId)
    (session : SessionId) : Action (Host Machine) (List RoundTripAnswer) := do
  let sent ← trip.send session
  let before ← waitReadable session
  let copied ← Host.tryReceiveInto session (Bytes.zeros trip.bufferLength)
  let stats := ((← session? session).map (·.stats)).getD {}
  let closed ← Host.closeAdapter adapter
  let deleted ← Host.deleteDriver manager
  let _ ← Host.shutdown session
  let after ← waitReadable session
  let _ ← Host.endSession session
  return [sent, before, .copied copied, .stats stats, .did closed, .did deleted,
    after]

/-- Use an adapter and let go of it. -/
def useAdapter
    (trip : RoundTrip)
    (manager : ManagerId)
    (adapter : AdapterId) : Action (Host Machine) (List RoundTripAnswer) := do
  match ← adapter? adapter with
  | none => return []
  | some entry =>
      let luid ← Host.adapterLuid entry.handle
      let config : SessionConfig :=
        { ringCapacity := trip.capacity, sendRetries := 2, sendBackoff := 0 }
      match ← Host.startSession adapter config with
      | .error failure =>
          Host.dropAdapter adapter
          return [.luid luid, .did (.error failure)]
      | .ok session =>
          return .luid luid :: (← trip.useSession manager adapter session)

/-- Make a round trip with a manager that removes the driver at its end. -/
def run (trip : RoundTrip) : Action (Host Machine) (List RoundTripAnswer) := do
  match ← Host.newManager { logger := .custom tag, deleteOnDrop := true } with
  | .error failure => return [.did (.error failure)]
  | .ok manager =>
      let answers ←
        match ← Host.createAdapter manager { name := trip.name } with
        | .error failure => pure [.did (.error failure)]
        | .ok adapter => trip.useAdapter manager adapter
      Host.dropManager manager
      return answers

/-- Make a round trip on a machine. -/
def onMachine (trip : RoundTrip) : Action Machine (List RoundTripAnswer) :=
  fun machine =>
    let reply := trip.run { driver := machine }
    ⟨reply.value, reply.state.driver, reply.notes⟩

end RoundTrip
end Kernel
end VirtualAdapter

import VirtualAdapter.Bench.HostBench.Basic

/-!
# A bench for the host side: managers, adapters and sessions

A name that is bound anew lets go of what it was bound to.
-/

namespace VirtualAdapter
namespace Bench
namespace HostBench

open Host

/-- Let go of what a name was bound to. -/
def replaced
    (old : Option Nat)
    (drop : Nat → Action (Host BenchDriver) Unit) : Action HostBench Unit :=
  match old with
  | none => return ()
  | some number => onHost (drop number)

/-- Bind a new manager. -/
def newManager (id : String) (config : ManagerConfig) :
    Action HostBench HostAnswer := do
  let old ← Action.inspect fun bench => bench.managers.get? id
  conclude (← onHost (Host.newManager config)) fun manager => do
    Action.change fun bench =>
      { bench with managers := bench.managers.insert id manager }
    replaced old Host.dropManager
    return .done

/-- Drop a manager. -/
def dropManager (name : String) : Action HostBench HostAnswer :=
  bound (·.managers) name fun manager => do
    onHost (Host.dropManager manager)
    Action.change fun bench =>
      { bench with managers := bench.managers.erase name }
    return .done

/-- Bind an adapter and show its handle. -/
def bindAdapter (id : String) (outcome : Outcome AdapterId) :
    Action HostBench HostAnswer :=
  conclude outcome fun adapter => do
    let old ← Action.inspect fun bench => bench.adapters.get? id
    Action.change fun bench =>
      { bench with adapters := bench.adapters.insert id adapter }
    replaced old Host.dropAdapter
    known (·.adapters) adapter fun entry =>
      Action.inspect fun bench =>
        .text (Driver.adapterText bench.host.driver entry.handle)

/-- Show an adapter. -/
def viewAdapter (name : String) : Action HostBench HostAnswer :=
  bound (·.adapters) name fun id =>
    known (·.adapters) id fun adapter => do
      let luid ← onHost (Host.adapterLuid adapter.handle)
      let text ← Action.inspect fun bench => bench.host.adapterText adapter
      return .adapter
        { name := adapter.name, luid, isActive := adapter.sessionActive, text }

/-- Let go of an adapter; its name is not bound any more in any case. -/
def releaseAdapter
    (name : String)
    (release : AdapterId → Action (Host BenchDriver) (Outcome Unit)) :
    Action HostBench HostAnswer :=
  bound (·.adapters) name fun adapter => do
    let outcome ← onHost (release adapter)
    Action.change fun bench =>
      { bench with adapters := bench.adapters.erase name }
    return report outcome

/-- Bind a new session and show its handle and capacity. -/
def start (id name : String) (config : SessionConfig) :
    Action HostBench HostAnswer :=
  bound (·.adapters) name fun adapter => do
    conclude (← onHost (Host.startSession adapter config)) fun session => do
      Action.change fun bench =>
        { bench with sessions := bench.sessions.insert id session }
      known (·.sessions) session fun entry =>
        Action.inspect fun bench =>
          .started (Driver.sessionText bench.host.driver entry.handle)
            entry.capacity

/-- Show a session. -/
def viewSession (name : String) : Action HostBench HostAnswer :=
  bound (·.sessions) name fun id =>
    known (·.sessions) id fun session =>
      known (·.adapters) session.adapter fun adapter => do
        let luid ← onHost (Host.adapterLuid adapter.handle)
        let isShutDown ← onHost (Host.isShutDown session)
        let isReadable ← onHost (Host.isReadable session)
        let text ← Action.inspect fun bench =>
          bench.host.sessionText session isShutDown
        return .session
          { capacity := session.capacity, name := adapter.name, luid
            stats := session.stats, isShutDown, isReadable, text
            config := session.config }

/-- The borrowed packets of a session, in the order of their names. -/
def packetsOf (bench : HostBench) (session : SessionId) :
    List (String × PacketId) :=
  (inOrder bench.packets).filter fun entry =>
    ((bench.host.packets.get? entry.2).map (·.session)) == some session

/-- Drop a borrowed packet. -/
def dropNamed (entry : String × PacketId) : Action HostBench Unit := do
  onHost (Host.dropPacket entry.2)
  Action.change fun bench =>
    { bench with packets := bench.packets.erase entry.1 }

/-- Drop the packets of a session and end it. -/
def endWithPackets (session : SessionId) : Action HostBench (Outcome Unit) := do
  let bench ← Action.current
  forEach dropNamed (bench.packetsOf session)
  onHost (Host.endSession session)

/-- End a session that nothing else uses. -/
def finish (name : String) : Action HostBench HostAnswer :=
  bound (·.sessions) name fun session => do
    let bench ← Action.current
    if bench.isShared session then return .busy
    else
      let outcome ← endWithPackets session
      Action.change fun bench =>
        { bench with sessions := bench.sessions.erase name }
      return report outcome

/-- Packets or abandoned waits keep a session. -/
def isKept (bench : HostBench) (session : SessionId) : Bool :=
  (bench.host.packets.values.any fun packet => packet.session == session) ||
    bench.abandoned.any fun call => call.terms.session == session

/-- Somebody still needs a session. -/
def isReferred (bench : HostBench) (session : SessionId) : Bool :=
  bench.sessions.values.contains session || bench.isShared session ||
    bench.isKept session

/-- End a session and leave it at that. -/
def letSessionEnd (session : SessionId) : Action HostBench Unit := do
  let _ ← onHost (Host.endSession session)

/-- End the sessions that nothing refers to any more. -/
def endUnreferred : Action HostBench Unit := do
  let bench ← Action.current
  forEach letSessionEnd
    (bench.host.sessions.keys.filter fun session => !bench.isReferred session)

end HostBench
end Bench
end VirtualAdapter

import VirtualAdapter.Host.State
import VirtualAdapter.Text.Quoted

/-!
# Adapters

An adapter is given back to the driver when its caller has dropped it and no
session holds it any more, so never under a session that was started on it.
-/

namespace VirtualAdapter
namespace Host

variable {State : Type} [Driver State]

/-- Count and keep an adapter that the driver has opened. -/
def adopt
    (manager : ManagerId)
    (handle : AdapterHandle)
    (name : String) : Action (Host State) AdapterId := do
  let id ← freshNumber
  changeManager manager fun entry =>
    { entry with openAdapters := entry.openAdapters + 1 }
  Action.change fun host =>
    { host with adapters := host.adapters.insert id { manager, handle, name } }
  return id

/-- Some session holds the adapter. -/
def isUsed (host : Host State) (id : AdapterId) : Bool :=
  host.sessions.values.any fun session => session.adapter = id

/-- Give an adapter back to the driver. -/
def giveBack
    (id : AdapterId)
    (adapter : Adapter) : Action (Host State) Unit := do
  ask (Driver.closeAdapter adapter.handle)
  changeManager adapter.manager fun entry =>
    { entry with openAdapters := entry.openAdapters - 1 }
  Action.change fun host => { host with adapters := host.adapters.erase id }
  Action.trace .debug "closed adapter" [("name", adapter.name)]

/-- Give an adapter back if neither its caller nor a session holds it. -/
def giveBackUnheld (id : AdapterId) : Action (Host State) Unit := do
  let host ← Action.current
  match host.adapters.get? id with
  | none => return ()
  | some adapter =>
      if adapter.held || host.isUsed id then return ()
      else giveBack id adapter

/-- The caller lets go of an adapter. -/
def dropAdapter (id : AdapterId) : Action (Host State) Unit := do
  changeAdapter id fun adapter => { adapter with held := false }
  giveBackUnheld id

/-- Let go of an adapter and say whether a session was active on it. -/
def closeAdapter (id : AdapterId) : Action (Host State) (Outcome Unit) := do
  match ← adapter? id with
  | none => return refuse adapterClosed
  | some adapter =>
      if adapter.sessionActive then
        Action.trace .warn "adapter closed with an active session"
          [("name", adapter.name)]
        dropAdapter id
        return refuse
          (.contractViolation "adapter closed while a session is active")
      else
        dropAdapter id
        return .ok ()

/-- The interface identifier of an adapter. -/
def adapterLuid (handle : AdapterHandle) : Action (Host State) Luid :=
  ask (Driver.adapterLuid handle)

/-- The description of an adapter. -/
def adapterText (host : Host State) (adapter : Adapter) : String :=
  Text.describeFields "Adapter"
    [("name", Text.quoted adapter.name),
      ("handle", Driver.adapterText host.driver adapter.handle),
      ("session_active", Text.truth adapter.sessionActive)]

end Host
end VirtualAdapter

import VirtualAdapter.Proofs.Host.Berths
import VirtualAdapter.Proofs.Host.Steps

/-!
# Threads that use one manager

Any number of threads start and end sessions on the adapters of one manager over
its own in-memory driver, and remove the driver.  What they do goes on in single
steps, in any order; adapters are opened and closed in between.
-/

namespace VirtualAdapter
namespace Host

open Memory (MemoryDriver RunningSession)

/-- The name of a thread. -/
abbrev ThreadId := Nat

namespace StartPhase

/-- The phase, unless the start is over. -/
def going? : StartPhase → Option StartPhase
  | finished _ => none
  | phase => some phase

/-- The name is claimed and was not released. -/
def claims : StartPhase → Bool
  | starting | obtainingEvent _ | makingEvent _ _ | counting _ _ _
  | ending _ _ | releasingName _ => true
  | claimingFlag | claimingName | returningFlag | releasingFlag _
  | finished _ => false

/-- The driver's session that was started and not ended. -/
def runs : StartPhase → Option SessionHandle
  | obtainingEvent handle | makingEvent handle _ | counting handle _ _
  | ending handle _ => some handle
  | claimingFlag | claimingName | returningFlag | starting | releasingName _
  | releasingFlag _ | finished _ => none

end StartPhase

namespace FinishPhase

/-- The phase, unless the end is over. -/
def going? : FinishPhase → Option FinishPhase
  | finished _ => none
  | phase => some phase

/-- The name was not released yet. -/
def claims : FinishPhase → Bool
  | signalling | ending | releasingName => true
  | releasingFlag | uncounting | lettingGo | finished _ => false

/-- The session was not taken out of the count yet. -/
def isCounted : FinishPhase → Bool
  | signalling | ending | releasingName | releasingFlag | uncounting => true
  | lettingGo | finished _ => false

/-- The driver's session was not ended yet. -/
def isRunning : FinishPhase → Bool
  | signalling | ending => true
  | releasingName | releasingFlag | uncounting | lettingGo | finished _ => false

end FinishPhase

namespace Deletion

/-- The phase, unless the removal is over. -/
def going? : Deletion → Option Deletion
  | finished _ => none
  | phase => some phase

end Deletion

/-- Who can hold a name: a thread that starts a session, or a session. -/
inductive Party
  | start (thread : ThreadId)
  | session (id : SessionId)
  deriving DecidableEq

/-- A manager with the starts, ends and removals that are on their way. -/
structure Crowd where
  /-- The manager. -/
  manager : ManagerId
  /-- The host. -/
  host : Host MemoryDriver
  /-- The starts on their way, by thread. -/
  starts : Table ThreadId (Start × StartPhase) := ∅
  /-- The ends on their way, by session. -/
  ends : Table SessionId FinishPhase := ∅
  /-- The removals of the driver on their way, by thread. -/
  removals : Table ThreadId Deletion := ∅

namespace Crowd

/-- What one thread does next. -/
inductive Move
  /-- Create an adapter. -/
  | create (config : AdapterConfig)
  /-- Open the adapter of a name once more. -/
  | openNamed (name : String)
  /-- Close an adapter. -/
  | close (adapter : AdapterId)
  /-- Drop an adapter. -/
  | drop (adapter : AdapterId)
  /-- Begin to start a session. -/
  | beginStart (thread : ThreadId) (adapter : AdapterId) (config : SessionConfig)
  /-- Take the next step of a start. -/
  | stepStart (thread : ThreadId)
  /-- Begin to end a session. -/
  | beginEnd (session : SessionId)
  /-- Take the next step of an end. -/
  | stepEnd (session : SessionId)
  /-- Begin to remove the driver. -/
  | beginRemoval (thread : ThreadId)
  /-- Take the next step of a removal. -/
  | stepRemoval (thread : ThreadId)

/-- A new manager over a driver from which nothing was obtained. -/
def opened
    (config : ManagerConfig)
    (version : DriverVersion)
    (slotBudget : Option Nat) : Crowd where
  manager := 1
  host := (newManager config (untouched version slotBudget)).state

/-- The caller holds the adapter. -/
def isHeld (crowd : Crowd) (id : AdapterId) : Bool :=
  (crowd.host.adapters.get? id).any (·.held)

/-- The caller can let go of the adapter: it holds it, and no thread starts a
session on it. -/
def isFree (crowd : Crowd) (id : AdapterId) : Bool :=
  crowd.isHeld id && crowd.starts.values.all (·.1.adapter ≠ id)

/-- Put a host and a start in another state. -/
def withStart
    (crowd : Crowd)
    (thread : ThreadId)
    (start : Start)
    (phase : StartPhase)
    (host : Host MemoryDriver) : Crowd :=
  { crowd with
    host
    starts := crowd.starts.assign thread (phase.going?.map (start, ·)) }

/-- Put a host and an end in another state. -/
def withEnd
    (crowd : Crowd)
    (id : SessionId)
    (phase : FinishPhase)
    (host : Host MemoryDriver) : Crowd :=
  { crowd with host, ends := crowd.ends.assign id phase.going? }

/-- Put a host and a removal in another state. -/
def withRemoval
    (crowd : Crowd)
    (thread : ThreadId)
    (phase : Deletion)
    (host : Host MemoryDriver) : Crowd :=
  { crowd with host, removals := crowd.removals.assign thread phase.going? }

/-- Do what a thread does next; what borrows do not allow does nothing. -/
def play (crowd : Crowd) : Move → Crowd
  | .create config =>
      { crowd with
        host := (createAdapter crowd.manager config crowd.host).state }
  | .openNamed name =>
      { crowd with host := (openAdapter crowd.manager name crowd.host).state }
  | .close id =>
      if crowd.isFree id then
        { crowd with host := (closeAdapter id crowd.host).state }
      else crowd
  | .drop id =>
      if crowd.isFree id then
        { crowd with host := (dropAdapter id crowd.host).state }
      else crowd
  | .beginStart thread adapter config =>
      match Start.capacity? (Driver.capacityBounds crowd.host.driver) config with
      | .error _ => crowd
      | .ok capacity =>
          if crowd.isHeld adapter && !crowd.starts.contains thread then
            crowd.withStart thread { adapter, config, capacity } .claimingFlag
              crowd.host
          else crowd
  | .stepStart thread =>
      match crowd.starts.get? thread with
      | none => crowd
      | some (start, phase) =>
          let reply := start.step phase crowd.host
          crowd.withStart thread start reply.value reply.state
  | .beginEnd id =>
      if (crowd.host.sessions.get? id).isSome && !crowd.ends.contains id then
        crowd.withEnd id .signalling crowd.host
      else crowd
  | .stepEnd id =>
      match crowd.ends.get? id with
      | none => crowd
      | some phase =>
          let reply := Finish.step id phase crowd.host
          crowd.withEnd id reply.value reply.state
  | .beginRemoval thread =>
      if crowd.removals.contains thread then crowd
      else crowd.withRemoval thread .counting crowd.host
  | .stepRemoval thread =>
      match crowd.removals.get? thread with
      | none => crowd
      | some phase =>
          let reply := phase.step crowd.manager crowd.host
          crowd.withRemoval thread reply.value reply.state

/-- Do what threads do, one after the other. -/
def playAll (crowd : Crowd) (moves : List Move) : Crowd :=
  moves.foldl play crowd

/-! ## Stakes -/

/-- The stake of a start. -/
def stakeOf (start : Start) (phase : StartPhase) : Stake :=
  ⟨start.adapter, phase.claims, phase.runs⟩

/-- The stake of a session whose end has come so far. -/
def stakeIn (session : Session) (phase : FinishPhase) : Stake :=
  ⟨session.adapter, phase.claims,
    if phase.isRunning then some session.handle else none⟩

/-- How far the end of a session has come; one that was not begun is about to
signal. -/
def finishing (crowd : Crowd) (id : SessionId) : FinishPhase :=
  (crowd.ends.get? id).getD .signalling

/-- The number of sessions that were not taken out of the count. -/
def counted (crowd : Crowd) : Nat :=
  crowd.host.sessions.keys.countP fun id => (crowd.finishing id).isCounted

/-- What a start or a session has to do with names and with the driver. -/
def stake? (crowd : Crowd) : Party → Option Stake
  | .start thread =>
      (crowd.starts.get? thread).map fun (start, phase) => stakeOf start phase
  | .session id =>
      (crowd.host.sessions.get? id).map fun session =>
        stakeIn session (crowd.finishing id)

/-- Who has claimed what, and who runs what. -/
def berths (crowd : Crowd) : Berths Party where
  stake? := crowd.stake?
  key? := crowd.host.key?
  device? := crowd.host.device?
  claimed := crowd.host.claimedAt crowd.manager
  runs? := crowd.host.runs?

end Crowd
end Host
end VirtualAdapter

import VirtualAdapter.Host.Start

/-!
# Ending sessions

An end signals the shutdown, ends the session at the driver, releases the name
and the flag, takes the session out of the count, and lets go of the adapter,
which is given back now if its caller has dropped it before.  Each step is
atomic.  An end that breaks off while it signals still lets go of the adapter,
but the driver's session stays.
-/

namespace VirtualAdapter
namespace Host

variable {State : Type} [Driver State]

/-- Signal the shutdown of a session; from then on it refuses every call.  A
signal that is refused is only noted. -/
def shutdown (id : SessionId) : Action (Host State) (Outcome Unit) := do
  match ← session? id with
  | none => return .ok ()
  | some session =>
      match ← ask (Driver.setEvent session.shutdownEvent) with
      | .error (.refused error) =>
          Action.trace .warn "failed to signal session shutdown"
            [("error", error.message)]
          return .ok ()
      | outcome => return outcome

/-- Forget a session that somebody else keeps for good. -/
def forgetSession (id : SessionId) : Action (Host State) Unit :=
  Action.change fun host => { host with sessions := host.sessions.erase id }

/-- Where an end is. -/
inductive FinishPhase
  /-- The shutdown is about to be signalled. -/
  | signalling
  /-- The driver is about to end the session. -/
  | ending
  /-- The name is about to be released. -/
  | releasingName
  /-- The flag is about to be released. -/
  | releasingFlag
  /-- The session is about to be taken out of the count. -/
  | uncounting
  /-- The adapter and the shutdown event are about to be let go of. -/
  | lettingGo
  /-- The end is over. -/
  | finished (outcome : Outcome Unit)

/-- What an end has come to so far. -/
def FinishPhase.outcome : FinishPhase → Outcome Unit
  | finished outcome => outcome
  | _ => .ok ()

namespace Finish

/-- Let go of the adapter and the shutdown event of a session. -/
def letGo (id : SessionId) (session : Session) : Action (Host State) Unit := do
  forgetSession id
  giveBackUnheld session.adapter
  ask (Driver.dropEvent session.shutdownEvent)

/-- One step of an end on an adapter that is open. -/
def advance
    (id : SessionId)
    (session : Session)
    (adapter : Adapter) : FinishPhase → Action (Host State) FinishPhase
  | .signalling => do
      match ← shutdown id with
      | .ok () => return .ending
      | .error failure =>
          letGo id session
          return .finished (.error failure)
  | .ending => do
      ask (Driver.endSession session.handle)
      return .releasingName
  | .releasingName => do
      Start.releaseName adapter
      return .releasingFlag
  | .releasingFlag => do
      Start.releaseFlag session.adapter
      return .uncounting
  | .uncounting => do
      changeManager adapter.manager fun entry =>
        { entry with activeSessions := entry.activeSessions - 1 }
      Action.trace .debug "ended session" [("adapter", adapter.name)]
      return .lettingGo
  | .lettingGo => do
      letGo id session
      return .finished (.ok ())
  | .finished outcome => return .finished outcome

/-- One step of an end. -/
def step
    (id : SessionId)
    (phase : FinishPhase) : Action (Host State) FinishPhase := do
  match ← session? id with
  | none => return .finished phase.outcome
  | some session =>
      match ← adapter? session.adapter with
      | none => return .finished phase.outcome
      | some adapter => advance id session adapter phase

/-- Take a number of steps. -/
def steps
    (id : SessionId) : (count : Nat) → FinishPhase → Action (Host State) FinishPhase
  | 0, phase => return phase
  | count + 1, phase => do
      steps id count (← step id phase)

/-- The number of steps of an end. -/
def longest : Nat := 6

end Finish

/-- End a session. -/
def endSession (id : SessionId) : Action (Host State) (Outcome Unit) := do
  return (← Finish.steps id Finish.longest .signalling).outcome

end Host
end VirtualAdapter

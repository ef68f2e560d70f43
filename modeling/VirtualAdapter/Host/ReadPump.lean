import VirtualAdapter.Host.WaitReadable

/-!
# Reader pumps

A pump waits for packets and hands each one to its handler, until the session
is over or a call fails.  It is a thread of its own and keeps what it handed
on.
-/

namespace VirtualAdapter
namespace Host

open Signal (Wait)

variable {State : Type} [Driver State]

/-- What a pump calls for each packet; a failure breaks the pump off. -/
abbrev Handler (State : Type) := Bytes → Action (Host State) (Outcome Unit)

/-- How a pump ended. -/
inductive PumpEnd
  /-- Its loop was left. -/
  | stopped
  /-- It broke off. -/
  | brokenOff
  deriving DecidableEq

/-- Where a pump is. -/
inductive PumpPhase
  /-- It waits for packets. -/
  | waiting (call : WaitReadable)
  /-- It is about to take the next packet. -/
  | taking
  /-- It is about to hand a packet on. -/
  | handing (packet : PacketId)
  /-- It is over. -/
  | finished (how : PumpEnd)

/-- A pump on its way. -/
structure ReadPump where
  /-- The session. -/
  session : SessionId
  /-- What the handler was given, first packets first. -/
  seen : List Bytes := []
  /-- How many calls of the handler came back.  They are no more than the packets
  that were put in, so it is below 2^64 as long as these are. -/
  delivered : Nat := 0
  /-- Where it is. -/
  phase : PumpPhase

namespace ReadPump

/-- A pump before its first wait. -/
def ofSession (session : SessionId) : ReadPump where
  session
  phase := .waiting { terms := { session } }

/-- The pump waits anew. -/
def waitAgain (pump : ReadPump) : ReadPump :=
  { pump with phase := .waiting { terms := { session := pump.session } } }

/-- The pump leaves its loop; unless the session is over, that is a failure. -/
def leave
    (pump : ReadPump)
    (failure : Failure) : Action (Host State) ReadPump := do
  match failure with
  | .crashed _ => return { pump with phase := .finished .brokenOff }
  | .refused error =>
      if !error.isTerminal then
        Action.trace .warn "reader failed" [("error", error.message)]
      let host ← Action.current
      let name := ((host.sessions.get? pump.session).map host.sessionName).getD ""
      Action.trace .debug "reader stopped"
        [("adapter", name), ("delivered", toString pump.delivered)]
      return { pump with phase := .finished .stopped }

/-- Hand a packet on and give it back. -/
def hand
    (handler : Handler State)
    (pump : ReadPump)
    (packet : PacketId) : Action (Host State) ReadPump := do
  match ← packet? packet with
  | none => return { pump with phase := .taking }
  | some held =>
      let content ← Action.inspect fun host => host.packetBytes held
      let outcome ← handler content
      finishPacket packet
      let pump := { pump with seen := pump.seen ++ [content] }
      match outcome with
      | .ok () =>
          return { pump with
            delivered := pump.delivered + 1, phase := .taking }
      | .error _ => return { pump with phase := .finished .brokenOff }

/-- One step of a pump. -/
def step
    (handler : Handler State)
    (pump : ReadPump) : Action (Host State) (Progress ReadPump ReadPump) := do
  match pump.phase with
  | .finished _ => return .finished pump
  | .waiting call =>
      match ← call.step with
      | .running next => return .running { pump with phase := .waiting next }
      | .asleep next moment =>
          return .asleep { pump with phase := .waiting next } moment
      | .finished (.ok _) => return .running { pump with phase := .taking }
      | .finished (.error failure) => return .running (← pump.leave failure)
  | .taking =>
      match ← tryReceive pump.session with
      | .ok packet => return .running { pump with phase := .handing packet }
      | .error (.refused .wouldBlock) => return .running pump.waitAgain
      | .error failure => return .running (← pump.leave failure)
  | .handing packet => return .running (← pump.hand handler packet)

/-- The pump is over. -/
def isFinished (pump : ReadPump) : Bool :=
  match pump.phase with
  | .finished _ => true
  | _ => false

/-- What a pump that is over delivered. -/
def result? (pump : ReadPump) : Option (Outcome Nat) :=
  match pump.phase with
  | .finished .stopped => some (.ok pump.delivered)
  | .finished .brokenOff =>
      some (refuse (.contractViolation "packet handler panicked"))
  | _ => none

end ReadPump
end Host
end VirtualAdapter

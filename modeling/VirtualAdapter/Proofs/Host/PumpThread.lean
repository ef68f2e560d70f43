import VirtualAdapter.Host.ReadPump
import VirtualAdapter.Proofs.Action

/-!
# Pumps between two accesses

A step of a pump looks at the shutdown, asks the driver and counts, or calls
the handler and gives the packet back.  A thread that pumps can be interrupted
between any two of these.  Left alone in between, it does what the pump does in
one step.
-/

namespace VirtualAdapter
namespace Host

open VirtualAdapter.Action (bind_apply pure_apply)

/-- How far a thread has come within a step of its pump. -/
inductive Midway
  /-- No step is under way. -/
  | between
  /-- The session was found open; the driver is about to be asked. -/
  | receiving
  /-- The driver has lent a packet, which is about to be counted. -/
  | received (raw : RawPacket)
  /-- The handler came back; the packet is about to be given back. -/
  | handled (packet : PacketId) (content : Bytes) (outcome : Outcome Unit)

/-- A thread that pumps. -/
structure PumpThread where
  /-- The pump as the last whole step has left it. -/
  pump : ReadPump
  /-- How far the next step has come. -/
  midway : Midway := .between

namespace PumpThread

/-- The contents that the handler was called with, first ones first. -/
def seen (thread : PumpThread) : List Bytes :=
  match thread.midway with
  | .handled _ content _ => thread.pump.seen ++ [content]
  | _ => thread.pump.seen

/-- A thread between two steps of its pump. -/
def ofPump (pump : ReadPump) : PumpThread := { pump }

variable {State : Type} [Driver State]

/-- Look whether the session is open. -/
def check (pump : ReadPump) : Action (Host State) PumpThread := do
  match ← whileOpen pump.session fun _ => return .ok () with
  | .ok () => return { pump, midway := .receiving }
  | .error failure => return { pump := ← pump.leave failure }

/-- Ask the driver for the next packet. -/
def receive (pump : ReadPump) : Action (Host State) PumpThread := do
  match ← session? pump.session with
  | none => return { pump := ← pump.leave (.refused .sessionEnded) }
  | some session =>
      match ← ask (Driver.receivePacket session.handle) with
      | .ok raw => return { pump, midway := .received raw }
      | .error (.refused .wouldBlock) => return { pump := pump.waitAgain }
      | .error failure => return { pump := ← pump.leave failure }

/-- Count a packet and hold it. -/
def hold (pump : ReadPump) (raw : RawPacket) :
    Action (Host State) PumpThread := do
  count pump.session (·.recordReceived raw.length)
  Action.trace .trace "received packet" [("len", toString raw.length)]
  let packet ← keepPacket pump.session .inbound raw
  return { pump := { pump with phase := .handing packet } }

/-- Call the handler. -/
def call
    (handler : Handler State)
    (pump : ReadPump)
    (packet : PacketId) : Action (Host State) PumpThread := do
  match ← packet? packet with
  | none => return { pump := { pump with phase := .taking } }
  | some held =>
      let content ← Action.inspect fun host => host.packetBytes held
      let outcome ← handler content
      return { pump, midway := .handled packet content outcome }

/-- Give a packet back that was handed on. -/
def giveBack
    (pump : ReadPump)
    (packet : PacketId)
    (content : Bytes)
    (outcome : Outcome Unit) : Action (Host State) PumpThread := do
  finishPacket packet
  let pump := { pump with seen := pump.seen ++ [content] }
  match outcome with
  | .ok () =>
      return { pump :=
        { pump with delivered := pump.delivered + 1, phase := .taking } }
  | .error _ => return { pump := { pump with phase := .finished .brokenOff } }

/-- One access of a thread to what it shares with others. -/
def step
    (handler : Handler State)
    (thread : PumpThread) :
    Action (Host State) (Progress PumpThread PumpThread) := do
  match thread.midway with
  | .receiving => return .running (← receive thread.pump)
  | .received raw => return .running (← hold thread.pump raw)
  | .handled packet content outcome =>
      return .running (← giveBack thread.pump packet content outcome)
  | .between =>
      match thread.pump.phase with
      | .taking => return .running (← check thread.pump)
      | .handing packet =>
          return .running (← call handler thread.pump packet)
      | .waiting _ | .finished _ =>
          return (← thread.pump.step handler).map
            (fun pump => { pump }) fun pump => { pump }

end PumpThread

/-! ## Looking at the shutdown -/

section Open

variable
  {State : Type}
  [Driver State]
  {Value : Type}
  {id : SessionId}
  {session : Session}
  {host : Host State}
  (continuation : Session → Action (Host State) (Outcome Value))

theorem whileOpen_of_gone (gone : host.sessions.get? id = none) :
    whileOpen id continuation host = ⟨refuse .sessionEnded, host, []⟩ := by
  simp [whileOpen, bind_apply, pure_apply, session?, Action.inspect, gone]

variable (found : host.sessions.get? id = some session)

include found

theorem whileOpen_of_shut (shut : (isShutDown session host).value = true) :
    whileOpen id continuation host =
      { isShutDown session host with value := refuse .sessionEnded } := by
  simp [whileOpen, bind_apply, pure_apply, session?, Action.inspect, found, shut]

theorem whileOpen_of_open (unshut : (isShutDown session host).value = false) :
    whileOpen id continuation host =
      { continuation session (isShutDown session host).state with
        notes := (isShutDown session host).notes ++
          (continuation session (isShutDown session host).state).notes } := by
  simp [whileOpen, bind_apply, session?, Action.inspect, found, unshut]

end Open

/-! ## A thread that is left alone -/

section Proceed

variable {State Call Value : Type}

/-- One step is the step itself. -/
theorem proceed_one
    (step : Call → Action (Host State) (Progress Call Value))
    (call : Call)
    (host : Host State) : proceed step 1 call host = step call host := by
  rw [proceed_succ, bind_apply]
  cases progress : (step call host).value <;>
    simp [proceed, proceedAfter, pure_apply, ← progress]

end Proceed

namespace PumpThread

variable {State : Type} [Driver State]
variable (handler : Handler State)

/-- Left alone for some accesses, the thread does what its pump does in one
step. -/
def Agrees (pump : ReadPump) (host : Host State) : Prop :=
  ∃ count, 1 ≤ count ∧ count ≤ 3 ∧
    proceed (step handler) count (ofPump pump) host =
      { pump.step handler host with
        value := (pump.step handler host).value.map ofPump ofPump }

variable {pump : ReadPump} (host : Host State)

theorem agrees_of_taking (phase : pump.phase = .taking) :
    Agrees handler pump host := by
  unfold Agrees
  cases found : host.sessions.get? pump.session with
  | none =>
      refine ⟨1, by decide, by decide, ?_⟩
      simp [proceed_one, step, ofPump, ReadPump.step, phase, check, tryReceive,
        whileOpen_of_gone _ found, refuse, bind_apply, pure_apply, Progress.map]
  | some session =>
      cases shut : (isShutDown session host).value with
      | true =>
          refine ⟨1, by decide, by decide, ?_⟩
          simp [proceed_one, step, ofPump, ReadPump.step, phase, check,
            tryReceive, whileOpen_of_shut _ found shut, refuse, bind_apply,
            pure_apply, Progress.map]
      | false =>
          have known : session? pump.session (isShutDown session host).state =
              ⟨some session, (isShutDown session host).state, []⟩ :=
            congrArg (fun kept => (⟨kept, _, []⟩ : Reply (Host State) _)) found
          cases asked : ask (Driver.receivePacket session.handle)
            (isShutDown session host).state with | mk value after notes
          -- Counting and holding take an access only if a packet was lent.
          cases value with
          | error failure =>
              refine ⟨2, by decide, by decide, ?_⟩
              by_cases blocked : failure = .refused .wouldBlock
              · subst blocked
                simp [proceed_succ _ 1, proceed_one, step, ofPump, phase,
                  ReadPump.step, check, tryReceive,
                  whileOpen_of_open _ found shut, receive, known, asked,
                  bind_apply, pure_apply, Progress.map]
              · simp [proceed_succ _ 1, proceed_one, step, ofPump, phase,
                  ReadPump.step, check, tryReceive,
                  whileOpen_of_open _ found shut, receive, known, asked,
                  bind_apply, pure_apply, Progress.map]
          | ok raw =>
              refine ⟨3, by decide, by decide, ?_⟩
              simp [proceed_succ _ 2, proceed_succ _ 1, proceed_one, step,
                ofPump, ReadPump.step, phase, check, tryReceive,
                whileOpen_of_open _ found shut, receive, hold, known, asked,
                bind_apply, pure_apply, Progress.map]

theorem agrees_of_handing
    {packet : PacketId}
    (phase : pump.phase = .handing packet) : Agrees handler pump host := by
  unfold Agrees
  cases found : host.packets.get? packet with
  | none =>
      refine ⟨1, by decide, by decide, ?_⟩
      simp [proceed_one, step, ofPump, ReadPump.step, phase, call,
        ReadPump.hand, packet?, Action.inspect, found, bind_apply, pure_apply,
        Progress.map]
  | some held =>
      refine ⟨2, by decide, by decide, ?_⟩
      cases outcome : (handler (host.packetBytes held) host).value <;>
        simp [proceed_succ _ 1, proceed_one, step, ofPump, ReadPump.step, phase,
          call, giveBack, ReadPump.hand, packet?, Action.inspect, found, outcome,
          bind_apply, pure_apply, Progress.map]

/-- The accesses of a thread are those of its pump. -/
theorem agrees (pump : ReadPump) : Agrees handler pump host := by
  cases phase : pump.phase with
  | taking => exact agrees_of_taking handler host phase
  | handing packet => exact agrees_of_handing handler host phase
  | waiting call =>
      refine ⟨1, by decide, by decide, ?_⟩
      simp [proceed_one, step, ofPump, phase, bind_apply, pure_apply]
      rfl
  | finished how =>
      refine ⟨1, by decide, by decide, ?_⟩
      simp [proceed_one, step, ofPump, ReadPump.step, phase, bind_apply,
        pure_apply, Progress.map]

end PumpThread
end Host
end VirtualAdapter

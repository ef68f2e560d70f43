import VirtualAdapter.Proofs.Exchange.Signalled
import VirtualAdapter.Proofs.Host.Refusals

/-!
# A shutdown is final

From the shutdown of a session on, every call on it is refused before anything
else about the call, the rings or the driver is looked at, and it changes
nothing.  There is one exception: a call that finds its deadline first breaks off
if the clock cannot name it.  Packets that were borrowed before do not notice:
they are read, written, released, sent and dropped as if nothing had happened.
-/

namespace VirtualAdapter
namespace Host

open Memory (MemoryDriver Request)
open Memory.MemoryDriver (acceptAllocated acceptReceived)
open Signal (Bank Nanoseconds)

/-! ## Packets that are held -/

/-- What is done with a packet that is held. -/
inductive Handling
  /-- Read its bytes. -/
  | look (packet : PacketId)
  /-- Change its bytes from a place on. -/
  | write (packet : PacketId) (start : Nat) (content : Bytes)
  /-- Release a received packet or send one to be sent. -/
  | finish (packet : PacketId)
  /-- Drop it. -/
  | drop (packet : PacketId)

/-- Handle a packet; looking at one that is held answers its bytes. -/
def Handling.action {State : Type} [Driver State] :
    Handling → Action (Host State) (Option Bytes)
  | look id => do
      match ← packet? id with
      | none => return none
      | some packet =>
          let content ← Action.inspect fun host => host.packetBytes packet
          return some content
  | write id start content => do
      withPacket id fun packet _ => writePacket packet start content
      return none
  | finish id => do
      finishPacket id
      return none
  | drop id => do
      dropPacket id
      return none

/-- The host with other events, and with other calls written down about its
driver. -/
def overlaid
    (host : Host (Recorded MemoryDriver))
    (signals : Bank)
    (log : List Exchange) : Host (Recorded MemoryDriver) :=
  { host with driver := ⟨{ host.driver.driver with signals }, log⟩ }

/-- An action neither looks at events nor changes them: with other events it
answers the same, leaves the same, and calls the driver in the same way. -/
def Blind
    {Value : Type}
    (action : Action (Host (Recorded MemoryDriver)) Value) : Prop :=
  ∀ host, ∃ exchanges,
    (action host).state.driver.log = host.driver.log ++ exchanges ∧
      ∀ signals log, action (host.overlaid signals log) =
        { action host with
          state := (action host).state.overlaid signals (log ++ exchanges) }

namespace Blind

variable
  {Value Other : Type}
  {action : Action (Host (Recorded MemoryDriver)) Value}

/-- An action that does not call the driver. -/
theorem of_uncalled
    (log : ∀ host, (action host).state.driver.log = host.driver.log)
    (same : ∀ host signals log, action (host.overlaid signals log) =
      { action host with state := (action host).state.overlaid signals log }) :
    Blind action := fun host =>
  ⟨[], (log host).trans (List.append_nil _).symm, fun signals log => by
    rw [List.append_nil]
    exact same host signals log⟩

theorem answer {value : Value} :
    Blind (pure value : Action (Host (Recorded MemoryDriver)) Value) :=
  of_uncalled (fun _ => rfl) fun _ _ _ => rfl

theorem bind
    {continuation : Value → Action (Host (Recorded MemoryDriver)) Other}
    (first : Blind action)
    (second : ∀ value, Blind (continuation value)) :
    Blind (action >>= continuation) := by
  intro host
  obtain ⟨earlier, grows, same⟩ := first host
  obtain ⟨later, grows_on, same_on⟩ :=
    second (action host).value (action host).state
  refine ⟨earlier ++ later, ?_, fun signals log => ?_⟩
  · rw [Action.state_bind, grows_on, grows, List.append_assoc]
  · show Action.andThen action continuation _ =
      { Action.andThen action continuation host with
        state := (Action.andThen action continuation host).state.overlaid
          signals (log ++ (earlier ++ later)) }
    unfold Action.andThen
    rw [same]
    dsimp only
    rw [same_on, ← List.append_assoc]

end Blind

/-- A shutdown sets the event of the session, and nothing else changes. -/
theorem shutdown_eq
    {host : Host (Recorded MemoryDriver)}
    {id : SessionId}
    {session : Session}
    (found : host.sessions.get? id = some session) :
    shutdown id host =
      ⟨.ok (), host.overlaid
        (host.driver.driver.signals.set session.shutdownEvent.number)
        (host.driver.log ++ [.setEvent session.shutdownEvent (.ok ())]),
        []⟩ := by
  have looked : session? id host = ⟨some session, host, []⟩ := by
    rw [← found]
    rfl
  unfold shutdown
  rw [Action.bind_of_reply looked]
  rfl

theorem Signalled.shutdown
    {host : Host (Recorded MemoryDriver)}
    {id : SessionId}
    {session : Session}
    (signalled : Signalled [] host)
    (found : host.sessions.get? id = some session) :
    Signalled [(id, session.shutdownEvent)] (shutdown id host).state := by
  have carries := (shutdown_moves id).carries signalled
  have state := congrArg Reply.state (shutdown_eq found)
  refine { carries.signalled with shut := fun entry member => ?_ }
  obtain rfl := List.mem_singleton.mp member
  have reserved := signalled.reserved id session found
  refine ⟨?_, carries.reserved _ reserved, ?_, ?_⟩
  · rw [state]
    exact signalled.numbered id session found
  · rw [state]
    exact (Bank.isSet_set _ _).trans (if_pos rfl)
  · rw [state]
    intro other present
    cases found.symm.trans present
    rfl

end Host
end VirtualAdapter

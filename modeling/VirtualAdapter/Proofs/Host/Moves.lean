import Mathlib.Logic.Relation
import VirtualAdapter.Host.Blocking
import VirtualAdapter.Host.Manager
import VirtualAdapter.Host.ReadPump
import VirtualAdapter.Proofs.Action

/-!
# What the library changes

Whatever the library does to a host, it does in a few kinds of small moves: it
calls the driver, changes its own tables, counts, and lets time pass.  No call
resets an event, and only a start that comes to its end adds a session.  What
every move keeps is kept by everything that the library does.
-/

namespace VirtualAdapter
namespace Host

open Relation (ReflTransGen)
open Signal (Nanoseconds Wait)

/-- What can become of a driver by one call that the library makes of it. -/
inductive Asked {State : Type} [Driver State] (driver : State) : State → Prop
  | createAdapter (name tunnelType : String) (guid : Option Guid) :
      Asked driver (Driver.createAdapter name tunnelType guid driver).state
  | openAdapter (name : String) :
      Asked driver (Driver.openAdapter name driver).state
  | closeAdapter (adapter : AdapterHandle) :
      Asked driver (Driver.closeAdapter adapter driver).state
  | adapterLuid (adapter : AdapterHandle) :
      Asked driver (Driver.adapterLuid adapter driver).state
  | runningVersion :
      Asked driver (Driver.runningVersion driver).state
  | deleteDriver :
      Asked driver (Driver.deleteDriver driver).state
  | setSink (sink : Option Sink) :
      Asked driver (Driver.setSink sink driver).state
  | startSession (adapter : AdapterHandle) (capacity : UInt32) :
      Asked driver (Driver.startSession adapter capacity driver).state
  | endSession (session : SessionHandle) :
      Asked driver (Driver.endSession session driver).state
  | readWaitEvent (session : SessionHandle) :
      Asked driver (Driver.readWaitEvent session driver).state
  | receivePacket (session : SessionHandle) :
      Asked driver (Driver.receivePacket session driver).state
  | releaseReceived (session : SessionHandle) (packet : RawPacket) :
      Asked driver (Driver.releaseReceived session packet driver).state
  | allocateSend (session : SessionHandle) (size : Nat) :
      Asked driver (Driver.allocateSend session size driver).state
  | sendPacket (session : SessionHandle) (packet : RawPacket) :
      Asked driver (Driver.sendPacket session packet driver).state
  | writePacket (packet : RawPacket) (start : Nat) (content : Bytes) :
      Asked driver (Driver.writePacket packet start content driver)
  | newEvent :
      Asked driver (Driver.newEvent driver).state
  | setEvent (event : EventHandle) :
      Asked driver (Driver.setEvent event driver).state
  | isEventSet (event : EventHandle) :
      Asked driver (Driver.isEventSet event driver).state
  | dropEvent (event : EventHandle) :
      Asked driver (Driver.dropEvent event driver).state
  | beginWait
      (own cancel : EventHandle)
      (interrupt : Option EventHandle)
      (timeout : Option Nanoseconds)
      (now : Nanoseconds) :
      Asked driver (Driver.beginWait own cancel interrupt timeout now driver).state
  | stepWait (wait : Wait) (now : Nanoseconds) :
      Asked driver (Driver.stepWait wait now driver).2

variable {State Value Other : Type} [Driver State]

/-- A small change that the library makes of a host. -/
inductive Move (host : Host State) : Host State → Prop
  /-- A call of the driver. -/
  | asked {driver : State} (asked : Asked host.driver driver) :
      Move host { host with driver }
  /-- Something about the managers. -/
  | managers (managers : Table ManagerId Manager) :
      Move host { host with managers }
  /-- Something about the adapters. -/
  | adapters (adapters : Table AdapterId Adapter) :
      Move host { host with adapters }
  /-- Something about the borrowed packets. -/
  | packets (packets : Table PacketId HeldPacket) :
      Move host { host with packets }
  /-- Something is counted in a session. -/
  | counted (id : SessionId) (step : SessionStats → SessionStats) :
      Move host { host with
        sessions := host.sessions.update id fun session =>
          { session with stats := step session.stats } }
  /-- A session is forgotten. -/
  | forgotten (id : SessionId) :
      Move host { host with sessions := host.sessions.erase id }
  /-- A number is given out. -/
  | numbered : Move host { host with lastNumber := host.lastNumber + 1 }
  /-- Time passes. -/
  | timed (clock : Nanoseconds) : Move host { host with clock }

/-- An action does nothing but make moves. -/
def Moves (action : Action (Host State) Value) : Prop :=
  ∀ host, ReflTransGen Move host (action host).state

namespace Moves

variable
  {action : Action (Host State) Value}
  {continuation : Value → Action (Host State) Other}

/-- An action that only reads. -/
theorem still (same : ∀ host, (action host).state = host) : Moves action :=
  fun host => by rw [same host]

/-- An action that makes one move. -/
theorem once (move : ∀ host, Move host (action host).state) : Moves action :=
  fun host => .single (move host)

theorem bind
    (first : Moves action)
    (second : ∀ value, Moves (continuation value)) :
    Moves (action >>= continuation) :=
  fun host => (first host).trans (second _ _)

/-- An action that reads and then goes on. -/
theorem andThen
    (same : ∀ host, (action host).state = host)
    (second : ∀ value, Moves (continuation value)) :
    Moves (action >>= continuation) :=
  (still same).bind second

theorem answer {value : Value} :
    Moves (pure value : Action (Host State) Value) :=
  still fun _ => rfl

end Moves

/-! ## Small changes -/

theorem ask_moves
    {action : Action State Value}
    (asked : ∀ driver, Asked driver (action driver).state) :
    Moves (ask action) :=
  .once fun host => .asked (asked host.driver)

theorem changeManager_moves
    (id : ManagerId)
    (step : Manager → Manager) :
    Moves (changeManager id step : Action (Host State) Unit) :=
  .once fun _ => .managers _

theorem changeAdapter_moves
    (id : AdapterId)
    (step : Adapter → Adapter) :
    Moves (changeAdapter id step : Action (Host State) Unit) :=
  .once fun _ => .adapters _

theorem freshNumber_moves :
    Moves (freshNumber : Action (Host State) Nat) :=
  .once fun _ => .numbered

theorem count_moves
    (id : SessionId)
    (step : SessionStats → SessionStats) :
    Moves (count id step : Action (Host State) Unit) :=
  .once fun _ => .counted id step

theorem trace_moves
    (level : TraceLevel)
    (message : String)
    (fields : List (String × String)) :
    Moves (Action.trace level message fields : Action (Host State) Unit) :=
  .still fun _ => rfl

theorem passTime_moves (moment : Nanoseconds) :
    Moves (passTime moment : Action (Host State) Unit) :=
  .once fun _ => .timed _

/-! ## Adapters -/

theorem adopt_moves (manager : ManagerId) (handle : AdapterHandle) (name : String) :
    Moves (adopt manager handle name : Action (Host State) AdapterId) := by
  unfold adopt
  refine freshNumber_moves.bind fun id => ?_
  refine (changeManager_moves _ _).bind fun _ => ?_
  exact (Moves.once fun _ => .adapters _).bind fun _ => .answer

theorem giveBack_moves (id : AdapterId) (adapter : Adapter) :
    Moves (giveBack id adapter : Action (Host State) Unit) := by
  unfold giveBack
  refine (ask_moves fun _ => .closeAdapter _).bind fun _ => ?_
  refine (changeManager_moves _ _).bind fun _ => ?_
  exact (Moves.once fun _ => .adapters _).bind fun _ => trace_moves _ _ _

theorem giveBackUnheld_moves (id : AdapterId) :
    Moves (giveBackUnheld id : Action (Host State) Unit) := by
  unfold giveBackUnheld
  refine .andThen (fun _ => rfl) fun host => ?_
  split
  · exact .answer
  · split
    · exact .answer
    · exact giveBack_moves id _

theorem dropAdapter_moves (id : AdapterId) :
    Moves (dropAdapter id : Action (Host State) Unit) :=
  (changeAdapter_moves id _).bind fun _ => giveBackUnheld_moves id

theorem closeAdapter_moves (id : AdapterId) :
    Moves (closeAdapter id : Action (Host State) (Outcome Unit)) := by
  unfold closeAdapter
  refine .andThen (fun _ => rfl) fun found => ?_
  split
  · exact .answer
  · split
    · refine (trace_moves _ _ _).bind fun _ => ?_
      exact (dropAdapter_moves id).bind fun _ => .answer
    · exact (dropAdapter_moves id).bind fun _ => .answer

/-! ## Managers -/

theorem setSink_moves (sink : Option Sink) :
    Moves (ask (Driver.setSink sink) : Action (Host State) (Outcome Unit)) :=
  ask_moves fun _ => .setSink sink

theorem newManager_moves (config : ManagerConfig) :
    Moves (newManager config : Action (Host State) (Outcome ManagerId)) := by
  unfold newManager
  refine (setSink_moves _).bind fun outcome => ?_
  split
  · exact .answer
  · refine freshNumber_moves.bind fun id => ?_
    exact (Moves.once fun _ => .managers _).bind fun _ => .answer

theorem setLogger_moves (logger : Logger) :
    Moves (setLogger logger : Action (Host State) (Outcome Unit)) :=
  (trace_moves _ _ _).bind fun _ => setSink_moves _

theorem adapterLuid_moves (handle : AdapterHandle) :
    Moves (adapterLuid handle : Action (Host State) Luid) :=
  ask_moves fun _ => .adapterLuid handle

theorem checkVersion_moves (manager : Manager) (adapter : AdapterId) :
    Moves (checkVersion manager adapter :
      Action (Host State) (Outcome AdapterId)) := by
  unfold checkVersion
  split
  · exact .answer
  · refine (ask_moves fun _ => .runningVersion).bind fun outcome => ?_
    split
    · exact (dropAdapter_moves adapter).bind fun _ => .answer
    · split
      · refine (trace_moves _ _ _).bind fun _ => ?_
        exact (dropAdapter_moves adapter).bind fun _ => .answer
      · exact .answer

theorem receiveAdapter_moves
    (id : ManagerId)
    (manager : Manager)
    (message name : String)
    (outcome : Outcome AdapterHandle) :
    Moves (receiveAdapter id manager message name outcome :
      Action (Host State) (Outcome AdapterId)) := by
  unfold receiveAdapter
  split
  · exact .answer
  · refine (adopt_moves _ _ _).bind fun adapter => ?_
    refine (adapterLuid_moves _).bind fun luid => ?_
    exact (trace_moves _ _ _).bind fun _ => checkVersion_moves manager adapter

theorem createAdapter_moves (id : ManagerId) (config : AdapterConfig) :
    Moves (createAdapter id config :
      Action (Host State) (Outcome AdapterId)) := by
  unfold createAdapter
  refine .andThen (fun _ => rfl) fun found => ?_
  split
  · exact .answer
  · split
    · exact .answer
    · exact (ask_moves fun _ => .createAdapter _ _ _).bind
        (receiveAdapter_moves id _ _ _)

theorem openAdapter_moves (id : ManagerId) (name : String) :
    Moves (openAdapter id name :
      Action (Host State) (Outcome AdapterId)) := by
  unfold openAdapter
  refine .andThen (fun _ => rfl) fun found => ?_
  split
  · exact .answer
  · split
    · exact .answer
    · exact (ask_moves fun _ => .openAdapter _).bind
        (receiveAdapter_moves id _ _ _)

theorem deletionStep_moves (id : ManagerId) (phase : Deletion) :
    Moves (phase.step id : Action (Host State) Deletion) := by
  cases phase with
  | finished outcome => exact .answer
  | calling =>
      refine (ask_moves fun _ => .deleteDriver).bind fun outcome => ?_
      split
      · exact .answer
      · exact (trace_moves _ _ _).bind fun _ => .answer
  | counting =>
      refine .andThen (fun _ => rfl) fun found => ?_
      split
      · exact .answer
      · split
        · exact (trace_moves _ _ _).bind fun _ => .answer
        · exact .answer

theorem dropManager_moves (id : ManagerId) :
    Moves (dropManager id : Action (Host State) Unit) := by
  unfold dropManager
  refine .andThen (fun _ => rfl) fun found => ?_
  split
  · exact .answer
  · split
    · exact .answer
    · split
      · exact trace_moves _ _ _
      · refine (ask_moves fun _ => .deleteDriver).bind fun outcome => ?_
        split
        · exact .answer
        · exact trace_moves _ _ _

/-! ## Sessions on their way -/

theorem releaseName_moves (adapter : Adapter) :
    Moves (Start.releaseName adapter : Action (Host State) Unit) :=
  changeManager_moves _ _

theorem releaseFlag_moves (id : AdapterId) :
    Moves (Start.releaseFlag id : Action (Host State) Unit) :=
  changeAdapter_moves _ _

/-- Every step of a start but the last one of a start that succeeds. -/
theorem startAdvance_moves
    (start : Start)
    (adapter : Adapter)
    {phase : StartPhase}
    (going : ∀ handle readEvent shutdownEvent,
      phase ≠ .counting handle readEvent shutdownEvent) :
    Moves (start.advance adapter phase : Action (Host State) StartPhase) := by
  cases phase with
  | counting handle readEvent shutdownEvent =>
      exact absurd rfl (going handle readEvent shutdownEvent)
  | claimingFlag =>
      unfold Start.advance Start.claimFlag
      dsimp only
      split
      · exact .answer
      · exact (changeAdapter_moves _ _).bind fun _ => .answer
  | claimingName =>
      unfold Start.advance Start.claimName
      dsimp only
      refine .andThen (fun _ => rfl) fun found => ?_
      split
      · exact .answer
      · exact (changeManager_moves _ _).bind fun _ => .answer
  | returningFlag =>
      refine (releaseFlag_moves _).bind fun _ => ?_
      exact (trace_moves _ _ _).bind fun _ => .answer
  | starting =>
      refine (ask_moves fun _ => .startSession _ _).bind fun outcome => ?_
      split <;> exact .answer
  | obtainingEvent handle =>
      refine (ask_moves fun _ => .readWaitEvent _).bind fun outcome => ?_
      split <;> exact .answer
  | makingEvent handle readEvent =>
      refine (ask_moves fun _ => .newEvent).bind fun outcome => ?_
      split <;> exact .answer
  | ending handle failure =>
      exact (ask_moves fun _ => .endSession _).bind fun _ => .answer
  | releasingName failure =>
      exact (releaseName_moves _).bind fun _ => .answer
  | releasingFlag failure =>
      exact (releaseFlag_moves _).bind fun _ => .answer
  | finished outcome => exact .answer

theorem shutdown_moves (id : SessionId) :
    Moves (shutdown id : Action (Host State) (Outcome Unit)) := by
  unfold shutdown
  refine .andThen (fun _ => rfl) fun found => ?_
  split
  · exact .answer
  · refine (ask_moves fun _ => .setEvent _).bind fun outcome => ?_
    split
    · exact (trace_moves _ _ _).bind fun _ => .answer
    · exact .answer

theorem letGo_moves (id : SessionId) (session : Session) :
    Moves (Finish.letGo id session : Action (Host State) Unit) := by
  unfold Finish.letGo
  refine Moves.bind (.once fun _ => .forgotten id) fun _ => ?_
  refine (giveBackUnheld_moves _).bind fun _ => ?_
  exact ask_moves fun _ => .dropEvent _

theorem finishAdvance_moves
    (id : SessionId)
    (session : Session)
    (adapter : Adapter)
    (phase : FinishPhase) :
    Moves (Finish.advance id session adapter phase :
      Action (Host State) FinishPhase) := by
  cases phase with
  | signalling =>
      refine (shutdown_moves id).bind fun outcome => ?_
      split
      · exact .answer
      · exact (letGo_moves id session).bind fun _ => .answer
  | ending => exact (ask_moves fun _ => .endSession _).bind fun _ => .answer
  | releasingName => exact (releaseName_moves _).bind fun _ => .answer
  | releasingFlag => exact (releaseFlag_moves _).bind fun _ => .answer
  | uncounting =>
      refine (changeManager_moves _ _).bind fun _ => ?_
      exact (trace_moves _ _ _).bind fun _ => .answer
  | lettingGo => exact (letGo_moves id session).bind fun _ => .answer
  | finished outcome => exact .answer

theorem finishStep_moves (id : SessionId) (phase : FinishPhase) :
    Moves (Finish.step id phase : Action (Host State) FinishPhase) := by
  unfold Finish.step
  refine .andThen (fun _ => rfl) fun found => ?_
  split
  · exact .answer
  · refine .andThen (fun _ => rfl) fun found => ?_
    split
    · exact .answer
    · exact finishAdvance_moves id _ _ phase

theorem finishSteps_moves (id : SessionId) (count : Nat) (phase : FinishPhase) :
    Moves (Finish.steps id count phase : Action (Host State) FinishPhase) := by
  induction count generalizing phase with
  | zero => exact .answer
  | succ count hypothesis => exact (finishStep_moves id phase).bind hypothesis

theorem endSession_moves (id : SessionId) :
    Moves (endSession id : Action (Host State) (Outcome Unit)) :=
  (finishSteps_moves id _ _).bind fun _ => .answer

/-! ## Packets -/

theorem keepPacket_moves
    (session : SessionId)
    (direction : Direction)
    (raw : RawPacket) :
    Moves (keepPacket session direction raw :
      Action (Host State) PacketId) := by
  unfold keepPacket
  refine freshNumber_moves.bind fun id => ?_
  exact (Moves.once fun _ => .packets _).bind fun _ => .answer

theorem forgetPacket_moves (id : PacketId) :
    Moves (forgetPacket id : Action (Host State) Unit) :=
  .once fun _ => .packets _

theorem writePacket_moves
    (packet : HeldPacket)
    (start : Nat)
    (content : Bytes) :
    Moves (writePacket packet start content : Action (Host State) Unit) :=
  .once fun _ => .asked (.writePacket _ _ _)

theorem releaseReceived_moves
    (id : PacketId)
    (packet : HeldPacket)
    (session : Session) :
    Moves (releaseReceived id packet session : Action (Host State) Unit) :=
  (forgetPacket_moves id).bind fun _ =>
    ask_moves fun _ => .releaseReceived _ _

theorem commitPacket_moves
    (id : PacketId)
    (packet : HeldPacket)
    (session : Session) :
    Moves (commitPacket id packet session : Action (Host State) Unit) := by
  unfold commitPacket
  refine (forgetPacket_moves id).bind fun _ => ?_
  refine (ask_moves fun _ => .sendPacket _ _).bind fun _ => ?_
  exact (count_moves _ _).bind fun _ => trace_moves _ _ _

theorem discardPacket_moves
    (id : PacketId)
    (packet : HeldPacket)
    (session : Session) :
    Moves (discardPacket id packet session : Action (Host State) Unit) := by
  unfold discardPacket
  refine (trace_moves _ _ _).bind fun _ => ?_
  refine (writePacket_moves _ _ _).bind fun _ => ?_
  refine (forgetPacket_moves id).bind fun _ => ?_
  exact ask_moves fun _ => .sendPacket _ _

theorem withPacket_moves
    (id : PacketId)
    {continuation : HeldPacket → Session → Action (Host State) Unit}
    (moves : ∀ packet session, Moves (continuation packet session)) :
    Moves (withPacket id continuation) := by
  unfold withPacket
  refine .andThen (fun _ => rfl) fun found => ?_
  split
  · exact .answer
  · refine .andThen (fun _ => rfl) fun found => ?_
    split
    · exact .answer
    · exact moves _ _

theorem finishPacket_moves (id : PacketId) :
    Moves (finishPacket id : Action (Host State) Unit) := by
  refine withPacket_moves id fun packet session => ?_
  split
  · exact releaseReceived_moves id packet session
  · exact commitPacket_moves id packet session

theorem dropPacket_moves (id : PacketId) :
    Moves (dropPacket id : Action (Host State) Unit) := by
  refine withPacket_moves id fun packet session => ?_
  split
  · exact releaseReceived_moves id packet session
  · exact discardPacket_moves id packet session

/-! ## Calls that do not block -/

theorem whileOpen_moves
    (id : SessionId)
    {continuation : Session → Action (Host State) (Outcome Value)}
    (moves : ∀ session, Moves (continuation session)) :
    Moves (whileOpen id continuation) := by
  unfold whileOpen
  refine .andThen (fun _ => rfl) fun found => ?_
  split
  · exact .answer
  · refine (ask_moves fun _ => .isEventSet _).bind fun isSet => ?_
    split
    · exact .answer
    · exact moves _

theorem tryReceive_moves (id : SessionId) :
    Moves (tryReceive id : Action (Host State) (Outcome PacketId)) := by
  refine whileOpen_moves id fun session => ?_
  refine (ask_moves fun _ => .receivePacket _).bind fun outcome => ?_
  split
  · exact .answer
  · refine (count_moves _ _).bind fun _ => ?_
    refine (trace_moves _ _ _).bind fun _ => ?_
    exact (keepPacket_moves _ _ _).bind fun _ => .answer

theorem noteRefusal_moves (id : SessionId) (size : Nat) (failure : Failure) :
    Moves (noteRefusal id size failure : Action (Host State) Unit) := by
  unfold noteRefusal
  split
  · exact (count_moves _ _).bind fun _ => trace_moves _ _ _
  · exact .answer

theorem allocateSend_moves (id : SessionId) (size : Nat) :
    Moves (allocateSend id size :
      Action (Host State) (Outcome PacketId)) := by
  refine whileOpen_moves id fun session => ?_
  split
  · exact .answer
  · refine (ask_moves fun _ => .allocateSend _ _).bind fun outcome => ?_
    split
    · exact (keepPacket_moves _ _ _).bind fun _ => .answer
    · exact (noteRefusal_moves _ _ _).bind fun _ => .answer

theorem trySend_moves (id : SessionId) (content : Bytes) :
    Moves (trySend id content : Action (Host State) (Outcome Unit)) := by
  unfold trySend
  refine (allocateSend_moves id _).bind fun outcome => ?_
  split
  · exact .answer
  · refine (withPacket_moves _ fun held session => ?_).bind fun _ => .answer
    exact (writePacket_moves _ _ _).bind fun _ => commitPacket_moves _ _ _

theorem copyOut_moves (received : Outcome PacketId) (buffer : Bytes) :
    Moves (copyOut received buffer : Action (Host State) Copied) := by
  unfold copyOut
  split
  · exact .answer
  · refine .andThen (fun _ => rfl) fun found => ?_
    split
    · exact .answer
    · refine .andThen (fun _ => rfl) fun content => ?_
      refine (finishPacket_moves _).bind fun _ => ?_
      split <;> exact .answer

theorem tryReceiveInto_moves (id : SessionId) (buffer : Bytes) :
    Moves (tryReceiveInto id buffer : Action (Host State) Copied) :=
  (tryReceive_moves id).bind fun received => copyOut_moves received buffer

/-! ## Calls that block -/

theorem stepWait_moves (wait : Wait) :
    Moves (stepWait wait : Action (Host State) _) := by
  intro host
  unfold stepWait
  split
  · exact .refl
  · exact .single (.asked (.stepWait _ _))

theorem beginWait_moves
    (own : EventHandle)
    (session : Session)
    (interrupt : Option EventHandle)
    (timeout : Option Nanoseconds) :
    Moves (beginWait own session interrupt timeout :
      Action (Host State) (Outcome WaitStart)) :=
  .andThen (fun _ => rfl) fun _ => ask_moves fun _ => .beginWait _ _ _ _ _

theorem stepUntil_moves (wait : Wait) :
    Moves (stepUntil wait : Action (Host State) _) :=
  (stepWait_moves wait).bind fun _ => .answer

theorem beginUntil_moves (terms : WaitTerms) :
    Moves (beginUntil terms : Action (Host State) _) := by
  unfold beginUntil
  refine .andThen (fun _ => rfl) fun found => ?_
  split
  · exact .answer
  · refine .andThen (fun _ => rfl) fun present => ?_
    split
    · exact .answer
    · refine (beginWait_moves _ _ _ _).bind fun start => ?_
      split <;> exact .answer

theorem waitReadableStep_moves (call : WaitReadable) :
    Moves (call.step : Action (Host State) _) := by
  unfold WaitReadable.step
  split
  · refine (whileOpen_moves _ fun _ => .answer).bind fun outcome => ?_
    split
    · exact .answer
    · split <;> exact .answer
  · exact (beginUntil_moves _).bind fun _ => .answer
  · exact (stepUntil_moves _).bind fun _ => .answer

theorem afterWait_moves
    (call : Receive)
    (progress : Progress Wait (Outcome Bool)) :
    Moves (call.afterWait progress : Action (Host State) _) := by
  unfold Receive.afterWait
  split
  case h_5 =>
    refine .andThen (fun _ => rfl) fun present => ?_
    exact (passTime_moves _).bind fun _ => .answer
  all_goals exact .answer

theorem receiveStep_moves (call : Receive) :
    Moves (call.step : Action (Host State) _) := by
  unfold Receive.step
  split
  · exact .answer
  · refine (tryReceive_moves _).bind fun outcome => ?_
    split <;> exact .answer
  · exact (beginUntil_moves _).bind (afterWait_moves call)
  · exact (stepUntil_moves _).bind (afterWait_moves call)

theorem consume_moves (packet : PacketId) :
    Moves (ReceiveFuture.consume packet : Action (Host State) Bytes) := by
  unfold ReceiveFuture.consume
  refine .andThen (fun _ => rfl) fun found => ?_
  split
  · exact .answer
  · refine .andThen (fun _ => rfl) fun content => ?_
    exact (finishPacket_moves packet).bind fun _ => .answer

theorem receiveFutureStep_moves (future : ReceiveFuture) :
    Moves (future.step : Action (Host State) _) := by
  unfold ReceiveFuture.step
  split
  · exact .answer
  · refine (tryReceive_moves _).bind fun outcome => ?_
    split
    · exact (consume_moves _).bind fun _ => .answer
    · exact .answer
    · exact .answer
  · refine .andThen (fun _ => rfl) fun present => ?_
    split
    · exact .answer
    · exact .andThen (fun _ => rfl) fun _ => .answer
  · refine (waitReadableStep_moves _).bind fun progress => ?_
    split
    case h_3 =>
      refine .andThen (fun _ => rfl) fun present => ?_
      exact (passTime_moves _).bind fun _ => .answer
    all_goals exact .answer

theorem sendStep_moves (call : Send) :
    Moves (call.step : Action (Host State) _) := by
  unfold Send.step
  split
  · refine (trySend_moves _ _).bind fun outcome => ?_
    split
    · split
      · exact .andThen (fun _ => rfl) fun _ => .answer
      · exact (trace_moves _ _ _).bind fun _ => .answer
    · exact .answer
  · refine .andThen (fun _ => rfl) fun present => ?_
    split <;> exact .answer

theorem sendInterruptibleStep_moves (call : SendInterruptible) :
    Moves (call.step : Action (Host State) _) := by
  unfold SendInterruptible.step
  split
  · refine (trySend_moves _ _).bind fun outcome => ?_
    split <;> exact .answer
  · refine .andThen (fun _ => rfl) fun found => ?_
    split
    · exact .answer
    · refine (beginWait_moves _ _ _ _).bind fun start => ?_
      split <;> exact .answer
  · refine (stepWait_moves _).bind fun progress => ?_
    split <;> exact .answer

theorem sendFutureStep_moves (future : SendFuture) :
    Moves (future.step : Action (Host State) _) := by
  unfold SendFuture.step
  split
  · unfold SendFuture.attempt
    refine (trySend_moves _ _).bind fun outcome => ?_
    split
    · split
      · exact .answer
      · exact .andThen (fun _ => rfl) fun _ => .answer
    · exact .answer
  · refine .andThen (fun _ => rfl) fun present => ?_
    split <;> exact .answer

theorem blockingStep_moves (call : Blocking) :
    Moves (call.step : Action (Host State) _) := by
  cases call with
  | receive call => exact (receiveStep_moves call).bind fun _ => .answer
  | copy call buffer =>
      refine (receiveStep_moves call).bind fun progress => ?_
      split
      · exact .answer
      · exact .answer
      · exact (copyOut_moves _ buffer).bind fun _ => .answer
  | wait call => exact (waitReadableStep_moves call).bind fun _ => .answer
  | send call => exact (sendStep_moves call).bind fun _ => .answer
  | sendInterruptible call =>
      exact (sendInterruptibleStep_moves call).bind fun _ => .answer
  | receiveAsync future =>
      exact (receiveFutureStep_moves future).bind fun _ => .answer
  | sendAsync future => exact (sendFutureStep_moves future).bind fun _ => .answer

/-! ## Pumps -/

theorem leave_moves (pump : ReadPump) (failure : Failure) :
    Moves (pump.leave failure : Action (Host State) ReadPump) := by
  unfold ReadPump.leave
  split
  · exact .answer
  · refine .still fun host => ?_
    split <;> rfl

theorem hand_moves
    {handler : Handler State}
    (moves : ∀ content, Moves (handler content))
    (pump : ReadPump)
    (packet : PacketId) : Moves (pump.hand handler packet) := by
  unfold ReadPump.hand
  refine .andThen (fun _ => rfl) fun found => ?_
  split
  · exact .answer
  · refine .andThen (fun _ => rfl) fun content => ?_
    refine (moves content).bind fun outcome => ?_
    refine (finishPacket_moves packet).bind fun _ => ?_
    split <;> exact .answer

theorem pumpStep_moves
    {handler : Handler State}
    (moves : ∀ content, Moves (handler content))
    (pump : ReadPump) : Moves (pump.step handler) := by
  unfold ReadPump.step
  split
  · exact .answer
  · refine (waitReadableStep_moves _).bind fun progress => ?_
    split
    case h_4 => exact (leave_moves _ _).bind fun _ => .answer
    all_goals exact .answer
  · refine (tryReceive_moves _).bind fun outcome => ?_
    split
    case h_3 => exact (leave_moves _ _).bind fun _ => .answer
    all_goals exact .answer
  · exact (hand_moves moves pump _).bind fun _ => .answer

/-! ## What every call of the driver keeps -/

/-- Whatever the library asks of a driver keeps a fact about it. -/
def Steady (fact : State → Prop) : Prop :=
  ∀ driver next, fact driver → Asked driver next → fact next

namespace Steady

variable {fact : State → Prop} {host : Host State}

theorem moves
    (steady : Steady fact)
    {action : Action (Host State) Value}
    (moves : Moves action)
    (holds : fact host.driver) : fact (action host).state.driver := by
  have path := moves host
  generalize (action host).state = next at path
  induction path with
  | refl => exact holds
  | tail _ move hypothesis =>
      cases move with
      | asked asked => exact steady _ _ hypothesis asked
      | managers | adapters | packets | counted | forgotten | numbered
      | timed => exact hypothesis

/-- Only the last step of a start is no move, and it does not call the
driver. -/
theorem startStep
    (steady : Steady fact)
    (start : Start)
    (phase : StartPhase)
    (holds : fact host.driver) :
    fact (start.step phase host).state.driver := by
  unfold Start.step
  simp only [Action.state_bind, state_adapter?, value_adapter?]
  cases host.adapters.get? start.adapter with
  | none => exact holds
  | some adapter =>
      cases phase with
      | counting => exact holds
      | _ =>
          refine steady.moves (startAdvance_moves start adapter ?_) holds
          rintro _ _ _ ⟨⟩

end Steady

end Host
end VirtualAdapter

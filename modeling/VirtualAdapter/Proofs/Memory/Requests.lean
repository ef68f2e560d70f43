import VirtualAdapter.Proofs.Memory.Devices
import VirtualAdapter.Proofs.Ring.Ready
import VirtualAdapter.Proofs.Signal.Bank

/-!
# Requests to the in-memory driver

Callers and the network side change the driver by requests, in any order and
with handles and packets of any kind: current, ended, or never given out.
Everything that a request can do is listed once, so that what a run keeps
follows from the list.
-/

namespace VirtualAdapter
namespace Memory

open VirtualAdapter.Ring (PacketRing SlotHandle)
open Signal (Bank Nanoseconds SignalId Wait)

/-- A call of the driver, or one of its network side. -/
inductive Request
  | createAdapter (name tunnelType : String) (guid : Option Guid)
  | openAdapter (name : String)
  | closeAdapter (adapter : AdapterHandle)
  | adapterLuid (adapter : AdapterHandle)
  | runningVersion
  | deleteDriver
  | setSink (sink : Option Sink)
  | startSession (adapter : AdapterHandle) (capacity : UInt32)
  | endSession (session : SessionHandle)
  | readWaitEvent (session : SessionHandle)
  | receivePacket (session : SessionHandle)
  | releaseReceived (session : SessionHandle) (packet : RawPacket)
  | allocateSend (session : SessionHandle) (size : Nat)
  | sendPacket (session : SessionHandle) (packet : RawPacket)
  | writePacket (packet : RawPacket) (start : Nat) (content : Bytes)
  | newEvent
  | setEvent (event : EventHandle)
  | resetEvent (event : EventHandle)
  | isEventSet (event : EventHandle)
  | dropEvent (event : EventHandle)
  | beginWait
      (own cancel : EventHandle)
      (interrupt : Option EventHandle)
      (timeout : Option Nanoseconds)
      (now : Nanoseconds)
  | stepWait (wait : Wait) (now : Nanoseconds)
  | inject (name : String) (content : Bytes)
  | drainOutbound (name : String)
  | failSession (name : String)

/-- The event that a caller sets or resets by a request. -/
def Request.event? : Request → Option SignalId
  | setEvent event | resetEvent event => some event.number
  | _ => none

namespace MemoryDriver

/-- A driver before its first request. -/
def fresh (version : DriverVersion) (slotBudget : Option Nat) : MemoryDriver :=
  { version, slotBudget }

/-- The driver after a request. -/
def serve (driver : MemoryDriver) : Request → MemoryDriver
  | .createAdapter name tunnelType guid =>
      (Driver.createAdapter name tunnelType guid driver).state
  | .openAdapter name => (Driver.openAdapter name driver).state
  | .closeAdapter adapter => (Driver.closeAdapter adapter driver).state
  | .adapterLuid adapter => (Driver.adapterLuid adapter driver).state
  | .runningVersion => (Driver.runningVersion driver).state
  | .deleteDriver => (Driver.deleteDriver driver).state
  | .setSink sink => (Driver.setSink sink driver).state
  | .startSession adapter capacity =>
      (Driver.startSession adapter capacity driver).state
  | .endSession session => (Driver.endSession session driver).state
  | .readWaitEvent session => (Driver.readWaitEvent session driver).state
  | .receivePacket session => (Driver.receivePacket session driver).state
  | .releaseReceived session packet =>
      (Driver.releaseReceived session packet driver).state
  | .allocateSend session size =>
      (Driver.allocateSend session size driver).state
  | .sendPacket session packet =>
      (Driver.sendPacket session packet driver).state
  | .writePacket packet start content =>
      Driver.writePacket packet start content driver
  | .newEvent => (Driver.newEvent driver).state
  | .setEvent event => (Driver.setEvent event driver).state
  | .resetEvent event => (Driver.resetEvent event driver).state
  | .isEventSet event => (Driver.isEventSet event driver).state
  | .dropEvent event => (Driver.dropEvent event driver).state
  | .beginWait own cancel interrupt timeout now =>
      (Driver.beginWait own cancel interrupt timeout now driver).state
  | .stepWait wait now => (Driver.stepWait wait now driver).2
  | .inject name content => (inject name content driver).state
  | .drainOutbound name => (drainOutbound name driver).state
  | .failSession name => (failSession name driver).state

/-- The driver after several requests, the first one first. -/
def serveAll (driver : MemoryDriver) (requests : List Request) :
    MemoryDriver :=
  requests.foldl serve driver

theorem serveAll_append
    (driver : MemoryDriver)
    (earlier later : List Request) :
    driver.serveAll (earlier ++ later) =
      (driver.serveAll earlier).serveAll later :=
  List.foldl_append

theorem serveAll_concat
    (driver : MemoryDriver)
    (requests : List Request)
    (request : Request) :
    driver.serveAll (requests ++ [request]) =
      (driver.serveAll requests).serve request :=
  serveAll_append driver requests [request]

/-- What every request keeps holds after any requests. -/
theorem serveAll_keeps
    {fact : MemoryDriver → Prop}
    (keeps : ∀ driver, fact driver → ∀ request, fact (driver.serve request))
    {driver : MemoryDriver}
    (holds : fact driver)
    (requests : List Request) : fact (driver.serveAll requests) := by
  induction requests generalizing driver with
  | nil => exact holds
  | cons request _ hypothesis =>
      exact hypothesis (keeps driver holds request)

/-! ## What a request can do -/

/-- Two drivers differ at most in what they have noted and in what they count:
calls, violations, the slots in use, the place of their records. -/
structure Alike (driver next : MemoryDriver) : Prop where
  installed : next.installed = driver.installed
  devices : next.devices = driver.devices
  adapters : next.adapters = driver.adapters
  sessions : next.sessions = driver.sessions
  lastNumber : next.lastNumber = driver.lastNumber
  signals : next.signals = driver.signals

variable {driver : MemoryDriver}

theorem Alike.refl (driver : MemoryDriver) : Alike driver driver :=
  ⟨rfl, rfl, rfl, rfl, rfl, rfl⟩

theorem Alike.trans
    {next last : MemoryDriver}
    (first : Alike driver next)
    (second : Alike next last) : Alike driver last :=
  ⟨second.installed.trans first.installed, second.devices.trans first.devices,
    second.adapters.trans first.adapters,
    second.sessions.trans first.sessions,
    second.lastNumber.trans first.lastNumber,
    second.signals.trans first.signals⟩

/-- What can become of a running session and of the signals, while both stay
in place. -/
inductive Turned (entry : RunningSession) (bank : Bank) :
    RunningSession → Bank → Prop
  | sending (outbound : PacketRing) :
      Turned entry bank { entry with outbound } bank
  | rewritten (index : Nat) (content : Bytes) :
      Turned entry bank
        { entry with inbound := entry.inbound.poke index content } bank
  | released {handle : SlotHandle} {inbound : PacketRing}
      (accepted : entry.inbound.release handle = .ok inbound) :
      Turned entry bank { entry with inbound } bank
  | received
      (healthy : entry.failed = false)
      (waiting : entry.inbound.isDrained = false) :
      Turned entry bank { entry with inbound := entry.inbound.delivering }
        (if entry.inbound.delivering.isDrained then bank.reset entry.readEvent
        else bank)
  | injected {content : Bytes} {handle : SlotHandle}
      {allocated inbound : PacketRing}
      (healthy : entry.failed = false)
      (accepted : entry.inbound.alloc content.length = .ok (handle, allocated))
      (filled : (do
        let written ← allocated.write handle content
        written.commit handle) = .ok inbound) :
      Turned entry bank { entry with inbound } (bank.set entry.readEvent)
  | unfilled {content : Bytes} {handle : SlotHandle}
      {allocated : PacketRing} {error : Ring.RingError}
      (accepted : entry.inbound.alloc content.length = .ok (handle, allocated))
      (failed : (do
        let written ← allocated.write handle content
        written.commit handle) = .error error) :
      Turned entry bank { entry with inbound := allocated } bank
  | failed :
      Turned entry bank { entry with failed := true } (bank.set entry.readEvent)

/-- The driver with a session and the signals changed. -/
def placed
    (driver : MemoryDriver)
    (number : Nat)
    (session : RunningSession)
    (signals : Bank) : MemoryDriver :=
  { driver with
    sessions := driver.sessions.insert number session
    signals }

/-- Everything that a request can do. -/
inductive Served (driver : MemoryDriver) : Request → MemoryDriver → Prop
  /-- Nothing but notes. -/
  | noted {next : MemoryDriver}
      (request : Request)
      (alike : Alike driver next) :
      Served driver request next
  | created (name tunnelType : String) (guid : Option Guid) :
      Served driver (.createAdapter name tunnelType guid)
        ((driver.register name guid).noteCall (.create name))
  | opened {name : String} {device : Nat}
      (found : driver.deviceNamed? name = some device) :
      Served driver (.openAdapter name) (driver.reopened name device)
  | closed {handle : AdapterHandle} {entry : OpenHandle}
      (found : driver.adapters.get? handle.number = some entry) :
      Served driver (.closeAdapter handle) (driver.closed handle.number entry)
  | deleted {next : MemoryDriver}
      (sessions : driver.sessions.isEmpty = true)
      (devices : driver.devices.isEmpty = true)
      (alike : Alike { driver with installed := false } next) :
      Served driver .deleteDriver next
  | started {handle : AdapterHandle} {capacity : UInt32} {entry : OpenHandle}
      (valid : CapacityBounds.inMemory.validate capacity = .ok capacity)
      (found : driver.adapters.get? handle.number = some entry)
      (idle : driver.isBusy entry.device = false)
      (granted : (startSession handle capacity driver).value =
        .ok ⟨driver.lastNumber + 1⟩) :
      Served driver (.startSession handle capacity)
        (driver.started entry.device capacity)
  | ended {handle : SessionHandle} {entry : RunningSession}
      {next : MemoryDriver}
      (found : driver.sessions.get? handle.number = some entry)
      (alike : Alike (driver.dismissed handle.number entry) next) :
      Served driver (.endSession handle) next
  /-- There was nothing to be received. -/
  | emptied {handle : SessionHandle} {entry : RunningSession}
      (found : driver.sessions.get? handle.number = some entry)
      (healthy : entry.failed = false)
      (nothing : entry.inbound.isDrained = true) :
      Served driver (.receivePacket handle) (driver.resetSignal entry.readEvent)
  | turned {request : Request} {number : Nat} {entry changed : RunningSession}
      {signals : Bank}
      (found : driver.sessions.get? number = some entry)
      (turned : Turned entry driver.signals changed signals) :
      Served driver request (driver.placed number changed signals)
  /-- Events that were given out changed, only by the request. -/
  | signalled {request : Request} {signals : Bank}
      (nextSignal_le : driver.signals.nextSignal ≤ signals.nextSignal)
      (isSet : ∀ event, event < driver.signals.nextSignal →
        request.event? ≠ some event →
          signals.isSet event = driver.signals.isSet event)
      (complete : driver.signals.IsComplete → signals.IsComplete) :
      Served driver request { driver with signals }

theorem Turned.device_eq
    {entry changed : RunningSession}
    {bank signals : Bank}
    (turned : Turned entry bank changed signals) :
    changed.device = entry.device := by
  cases turned <;> rfl

theorem Turned.readEvent_eq
    {entry changed : RunningSession}
    {bank signals : Bank}
    (turned : Turned entry bank changed signals) :
    changed.readEvent = entry.readEvent := by
  cases turned <;> rfl

/-- A change shows at no event but that of the session. -/
theorem Turned.isSet_of_ne
    {entry changed : RunningSession}
    {bank signals : Bank}
    (turned : Turned entry bank changed signals)
    {event : SignalId}
    (other : event ≠ entry.readEvent) :
    signals.isSet event = bank.isSet event := by
  cases turned with
  | sending | rewritten | released | unfilled => rfl
  | received =>
      split
      case isTrue => rw [Bank.isSet_reset, if_neg other]
      case isFalse => rfl
  | injected | failed => rw [Bank.isSet_set, if_neg other]

/-- The session that is found for a name is a running one. -/
theorem get?_of_sessionFor?
    {name : String}
    {number : Nat}
    {entry : RunningSession}
    (found : driver.sessionFor? name = some (number, entry)) :
    driver.sessions.get? number = some entry := by
  unfold sessionFor? at found
  simp only [Option.bind_eq_bind, Option.bind_eq_some_iff, Option.pure_def,
    Option.some.injEq, Prod.mk.injEq] at found
  obtain ⟨_, _, _, _, session, _, other, running, rfl, rfl⟩ := found
  exact running

theorem alike_violateLeft
    (name : String)
    (count : Nat)
    (what : String)
    (driver : MemoryDriver) :
    Alike driver (violateLeft name count what driver).state := by
  unfold violateLeft
  split <;> exact ⟨rfl, rfl, rfl, rfl, rfl, rfl⟩

/-- Ending a session takes it away, whatever packets it has left. -/
theorem alike_endSession
    {handle : SessionHandle}
    {entry : RunningSession}
    (found : driver.sessions.get? handle.number = some entry) :
    Alike (driver.dismissed handle.number entry)
      (endSession handle driver).state := by
  unfold endSession
  simp only [found, Action.state_andThen, dismissed_eq]
  exact (alike_violateLeft _ _ _ _).trans (alike_violateLeft _ _ _ _)

/-- A received packet that is taken back was released by the inbound ring. -/
theorem release_of_acceptReceived
    {session : SessionHandle}
    {packet : RawPacket}
    {entry changed : RunningSession}
    (accepted : acceptReceived session packet entry = .ok changed) :
    ∃ handle inbound, entry.inbound.release handle = .ok inbound ∧
      changed = { entry with inbound } := by
  unfold acceptReceived at accepted
  cases resolved : entry.inbound.resolve (.ofTag packet.tag)
      (pointerInto session .inbound packet.address) .delivered with
  | error error =>
      rw [resolved] at accepted
      cases accepted
  | ok handle =>
      rw [resolved] at accepted
      change (entry.inbound.release handle).bind _ = _ at accepted
      cases released : entry.inbound.release handle with
      | error error =>
          rw [released] at accepted
          cases accepted
      | ok inbound =>
          rw [released] at accepted
          exact ⟨handle, inbound, released, (Except.ok.inj accepted).symm⟩

/-- A buffer that is taken back changes the outbound ring only. -/
theorem exists_of_acceptAllocated
    {session : SessionHandle}
    {packet : RawPacket}
    {entry changed : RunningSession}
    (accepted : acceptAllocated session packet entry = .ok changed) :
    ∃ outbound, changed = { entry with outbound } := by
  unfold acceptAllocated at accepted
  cases resolved : entry.outbound.resolve (.ofTag packet.tag)
      (pointerInto session .outbound packet.address) .allocated with
  | error error =>
      rw [resolved] at accepted
      cases accepted
  | ok handle =>
      rw [resolved] at accepted
      change (entry.outbound.commit handle).bind _ = _ at accepted
      cases committed : entry.outbound.commit handle with
      | error error =>
          rw [committed] at accepted
          cases accepted
      | ok outbound =>
          rw [committed] at accepted
          exact ⟨outbound, (Except.ok.inj accepted).symm⟩

/-! ## Requests to one session -/

/-- The session to which packets or a name lead, for the requests that take or
bring packets of one session and the one that takes its device away. -/
def target? (driver : MemoryDriver) : Request → Option Nat
  | .receivePacket session | .releaseReceived session _
  | .allocateSend session _ | .sendPacket session _ => some session.number
  | .writePacket packet _ _ =>
      match packet.address.buffer with
      | .slot session _ _ => some session
      | .numbered _ => none
  | .inject name _ | .drainOutbound name | .failSession name =>
      (driver.sessionFor? name).map (·.1)
  | _ => none

/-- At most the session to which a request is, and its event, have changed. -/
inductive Touched (driver : MemoryDriver) (request : Request) :
    MemoryDriver → Prop
  /-- Nothing but notes. -/
  | noted {next : MemoryDriver}
      (alike : Alike driver next) :
      Touched driver request next
  /-- There was nothing to be received. -/
  | emptied {handle : SessionHandle} {entry : RunningSession}
      (receives : request = .receivePacket handle)
      (found : driver.sessions.get? handle.number = some entry)
      (healthy : entry.failed = false)
      (nothing : entry.inbound.isDrained = true) :
      Touched driver request (driver.resetSignal entry.readEvent)
  | turned {number : Nat} {entry changed : RunningSession} {signals : Bank}
      (aimed : driver.target? request = some number)
      (found : driver.sessions.get? number = some entry)
      (turned : Turned entry driver.signals changed signals) :
      Touched driver request (driver.placed number changed signals)

namespace Touched

variable {request : Request} {next : MemoryDriver}

/-- What is done to one session is one of the things that requests do. -/
theorem served (touched : Touched driver request next) :
    Served driver request next := by
  cases touched with
  | noted alike => exact .noted request alike
  | emptied receives found healthy nothing =>
      subst receives
      exact .emptied found healthy nothing
  | turned _ found turned => exact .turned found turned

/-- Other sessions stay as they are. -/
theorem get?_of_ne
    (touched : Touched driver request next)
    {number : Nat}
    (other : driver.target? request ≠ some number) :
    next.sessions.get? number = driver.sessions.get? number := by
  cases touched with
  | noted alike => rw [alike.sessions]
  | emptied => rfl
  | turned aimed =>
      refine (Table.get?_insert _ _ _ _).trans (if_neg ?_)
      rintro rfl
      exact other aimed

/-- Events of other sessions stay as they are. -/
theorem isSet_of_ne
    (touched : Touched driver request next)
    {event : SignalId}
    (other : ∀ number entry, driver.target? request = some number →
      driver.sessions.get? number = some entry → entry.readEvent ≠ event) :
    next.signals.isSet event = driver.signals.isSet event := by
  cases touched with
  | noted alike => rw [alike.signals]
  | @emptied _ entry receives found =>
      subst receives
      exact (Bank.isSet_reset _ _).trans
        (if_neg (other _ entry rfl found).symm)
  | @turned _ entry _ _ aimed found turned =>
      exact turned.isSet_of_ne (other _ entry aimed found).symm

end Touched

section Touches

variable (driver)

theorem touched_receivePacket (session : SessionHandle) :
    Touched driver (.receivePacket session)
      (driver.serve (.receivePacket session)) := by
  change Touched driver _ (receivePacket session driver).state
  unfold receivePacket
  split
  case h_1 => exact .noted (.refl driver)
  case h_2 entry found =>
    split
    case isTrue => exact .noted (.refl driver)
    case isFalse healthy =>
      rw [Bool.not_eq_true] at healthy
      rw [PacketRing.pop_eq]
      cases drained : entry.inbound.isDrained with
      | true => exact .emptied rfl found healthy drained
      | false =>
          have turned : Turned entry driver.signals _ _ :=
            .received healthy drained
          simp only [Bool.false_eq_true, if_false]
          split
          case isTrue emptied =>
            rw [if_pos emptied] at turned
            exact .turned rfl found turned
          case isFalse left =>
            rw [if_neg left] at turned
            exact .turned rfl found turned

theorem touched_handBack
    {request : Request}
    {session : SessionHandle}
    (aimed : driver.target? request = some session.number)
    (operation kind : String)
    {accept : RunningSession → Except Ring.RingError RunningSession}
    (turns : ∀ entry changed, accept entry = .ok changed →
      Turned entry driver.signals changed driver.signals) :
    Touched driver request (handBack operation kind accept session driver).state := by
  unfold handBack
  split
  case h_1 => exact .noted ⟨rfl, rfl, rfl, rfl, rfl, rfl⟩
  case h_2 entry found =>
    split
    case h_1 => exact .noted ⟨rfl, rfl, rfl, rfl, rfl, rfl⟩
    case h_2 changed accepted =>
      exact .turned aimed found (turns entry changed accepted)

theorem touched_releaseReceived (session : SessionHandle) (packet : RawPacket) :
    Touched driver (.releaseReceived session packet)
      (driver.serve (.releaseReceived session packet)) := by
  refine driver.touched_handBack rfl _ _ fun entry changed accepted => ?_
  obtain ⟨handle, inbound, released, rfl⟩ := release_of_acceptReceived accepted
  exact .released released

theorem touched_sendPacket (session : SessionHandle) (packet : RawPacket) :
    Touched driver (.sendPacket session packet)
      (driver.serve (.sendPacket session packet)) := by
  refine driver.touched_handBack rfl _ _ fun entry changed accepted => ?_
  obtain ⟨outbound, rfl⟩ := exists_of_acceptAllocated accepted
  exact .sending outbound

theorem touched_allocateSend (session : SessionHandle) (size : Nat) :
    Touched driver (.allocateSend session size)
      (driver.serve (.allocateSend session size)) := by
  change Touched driver _ (allocateSend session size driver).state
  unfold allocateSend
  split
  case h_1 => exact .noted (.refl driver)
  case h_2 =>
    split
    case h_1 => exact .noted (.refl driver)
    case h_2 entry found =>
      split
      case isTrue => exact .noted (.refl driver)
      case isFalse =>
        split
        case h_1 => exact .noted (.refl driver)
        case h_2 => exact .turned rfl found (.sending _)

theorem touched_writePacket (packet : RawPacket) (start : Nat) (content : Bytes) :
    Touched driver (.writePacket packet start content)
      (driver.serve (.writePacket packet start content)) := by
  change Touched driver _ (writePacket packet start content driver)
  unfold writePacket
  split
  case h_1 => exact .noted (.refl driver)
  case h_2 number direction index place =>
    have aimed : driver.target? (.writePacket packet start content) =
        some number := by
      simp only [target?, place]
    split
    case h_1 => exact .noted (.refl driver)
    case h_2 entry found =>
      cases direction with
      | inbound => exact .turned aimed found (.rewritten _ _)
      | outbound => exact .turned aimed found (.sending _)

theorem touched_inject (name : String) (content : Bytes) :
    Touched driver (.inject name content) (driver.serve (.inject name content)) := by
  change Touched driver _ (inject name content driver).state
  unfold inject
  split
  case h_1 size number entry valid found =>
    have runs := get?_of_sessionFor? found
    have aimed : driver.target? (.inject name content) = some number :=
      Option.map_eq_some_iff.mpr ⟨_, found, rfl⟩
    split
    case isTrue => exact .noted (.refl driver)
    case isFalse healthy =>
      rw [Bool.not_eq_true] at healthy
      split
      case h_1 => exact .noted (.refl driver)
      case h_2 handle allocated accepted =>
        dsimp only
        split
        case h_1 error failed => exact .turned aimed runs (.unfilled accepted failed)
        case h_2 inbound filled =>
          exact .turned aimed runs (.injected healthy accepted filled)
  case h_2 => exact .noted (.refl driver)

theorem touched_drainOutbound (name : String) :
    Touched driver (.drainOutbound name) (driver.serve (.drainOutbound name)) := by
  change Touched driver _ (drainOutbound name driver).state
  unfold drainOutbound
  split
  case h_1 => exact .noted (.refl driver)
  case h_2 number entry found =>
    exact .turned (Option.map_eq_some_iff.mpr ⟨_, found, rfl⟩)
      (get?_of_sessionFor? found) (.sending _)

theorem touched_failSession (name : String) :
    Touched driver (.failSession name) (driver.serve (.failSession name)) := by
  change Touched driver _ (failSession name driver).state
  unfold failSession
  split
  case h_1 => exact .noted (.refl driver)
  case h_2 number entry found =>
    exact .turned (Option.map_eq_some_iff.mpr ⟨_, found, rfl⟩)
      (get?_of_sessionFor? found) .failed

end Touches

/-! ## Each request does one of these things -/

section Served

variable (driver)

theorem served_closeAdapter (adapter : AdapterHandle) :
    Served driver (.closeAdapter adapter)
      (driver.serve (.closeAdapter adapter)) := by
  change Served driver _ (closeAdapter adapter driver).state
  cases found : driver.adapters.get? adapter.number with
  | none =>
      unfold closeAdapter
      simp only [found]
      exact .noted _ ⟨rfl, rfl, rfl, rfl, rfl, rfl⟩
  | some entry =>
      rw [state_closeAdapter found]
      exact .closed found

theorem served_deleteDriver :
    Served driver .deleteDriver (driver.serve .deleteDriver) := by
  change Served driver _ (deleteDriver driver).state
  simp only [deleteDriver]
  split
  case isTrue => exact .noted _ ⟨rfl, rfl, rfl, rfl, rfl, rfl⟩
  case isFalse sessions =>
    split
    case isTrue => exact .noted _ ⟨rfl, rfl, rfl, rfl, rfl, rfl⟩
    case isFalse devices =>
      refine .deleted ?_ ?_ ⟨rfl, rfl, rfl, rfl, rfl, rfl⟩
      · rwa [Bool.not_eq_true, Bool.not_eq_false'] at sessions
      · rwa [Bool.not_eq_true, Bool.not_eq_false'] at devices

theorem served_startSession (adapter : AdapterHandle) (capacity : UInt32) :
    Served driver (.startSession adapter capacity)
      (driver.serve (.startSession adapter capacity)) := by
  change Served driver _ (startSession adapter capacity driver).state
  unfold startSession
  split
  case h_1 => exact .noted _ (.refl driver)
  case h_2 granted valid =>
    obtain rfl := eq_of_validate valid
    split
    case h_1 => exact .noted _ (.refl driver)
    case h_2 entry found =>
      split
      case isTrue => exact .noted _ (.refl driver)
      case isFalse idle =>
        split
        case isTrue => exact .noted _ (.refl driver)
        case isFalse fits =>
          refine .started valid found (by simpa using idle) ?_
          simp only [startSession, valid, found]
          rw [if_neg idle, if_neg fits]
          rfl

theorem served_stepWait (wait : Wait) (now : Nanoseconds) :
    Served driver (.stepWait wait now) (driver.serve (.stepWait wait now)) := by
  change Served driver _ { driver with signals := (wait.step now driver.signals).2 }
  refine .signalled ?_ (fun event _ _ => ?_) fun complete =>
    wait.isComplete_step complete now
  · rcases wait.step_cases now driver.signals with same | same | ⟨_, same⟩ | ⟨_, same⟩ <;>
      rw [same] <;> exact Nat.le_refl _
  · exact wait.isSet_step now driver.signals event

/-- A wait makes a waiter when it begins, and nothing if it breaks off. -/
theorem serve_beginWait
    (own cancel : EventHandle)
    (interrupt : Option EventHandle)
    (timeout : Option Signal.Nanoseconds)
    (now : Signal.Nanoseconds) :
    driver.serve (.beginWait own cancel interrupt timeout now) =
        { driver with signals := driver.signals.newWaiter.2 } ∨
      driver.serve (.beginWait own cancel interrupt timeout now) = driver := by
  change (beginWait own cancel interrupt timeout now driver).state = _ ∨
    (beginWait own cancel interrupt timeout now driver).state = _
  cases nameable : Signal.isNameable (timeout.map (now + ·)) with
  | true =>
      exact .inl (by
        rw [beginWait, Signal.Wait.startWithin_of_nameable nameable]; rfl)
  | false =>
      exact .inr (by
        rw [beginWait, Signal.Wait.startWithin_of_unnameable nameable])

/-- Every request does one of the things that are listed. -/
theorem served (request : Request) :
    Served driver request (driver.serve request) := by
  cases request with
  | createAdapter name tunnelType guid =>
      rcases createAdapter_cases driver name tunnelType guid with
        ⟨_, _, same⟩ | ⟨_, made⟩
      · change Served driver _ (createAdapter name tunnelType guid driver).state
        rw [same]
        exact .noted _ (.refl driver)
      · change Served driver _ (createAdapter name tunnelType guid driver).state
        rw [made]
        exact .created name tunnelType guid
  | openAdapter name =>
      rcases openAdapter_cases driver name with ⟨_, _, same⟩ | ⟨_, found, _, made⟩
      · change Served driver _ (openAdapter name driver).state
        rw [same]
        exact .noted _ (.refl driver)
      · change Served driver _ (openAdapter name driver).state
        rw [made]
        exact .opened found
  | closeAdapter adapter => exact driver.served_closeAdapter adapter
  | deleteDriver => exact driver.served_deleteDriver
  | startSession adapter capacity =>
      exact driver.served_startSession adapter capacity
  | endSession session =>
      cases found : driver.sessions.get? session.number with
      | none =>
          change Served driver _ (endSession session driver).state
          unfold endSession
          simp only [found]
          exact .noted _ ⟨rfl, rfl, rfl, rfl, rfl, rfl⟩
      | some entry => exact .ended found (alike_endSession found)
  | readWaitEvent session =>
      change Served driver _ (readWaitEvent session driver).state
      unfold readWaitEvent
      split <;> exact .noted _ (.refl driver)
  | receivePacket session => exact (driver.touched_receivePacket session).served
  | releaseReceived session packet =>
      exact (driver.touched_releaseReceived session packet).served
  | allocateSend session size =>
      exact (driver.touched_allocateSend session size).served
  | sendPacket session packet =>
      exact (driver.touched_sendPacket session packet).served
  | writePacket packet start content =>
      exact (driver.touched_writePacket packet start content).served
  | runningVersion =>
      change Served driver _ (runningVersion driver).state
      unfold runningVersion
      split <;> exact .noted _ (.refl driver)
  | setSink sink => exact .noted _ ⟨rfl, rfl, rfl, rfl, rfl, rfl⟩
  | adapterLuid | isEventSet | dropEvent => exact .noted _ (.refl driver)
  | newEvent =>
      refine .signalled (Nat.le_succ _) (fun event given _ => ?_)
        Bank.IsComplete.newSignal
      exact (Bank.isSet_newSignal event).trans (if_neg (Nat.ne_of_lt given))
  | setEvent event =>
      refine .signalled (Bank.nextSignal_set _).ge (fun other _ untouched => ?_)
        fun complete => complete.set _
      rw [Bank.isSet_set, if_neg fun same => untouched (congrArg some same.symm)]
  | resetEvent event =>
      refine .signalled (Nat.le_refl _) (fun other _ untouched => ?_)
        fun complete => complete.setSignal _ _
      rw [Bank.isSet_reset, if_neg fun same => untouched (congrArg some same.symm)]
  | beginWait own cancel interrupt timeout now =>
      rcases driver.serve_beginWait own cancel interrupt timeout now with
        begun | broken
      · rw [begun]
        exact .signalled (Nat.le_refl _) (fun event _ _ => rfl) id
      · rw [broken]
        exact .noted _ (.refl driver)
  | stepWait wait now => exact driver.served_stepWait wait now
  | inject name content => exact (driver.touched_inject name content).served
  | drainOutbound name => exact (driver.touched_drainOutbound name).served
  | failSession name => exact (driver.touched_failSession name).served

end Served

/-! ## Sessions and numbers after a request -/

/-- A session that runs after a request ran before, on the same device and with
the same event, or was started by the request. -/
theorem session_serve_cases
    {request : Request}
    {number : Nat}
    {running : RunningSession}
    (found : (driver.serve request).sessions.get? number = some running) :
    (∃ before, driver.sessions.get? number = some before ∧
      before.device = running.device ∧
      before.readEvent = running.readEvent) ∨
    ∃ handle capacity entry,
      request = .startSession handle capacity ∧
      driver.adapters.get? handle.number = some entry ∧
      (startSession handle capacity driver).value = .ok ⟨number⟩ ∧
      driver.serve request = driver.started entry.device capacity ∧
      number = driver.lastNumber + 1 ∧
      running.device = entry.device ∧
      running.readEvent = driver.signals.nextSignal := by
  have served := driver.served request
  generalize state : driver.serve request = next at served found
  cases served with
  | noted _ alike =>
      rw [alike.sessions] at found
      exact .inl ⟨running, found, rfl, rfl⟩
  | deleted _ _ alike =>
      rw [alike.sessions] at found
      exact .inl ⟨running, found, rfl, rfl⟩
  | created | opened | closed | emptied | signalled =>
      exact .inl ⟨running, found, rfl, rfl⟩
  | @started handle capacity entry _ known _ granted =>
      rw [get?_sessions_started] at found
      split at found
      case isTrue same =>
        obtain rfl := Option.some.inj found
        exact .inr ⟨handle, capacity, entry, rfl, known, same ▸ granted, rfl,
          same, rfl, rfl⟩
      case isFalse => exact .inl ⟨running, found, rfl, rfl⟩
  | ended _ alike =>
      rw [alike.sessions] at found
      exact .inl ⟨running, (Table.of_get?_erase found).2, rfl, rfl⟩
  | @turned _ other entry changed _ known turned =>
      change (driver.sessions.insert _ _).get? number = _ at found
      rw [Table.get?_insert] at found
      split at found
      case isTrue same =>
        obtain rfl := Option.some.inj found
        exact .inl ⟨entry, same ▸ known, turned.device_eq.symm,
          turned.readEvent_eq.symm⟩
      case isFalse => exact .inl ⟨running, found, rfl, rfl⟩

/-- Numbers that were given out stay so. -/
theorem lastNumber_le_serve (request : Request) :
    driver.lastNumber ≤ (driver.serve request).lastNumber := by
  have served := driver.served request
  generalize driver.serve request = next at served
  cases served with
  | noted _ alike => exact alike.lastNumber.ge
  | deleted _ _ alike => exact alike.lastNumber.ge
  | ended _ alike => exact alike.lastNumber.ge
  | created => exact Nat.le_add_right _ 2
  | opened | started => exact Nat.le_succ _
  | closed | emptied | turned | signalled => exact Nat.le_refl _

/-- No session runs later but those that ran before and those that were started
since. -/
structure Since (driver next : MemoryDriver) : Prop where
  /-- Numbers that were given out stay so. -/
  lastNumber_le : driver.lastNumber ≤ next.lastNumber
  /-- A session with an earlier number ran before. -/
  ran : ∀ number running, next.sessions.get? number = some running →
    number ≤ driver.lastNumber →
      ∃ before, driver.sessions.get? number = some before

theorem Since.refl (driver : MemoryDriver) : Since driver driver :=
  ⟨Nat.le_refl _, fun _ running found _ => ⟨running, found⟩⟩

theorem Since.trans
    {next last : MemoryDriver}
    (first : Since driver next)
    (second : Since next last) : Since driver last where
  lastNumber_le := first.lastNumber_le.trans second.lastNumber_le
  ran := fun number running found given => by
    obtain ⟨before, known⟩ :=
      second.ran number running found (given.trans first.lastNumber_le)
    exact first.ran number before known given

theorem since_serve (request : Request) :
    Since driver (driver.serve request) where
  lastNumber_le := lastNumber_le_serve request
  ran := fun number running found given => by
    rcases session_serve_cases found with
      ⟨before, known, _⟩ | ⟨_, _, _, _, _, _, _, rfl, _⟩
    · exact ⟨before, known⟩
    · exact absurd given (Nat.not_succ_le_self _)

end MemoryDriver
end Memory
end VirtualAdapter

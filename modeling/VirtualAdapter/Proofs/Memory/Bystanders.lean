import VirtualAdapter.Proofs.Memory.Names
import VirtualAdapter.Proofs.Memory.ReadEvents
import VirtualAdapter.Proofs.Memory.Registry

/-!
# Requests leave others alone

A request is to a session, to a device, or to neither, whatever becomes of it:
by the number of a session, through a packet, through an open handle, or by a
name.  All other sessions and devices are the same afterwards, also where the
number is out of date or the name has come to another device.
-/

namespace VirtualAdapter
namespace Memory
namespace MemoryDriver

open Signal (Bank SignalId)

/-- A request is to the session of a number. -/
def concernsSession
    (driver : MemoryDriver)
    (request : Request)
    (number : Nat) : Prop :=
  match request with
  | .endSession session | .readWaitEvent session | .receivePacket session
  | .releaseReceived session _ | .allocateSend session _
  | .sendPacket session _ => session.number = number
  | .writePacket packet _ _ =>
      ∃ direction index, packet.address.buffer = .slot number direction index
  | .inject name _ | .drainOutbound name | .failSession name =>
      driver.runsUnder number name = true
  | _ => False

/-- A request is to the device of a number. -/
def concernsDevice
    (driver : MemoryDriver)
    (request : Request)
    (number : Nat) : Prop :=
  match request with
  | .openAdapter name =>
      ∃ device, driver.devices.get? number = some device ∧
        sameName device.name name = true
  | .closeAdapter adapter | .startSession adapter _ =>
      ∃ entry, driver.adapters.get? adapter.number = some entry ∧
        entry.device = number
  | .endSession session =>
      ∃ running, driver.sessions.get? session.number = some running ∧
        running.device = number
  | _ => False

variable {driver : MemoryDriver}

/-- A request that changes a session is to that session. -/
theorem concernsSession_of_target?
    (distinct : Distinct driver)
    {request : Request}
    {number : Nat}
    (aimed : driver.target? request = some number) :
    driver.concernsSession request number := by
  cases request with
  | receivePacket | releaseReceived | allocateSend | sendPacket =>
      exact Option.some.inj aimed
  | writePacket packet =>
      simp only [target?] at aimed
      split at aimed
      case h_1 session direction index place =>
        obtain rfl := Option.some.inj aimed
        exact ⟨direction, index, place⟩
      case h_2 => cases aimed
  | inject | drainOutbound | failSession =>
      exact distinct.runsUnder_of_leads aimed
  | _ => cases aimed

/-! ## Devices -/

/-- A device to which a request is not stays as it is. -/
theorem get?_devices_serve_of_unconcerned
    (agreed : Agreed driver)
    {request : Request}
    {number : Nat}
    {device : Device}
    (found : driver.devices.get? number = some device)
    (unconcerned : ¬ driver.concernsDevice request number) :
    (driver.serve request).devices.get? number = some device := by
  have served := driver.served request
  generalize driver.serve request = next at served
  cases served with
  | noted _ alike => rw [alike.devices, found]
  | deleted _ _ alike => exact (congrArg (·.get? number) alike.devices).trans found
  | created name _ guid =>
      have known := agreed.device_le number device found
      exact ((Table.get?_insert _ _ _ _).trans (if_neg (by omega))).trans found
  | @opened name target named =>
      refine ((Table.get?_update _ _ _ _).trans (if_neg ?_)).trans found
      rintro rfl
      exact unconcerned (agreed.exists_of_deviceNamed? named)
  | @closed handle entry opened =>
      refine ((get?_devicesWithout_eq entry number).trans (if_neg ?_)).trans found
      rintro rfl
      exact unconcerned ⟨entry, opened, rfl⟩
  | @started handle capacity entry _ opened =>
      refine ((Table.get?_update _ _ _ _).trans (if_neg ?_)).trans found
      rintro rfl
      exact unconcerned ⟨entry, opened, rfl⟩
  | @ended handle entry _ runs alike =>
      rw [alike.devices]
      refine ((get?_devicesAfter_eq entry number).trans (if_neg ?_)).trans found
      rintro rfl
      exact unconcerned ⟨entry, runs, rfl⟩
  | emptied | turned | signalled => exact found

/-! ## Sessions -/

/-- A session and its event are the same after a change. -/
structure Spared
    (driver next : MemoryDriver)
    (number : Nat)
    (running : RunningSession) : Prop where
  /-- The session still runs, with the same rings and flags. -/
  runs : next.sessions.get? number = some running
  /-- Its event shows the same. -/
  isSet : next.signals.isSet running.readEvent =
    driver.signals.isSet running.readEvent

namespace Spared

variable
  {next : MemoryDriver}
  {request : Request}
  {number : Nat}
  {running : RunningSession}
  (found : driver.sessions.get? number = some running)

include found

theorem of_alike (alike : Alike driver next) :
    Spared driver next number running :=
  ⟨by rw [alike.sessions, found], by rw [alike.signals]⟩

/-- Packets of one session spare all others. -/
theorem of_touched
    (distinct : Distinct driver)
    (eventful : Eventful driver)
    (touched : Touched driver request next)
    (unconcerned : ¬ driver.concernsSession request number) :
    Spared driver next number running where
  runs := (touched.get?_of_ne fun aimed => unconcerned
    (concernsSession_of_target? distinct aimed)).trans found
  isSet := by
    refine touched.isSet_of_ne fun other entry aimed present same => ?_
    obtain rfl := eventful.apart other number entry running present found same
    exact unconcerned (concernsSession_of_target? distinct aimed)

/-- The start of a session spares all that run. -/
theorem of_started
    (eventful : Eventful driver)
    (device : Nat)
    (capacity : UInt32) :
    Spared driver (driver.started device capacity) number running where
  runs := by
    have known := eventful.session_le number running found
    rw [get?_sessions_started, if_neg (by omega), found]
  isSet := (Bank.isSet_newSignal _).trans
    (if_neg (eventful.given number running found).ne)

/-- The end of a session spares all others. -/
theorem of_ended
    (eventful : Eventful driver)
    {handle : SessionHandle}
    {entry : RunningSession}
    (present : driver.sessions.get? handle.number = some entry)
    (other : handle.number ≠ number)
    (alike : Alike (driver.dismissed handle.number entry) next) :
    Spared driver next number running where
  runs := by
    rw [alike.sessions]
    exact ((Table.get?_erase _ _ _).trans (if_neg other.symm)).trans found
  isSet := by
    rw [alike.signals]
    refine (Bank.isSet_set _ _).trans (if_neg fun same => other ?_)
    exact eventful.apart handle.number number entry running present found
      same.symm

end Spared

/-- A session to which a request is not stays as it is, and so does its event,
unless the request sets or resets just that. -/
theorem spared_serve_of_unconcerned
    (distinct : Distinct driver)
    (eventful : Eventful driver)
    {request : Request}
    {number : Nat}
    {running : RunningSession}
    (found : driver.sessions.get? number = some running)
    (unconcerned : ¬ driver.concernsSession request number)
    (untouched : request.event? ≠ some running.readEvent) :
    Spared driver (driver.serve request) number running := by
  cases request with
  | createAdapter name tunnelType guid =>
      change Spared driver (createAdapter name tunnelType guid driver).state _ _
      rcases createAdapter_cases driver name tunnelType guid with
          ⟨_, _, state⟩ | ⟨_, state⟩ <;>
        rw [state] <;> exact ⟨found, rfl⟩
  | openAdapter name =>
      change Spared driver (openAdapter name driver).state _ _
      rcases openAdapter_cases driver name with
          ⟨_, _, state⟩ | ⟨_, _, _, state⟩ <;>
        rw [state] <;> exact ⟨found, rfl⟩
  | closeAdapter adapter =>
      change Spared driver (closeAdapter adapter driver).state _ _
      cases opened : driver.adapters.get? adapter.number with
      | none => simp only [closeAdapter, opened]; exact ⟨found, rfl⟩
      | some entry => rw [state_closeAdapter opened]; exact ⟨found, rfl⟩
  | deleteDriver =>
      change Spared driver (deleteDriver driver).state _ _
      rw [state_deleteDriver]
      exact ⟨found, rfl⟩
  | runningVersion =>
      change Spared driver (runningVersion driver).state _ _
      unfold runningVersion
      split <;> exact ⟨found, rfl⟩
  | startSession adapter capacity =>
      change Spared driver (startSession adapter capacity driver).state _ _
      rcases startSession_cases driver adapter capacity with
        ⟨_, _, state⟩ | ⟨entry, _, _, _, state⟩
      · rw [state]
        exact ⟨found, rfl⟩
      · rw [state]
        exact .of_started found eventful entry.device capacity
  | endSession session =>
      change Spared driver (endSession session driver).state _ _
      cases present : driver.sessions.get? session.number with
      | none => simp only [endSession, present]; exact ⟨found, rfl⟩
      | some entry =>
          exact .of_ended found eventful present unconcerned
            (alike_endSession present)
  | readWaitEvent session =>
      change Spared driver (readWaitEvent session driver).state _ _
      unfold readWaitEvent
      split <;> exact ⟨found, rfl⟩
  | receivePacket session =>
      exact .of_touched found distinct eventful
        (driver.touched_receivePacket session) unconcerned
  | releaseReceived session packet =>
      exact .of_touched found distinct eventful
        (driver.touched_releaseReceived session packet) unconcerned
  | allocateSend session size =>
      exact .of_touched found distinct eventful
        (driver.touched_allocateSend session size) unconcerned
  | sendPacket session packet =>
      exact .of_touched found distinct eventful
        (driver.touched_sendPacket session packet) unconcerned
  | writePacket packet start content =>
      exact .of_touched found distinct eventful
        (driver.touched_writePacket packet start content) unconcerned
  | inject name content =>
      exact .of_touched found distinct eventful
        (driver.touched_inject name content) unconcerned
  | drainOutbound name =>
      exact .of_touched found distinct eventful
        (driver.touched_drainOutbound name) unconcerned
  | failSession name =>
      exact .of_touched found distinct eventful
        (driver.touched_failSession name) unconcerned
  | newEvent =>
      exact ⟨found, (Bank.isSet_newSignal _).trans
        (if_neg (eventful.given number running found).ne)⟩
  | setEvent event =>
      refine ⟨found, (Bank.isSet_set _ _).trans (if_neg fun same => ?_)⟩
      exact untouched (congrArg some same.symm)
  | resetEvent event =>
      refine ⟨found, (Bank.isSet_reset _ _).trans (if_neg fun same => ?_)⟩
      exact untouched (congrArg some same.symm)
  | stepWait wait now =>
      exact ⟨found, wait.isSet_step now driver.signals running.readEvent⟩
  | beginWait own cancel interrupt timeout now =>
      rcases driver.serve_beginWait own cancel interrupt timeout now with
        begun | broken
      · rw [begun]
        exact ⟨found, rfl⟩
      · rw [broken]
        exact ⟨found, rfl⟩
  | adapterLuid | setSink | isEventSet | dropEvent =>
      exact ⟨found, rfl⟩

/-! ## Whole runs -/

/-- After any requests to a new driver, one more request leaves every session
and every device to which it is not as they were: rings, flags and the state of
the event, unless it sets or resets just this event, and name, identifiers,
handles and session of the device. -/
theorem serve_spares_bystanders
    (version : DriverVersion)
    (slotBudget : Option Nat)
    (requests : List Request)
    (request : Request) :
    let driver := (fresh version slotBudget).serveAll requests
    let next := driver.serve request
    (∀ number running, driver.sessions.get? number = some running →
      ¬ driver.concernsSession request number →
        next.sessions.get? number = some running ∧
          (request.event? ≠ some running.readEvent →
            next.signals.isSet running.readEvent =
              driver.signals.isSet running.readEvent)) ∧
    ∀ number device, driver.devices.get? number = some device →
      ¬ driver.concernsDevice request number →
        next.devices.get? number = some device := by
  intro driver next
  have distinct : Distinct driver :=
    (distinct_fresh version slotBudget).serveAll requests
  have eventful : Eventful driver :=
    (eventful_fresh version slotBudget).serveAll requests
  refine ⟨fun number running found unconcerned => ⟨?_, fun untouched => ?_⟩,
    fun number device found unconcerned =>
      get?_devices_serve_of_unconcerned distinct.toAgreed found unconcerned⟩
  · by_cases untouched : request.event? = some running.readEvent
    · -- Setting and resetting an event leaves all sessions alone.
      cases request with
      | setEvent | resetEvent => exact found
      | _ => cases untouched
    · exact (spared_serve_of_unconcerned distinct eventful found unconcerned
        untouched).runs
  · exact (spared_serve_of_unconcerned distinct eventful found unconcerned
      untouched).isSet

/-- A name comes to another device while a session starts on what is left of
the first one: a packet that is injected by that name reaches the other device,
and the session on the first one stays as it is. -/
theorem serve_spares_bystanders_of_reused_name :
    let requests : List Request :=
      [.createAdapter "x" "t" none, .openAdapter "x", .closeAdapter ⟨2⟩,
        .createAdapter "X" "t" none, .startSession ⟨5⟩ 4, .startSession ⟨3⟩ 4]
    let driver := (fresh defaultVersion none).serveAll requests
    let next := driver.serve (.inject "x" [7])
    (inject "x" [7] driver).value = true ∧
      (∃ running, driver.sessions.get? 7 = some running ∧
        next.sessions.get? 7 = some running ∧
        next.signals.isSet running.readEvent =
          driver.signals.isSet running.readEvent) ∧
      ∃ device, driver.devices.get? 4 = some device ∧
        next.devices.get? 4 = some device := by
  intro requests driver next
  obtain ⟨sessions, devices⟩ := serve_spares_bystanders defaultVersion none
    requests (.inject "x" [7])
  have runs : (driver.sessions.get? 7).isSome = true := by decide +kernel
  have registered : (driver.devices.get? 4).isSome = true := by decide +kernel
  have elsewhere : driver.runsUnder 7 "x" = false := by decide +kernel
  obtain ⟨running, found⟩ := Option.isSome_iff_exists.mp runs
  obtain ⟨device, present⟩ := Option.isSome_iff_exists.mp registered
  obtain ⟨kept, isSet⟩ := sessions 7 running found
    (Bool.eq_false_iff.mp elsewhere)
  exact ⟨by decide +kernel, ⟨running, found, kept, isSet (fun own => nomatch own)⟩,
    device, present, devices 4 device present id⟩

end MemoryDriver
end Memory
end VirtualAdapter

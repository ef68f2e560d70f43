import VirtualAdapter.Proofs.Host.Moves
import VirtualAdapter.Proofs.Memory.Requests

/-!
# What the library asks of an in-memory driver

Every call that the library makes of the in-memory driver is a request.  So what
holds across requests holds across everything that the library does.
-/

namespace VirtualAdapter
namespace Host

open Memory (MemoryDriver Request)
open Memory.MemoryDriver (Since since_serve)

/-- Every call that the library makes of the driver is a request, and none that
resets an event. -/
theorem Asked.exists_request
    {driver next : MemoryDriver}
    (asked : Asked driver next) :
    ∃ request : Request, (∀ event, request ≠ .resetEvent event) ∧
      next = driver.serve request := by
  cases asked with
  | createAdapter name tunnelType guid =>
      exact ⟨.createAdapter name tunnelType guid, nofun, rfl⟩
  | openAdapter name => exact ⟨.openAdapter name, nofun, rfl⟩
  | closeAdapter adapter => exact ⟨.closeAdapter adapter, nofun, rfl⟩
  | adapterLuid adapter => exact ⟨.adapterLuid adapter, nofun, rfl⟩
  | runningVersion => exact ⟨.runningVersion, nofun, rfl⟩
  | deleteDriver => exact ⟨.deleteDriver, nofun, rfl⟩
  | setSink sink => exact ⟨.setSink sink, nofun, rfl⟩
  | startSession adapter capacity =>
      exact ⟨.startSession adapter capacity, nofun, rfl⟩
  | endSession session => exact ⟨.endSession session, nofun, rfl⟩
  | readWaitEvent session => exact ⟨.readWaitEvent session, nofun, rfl⟩
  | receivePacket session => exact ⟨.receivePacket session, nofun, rfl⟩
  | releaseReceived session packet =>
      exact ⟨.releaseReceived session packet, nofun, rfl⟩
  | allocateSend session size =>
      exact ⟨.allocateSend session size, nofun, rfl⟩
  | sendPacket session packet =>
      exact ⟨.sendPacket session packet, nofun, rfl⟩
  | writePacket packet start content =>
      exact ⟨.writePacket packet start content, nofun, rfl⟩
  | newEvent => exact ⟨.newEvent, nofun, rfl⟩
  | setEvent event => exact ⟨.setEvent event, nofun, rfl⟩
  | isEventSet event => exact ⟨.isEventSet event, nofun, rfl⟩
  | dropEvent event => exact ⟨.dropEvent event, nofun, rfl⟩
  | beginWait own cancel interrupt timeout now =>
      exact ⟨.beginWait own cancel interrupt timeout now, nofun, rfl⟩
  | stepWait wait now => exact ⟨.stepWait wait now, nofun, rfl⟩

/-! ## Sessions that were started since -/

variable {Value : Type}

theorem steady_since (origin : MemoryDriver) : Steady (Since origin) := by
  intro driver next since asked
  obtain ⟨request, _, rfl⟩ := asked.exists_request
  exact since.trans (since_serve request)

/-- Whatever the library does, no session runs afterwards but those that ran
before and those that were started since. -/
theorem Moves.since
    {action : Action (Host MemoryDriver) Value}
    (moves : Moves action)
    (host : Host MemoryDriver) :
    Since host.driver (action host).state.driver :=
  (steady_since host.driver).moves moves (.refl _)

/-- A start, too, whatever step it takes. -/
theorem since_startStep
    (start : Start)
    (phase : StartPhase)
    (host : Host MemoryDriver) :
    Since host.driver (start.step phase host).state.driver :=
  (steady_since host.driver).startStep start phase (.refl _)

end Host
end VirtualAdapter

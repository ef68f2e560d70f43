import VirtualAdapter.Proofs.Memory.ReadEvents
import VirtualAdapter.Proofs.Memory.Loans

/-!
# Refused requests leave the driver as it was

Some requests change a ring or an event before their last check.  In a driver
that was only changed by requests these checks never fail, and the event that is
reset when nothing is left to be received was not set.  So a request that is
refused changes nothing, and a refused removal of the driver is only noted.
-/

namespace VirtualAdapter
namespace Memory
namespace MemoryDriver

open VirtualAdapter.Signal (Bank SignalId)

/-- A request is answered with an error, or with the truth value that stands
for one. -/
def refuses (driver : MemoryDriver) : Request → Bool
  | .createAdapter name tunnelType guid =>
      !(createAdapter name tunnelType guid driver).value.isOk
  | .openAdapter name => !(openAdapter name driver).value.isOk
  | .startSession adapter capacity =>
      !(startSession adapter capacity driver).value.isOk
  | .readWaitEvent session => !(readWaitEvent session driver).value.isOk
  | .receivePacket session => !(receivePacket session driver).value.isOk
  | .allocateSend session size => !(allocateSend session size driver).value.isOk
  | .inject name content => !(inject name content driver).value
  | .failSession name => !(failSession name driver).value
  | _ => false

variable {driver : MemoryDriver}

/-! ## Events have states -/

/-- No request takes the state of an event away. -/
theorem isComplete_serve
    (complete : driver.signals.IsComplete)
    (request : Request) : (driver.serve request).signals.IsComplete := by
  have served := driver.served request
  generalize driver.serve request = next at served ⊢
  cases served with
  | noted _ alike => exact alike.signals ▸ complete
  | deleted _ _ alike => exact alike.signals ▸ complete
  | created | opened | closed => exact complete
  | started => exact complete.newSignal
  | ended _ alike =>
      rw [alike.signals]
      exact complete.set _
  | emptied => exact complete.setSignal _ _
  | turned _ turned =>
      cases turned with
      | sending | rewritten | released | unfilled => exact complete
      | received =>
          change Bank.IsComplete (if _ then _ else _)
          split
          · exact complete.setSignal _ _
          · exact complete
      | injected | failed => exact complete.set _
  | signalled _ _ keeps => exact keeps complete

theorem isComplete_serveAll
    (complete : driver.signals.IsComplete)
    (requests : List Request) :
    (driver.serveAll requests).signals.IsComplete :=
  @serveAll_keeps (·.signals.IsComplete) (fun _ => isComplete_serve) driver
    complete requests

/-! ## Sessions that lend nothing -/

section Running

variable
  {number : Nat}
  {entry : RunningSession}
  (found : driver.sessions.get? number = some entry)

include found

/-- A session that has nothing to be received has its event unset, so that
resetting it changes nothing. -/
theorem state_receivePacket_of_refused
    (sound : Sound entry)
    (announces : Announces driver number entry.readEvent)
    (complete : driver.signals.IsComplete)
    (refused : (receivePacket ⟨number⟩ driver).value.isOk = false) :
    (receivePacket ⟨number⟩ driver).state = driver := by
  cases failed : entry.failed with
  | true => rw [receivePacket_of_failed found failed]
  | false =>
      cases drained : entry.inbound.isDrained with
      | false =>
          rw [receivePacket_waiting found sound.inbound failed drained] at refused
          cases refused
      | true =>
          have unset : driver.signals.isSet entry.readEvent = false := by
            rw [← Bool.not_eq_true, announces.running entry found]
            simp [failed, drained]
          rw [receivePacket_of_drained found failed drained]
          change driver.resetSignal entry.readEvent = driver
          rw [resetSignal, complete.reset_eq_self announces.given unset]

/-- A session whose ring is full, or whose buffers cannot be that large, stays
as it is. -/
theorem state_allocateSend_of_refused
    (sound : Sound entry)
    {size : Nat}
    (refused : (allocateSend ⟨number⟩ size driver).value.isOk = false) :
    (allocateSend ⟨number⟩ size driver).state = driver := by
  rcases allocateSend_cases found sound.outbound size with
    ⟨failure, reply⟩ | ⟨_, reply⟩
  · rw [reply]
  · rw [reply] at refused
    cases refused

end Running

/-- A packet that cannot be put in leaves no trace. -/
theorem state_inject_of_refused
    (sound : ∀ number entry, driver.sessions.get? number = some entry →
      Sound entry)
    {name : String}
    {content : Bytes}
    (refused : (inject name content driver).value = false) :
    (inject name content driver).state = driver := by
  cases leads : driver.sessionFor? name with
  | none =>
      unfold inject
      simp only [leads]
      split
      case h_1 absent => cases absent
      case h_2 => rfl
  | some running =>
      obtain ⟨number, entry⟩ := running
      have ready := (sound number entry (get?_of_sessionFor? leads)).inbound
      rcases inject_cases ready content leads with ⟨_, same⟩ | ⟨_, accepted, _⟩
      · exact same
      · cases refused.symm.trans accepted

/-- Every request that is refused leaves the driver as it was. -/
theorem serve_of_refuses
    (sound : ∀ number entry, driver.sessions.get? number = some entry →
      Sound entry)
    (announces : ∀ number entry, driver.sessions.get? number = some entry →
      Announces driver number entry.readEvent)
    (complete : driver.signals.IsComplete)
    {request : Request}
    (refused : driver.refuses request = true) :
    driver.serve request = driver := by
  cases request with
  | createAdapter name tunnelType guid =>
      rcases createAdapter_cases driver name tunnelType guid with
        ⟨_, _, same⟩ | ⟨granted, _⟩
      · exact same
      · simp [refuses, granted, Except.isOk, Except.toBool] at refused
  | openAdapter name =>
      rcases openAdapter_cases driver name with
        ⟨_, _, same⟩ | ⟨_, _, granted, _⟩
      · exact same
      · simp [refuses, granted, Except.isOk, Except.toBool] at refused
  | startSession adapter capacity =>
      rcases startSession_cases driver adapter capacity with
        ⟨_, _, same⟩ | ⟨_, _, _, granted, _⟩
      · exact same
      · simp [refuses, granted, Except.isOk, Except.toBool] at refused
  | readWaitEvent session =>
      change (readWaitEvent session driver).state = driver
      unfold readWaitEvent
      split <;> rfl
  | receivePacket session =>
      have refused := (Bool.not_eq_true' _).mp refused
      change (receivePacket session driver).state = driver
      cases found : driver.sessions.get? session.number with
      | none => simp only [receivePacket, found]
      | some entry =>
          exact state_receivePacket_of_refused found (sound _ _ found)
            (announces _ _ found) complete refused
  | allocateSend session size =>
      have refused := (Bool.not_eq_true' _).mp refused
      change (allocateSend session size driver).state = driver
      cases found : driver.sessions.get? session.number with
      | none =>
          simp only [allocateSend, found]
          cases validatePacketSize size <;> rfl
      | some entry =>
          exact state_allocateSend_of_refused found (sound _ _ found) refused
  | inject name content =>
      exact state_inject_of_refused sound ((Bool.not_eq_true' _).mp refused)
  | failSession name =>
      change (failSession name driver).state = driver
      cases leads : driver.sessionFor? name with
      | none => simp only [failSession, leads]
      | some running => simp [refuses, failSession, leads] at refused
  | _ => cases refused

/-- A removal of the driver that is refused is noted, as a violation too if a
session runs, and changes nothing else. -/
theorem state_deleteDriver_of_refused
    (refused : (deleteDriver driver).value.isOk = false) :
    (deleteDriver driver).state =
      { driver with
        calls := driver.calls ++ [.delete]
        violations := driver.violations ++
          if driver.sessions.isEmpty then [] else [deletedEarly] } := by
  have busy : (driver.sessions.isEmpty && driver.devices.isEmpty) = false := by
    by_contra idle
    rw [Bool.not_eq_false, Bool.and_eq_true] at idle
    simp [deleteDriver, noteCall, idle, Except.isOk, Except.toBool] at refused
  rw [state_deleteDriver, deleted, busy]
  simp

/-- After any requests to a new driver, among which none sets or resets the
event of a running session: a request that is refused leaves the whole driver as
it was, and a refused removal of the driver adds its entry to the calls and, if
a session runs, one violation. -/
theorem refused_changes_nothing
    (version : DriverVersion)
    (slotBudget : Option Nat)
    (requests : List Request)
    (untouched : ∀ number entry,
      ((fresh version slotBudget).serveAll requests).sessions.get? number =
          some entry →
        ∀ request ∈ requests, request.event? ≠ some entry.readEvent) :
    let driver := (fresh version slotBudget).serveAll requests
    (∀ request, driver.refuses request = true →
      driver.serve request = driver) ∧
    ((deleteDriver driver).value.isOk = false →
      driver.serve .deleteDriver =
        { driver with
          calls := driver.calls ++ [.delete]
          violations := driver.violations ++
            if driver.sessions.isEmpty then [] else [deletedEarly] }) := by
  intro driver
  have complete : driver.signals.IsComplete :=
    isComplete_serveAll (fun _ given => absurd given (Nat.not_lt_zero _)) requests
  have sound : ∀ number entry, driver.sessions.get? number = some entry →
      Sound entry := fun number entry found =>
    ((life_accounts version slotBudget requests number).of_running found).sound
  have announces : ∀ number entry, driver.sessions.get? number = some entry →
      Announces driver number entry.readEvent := fun number entry found =>
    announces_serveAll version slotBudget requests found
      (untouched number entry found)
  exact ⟨fun request => serve_of_refuses sound announces complete,
    state_deleteDriver_of_refused⟩

/-- Two devices and a session that was set up with all slots of the budget: a
name that is taken, a name that is unknown, a busy device, a spent budget, a
handle that was never given out, nothing to be received, an empty buffer, and a
name without a session. -/
theorem refused_changes_nothing_of_one_session :
    let requests : List Request :=
      [.createAdapter "x" "t" none, .createAdapter "y" "t" none,
        .startSession ⟨2⟩ 4, .newEvent, .setEvent ⟨1⟩, .inject "x" [1],
        .receivePacket ⟨5⟩]
    let refusals : List Request :=
      [.createAdapter "X" "t" none, .openAdapter "z", .startSession ⟨2⟩ 4,
        .startSession ⟨4⟩ 4, .readWaitEvent ⟨9⟩, .receivePacket ⟨5⟩,
        .allocateSend ⟨5⟩ 0, .inject "y" [1], .failSession "y"]
    let driver := (fresh defaultVersion (some 8)).serveAll requests
    (∀ request ∈ refusals, driver.refuses request = true ∧
      driver.serve request = driver) ∧
    driver.serve .deleteDriver =
      { driver with
        calls := driver.calls ++ [.delete]
        violations := driver.violations ++ [deletedEarly] } := by
  intro requests refusals driver
  have event : ∀ entry ∈ driver.sessions.values, entry.readEvent = 0 := by
    decide +kernel
  have foreign : ∀ request ∈ requests, request.event? ≠ some 0 := by decide
  obtain ⟨kept, noted⟩ := refused_changes_nothing defaultVersion (some 8)
    requests fun number entry found => by
      rw [event entry (Table.mem_values_of_get? found)]
      exact foreign
  have refuses : ∀ request ∈ refusals, driver.refuses request = true := by
    decide +kernel
  have runs : driver.sessions.isEmpty = false := by decide +kernel
  refine ⟨fun request member =>
    ⟨refuses request member, kept request (refuses request member)⟩, ?_⟩
  have deleted := noted (by decide +kernel)
  change driver.serve .deleteDriver = _ at deleted
  rw [deleted]
  change { driver with
    calls := _, violations := _ ++ if driver.sessions.isEmpty then _ else _ } = _
  rw [runs]
  rfl

end MemoryDriver
end Memory
end VirtualAdapter

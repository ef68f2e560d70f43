import VirtualAdapter.Proofs.Memory.ReadEvents

/-!
# Events that no session has for its packets

Receiving and sending set and reset the events of sessions.  An event that was
given out for something else is touched only by requests that name it, so it
stays set until a request resets it.
-/

namespace VirtualAdapter
namespace Memory
namespace MemoryDriver

open Signal (Bank SignalId)

/-- An event was given out, and no session has it for its packets. -/
structure Reserved (driver : MemoryDriver) (event : SignalId) : Prop where
  /-- It was given out. -/
  given : event < driver.signals.nextSignal
  /-- It is the event of no session. -/
  apart : ∀ number running, driver.sessions.get? number = some running →
    running.readEvent ≠ event

variable {driver : MemoryDriver} {event : SignalId}

/-- Events that were given out stay so. -/
theorem nextSignal_le_serve (request : Request) :
    driver.signals.nextSignal ≤ (driver.serve request).signals.nextSignal := by
  have served := driver.served request
  generalize driver.serve request = next at served
  cases served with
  | noted _ alike => rw [alike.signals]
  | deleted _ _ alike => rw [alike.signals]
  | created | opened | closed | emptied => exact Nat.le_refl _
  | started => exact Nat.le_succ _
  | ended _ alike =>
      rw [alike.signals]
      exact (Bank.nextSignal_set _).ge
  | turned _ turned => exact turned.nextSignal_eq.ge
  | signalled nextSignal_le => exact nextSignal_le

namespace Reserved

/-- A new session gets a new event, so an event that was given out for something
else stays apart. -/
theorem serve
    (reserved : Reserved driver event)
    (request : Request) : Reserved (driver.serve request) event where
  given := reserved.given.trans_le (nextSignal_le_serve request)
  apart number running found := by
    rcases session_serve_cases found with
      ⟨before, known, _, same⟩ | ⟨_, _, _, _, _, _, _, _, _, new⟩
    · exact same ▸ reserved.apart number before known
    · exact new ▸ reserved.given.ne'

/-- A set event stays set under every request that does not reset it. -/
theorem isSet_serve
    (reserved : Reserved driver event)
    (isSet : driver.signals.isSet event = true)
    {request : Request}
    (kept : request ≠ .resetEvent ⟨event⟩) :
    (driver.serve request).signals.isSet event = true := by
  have served := driver.served request
  generalize state : driver.serve request = next at served
  cases served with
  | noted _ alike => rw [alike.signals, isSet]
  | deleted _ _ alike =>
      rw [alike.signals]
      exact isSet
  | created | opened | closed => exact isSet
  | started =>
      exact (Bank.isSet_newSignal event).trans
        ((if_neg reserved.given.ne).trans isSet)
  | ended _ alike =>
      rw [alike.signals]
      refine (Bank.isSet_set _ event).trans ?_
      split
      · rfl
      · exact isSet
  | emptied found =>
      exact (Bank.isSet_reset _ event).trans
        ((if_neg (reserved.apart _ _ found).symm).trans isSet)
  | turned found turned =>
      exact (turned.isSet_of_ne (reserved.apart _ _ found).symm).trans isSet
  | @signalled _ signals _ untouched =>
      by_cases named : request.event? = some event
      case neg => exact (untouched event reserved.given named).trans isSet
      case pos =>
        -- The request sets the event or resets it, and it does not reset it.
        cases request with
        | setEvent handle =>
            obtain rfl : handle.number = event := Option.some.inj named
            have same : driver.signals.set handle.number = signals :=
              congrArg MemoryDriver.signals state
            change signals.isSet _ = true
            rw [← same, Bank.isSet_set, if_pos rfl]
        | resetEvent handle =>
            obtain rfl : handle.number = event := Option.some.inj named
            exact absurd rfl kept
        | _ => cases named

end Reserved

/-- An event that is made is no session's. -/
theorem Eventful.reserved_newEvent (eventful : Eventful driver) :
    Reserved (driver.serve .newEvent) driver.signals.nextSignal where
  given := Nat.lt_succ_self _
  apart number running found := (eventful.given number running found).ne

end MemoryDriver
end Memory
end VirtualAdapter

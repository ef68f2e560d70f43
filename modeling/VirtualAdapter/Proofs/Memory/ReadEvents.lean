import Mathlib.Data.List.Induction
import VirtualAdapter.Proofs.Memory.Requests

/-!
# The events of running sessions

A session's event is set exactly while receiving from it would not block: a
packet can be delivered, or the device was taken away.  The end of the session
sets the event for good.  Requests change ring and event together; another
session never has the same event, so no request for one disturbs the other.
-/

namespace VirtualAdapter
namespace Memory
namespace MemoryDriver

open VirtualAdapter.Ring (PacketRing)
open VirtualAdapter.Ring.PacketRing (Ready)
open Signal (Bank SignalId)

/-- Sessions have rings in order and events of their own. -/
structure Eventful (driver : MemoryDriver) : Prop where
  /-- No inbound ring has an unfinished slot. -/
  ready : ∀ number running, driver.sessions.get? number = some running →
    Ready running.inbound
  /-- The events were given out. -/
  given : ∀ number running, driver.sessions.get? number = some running →
    running.readEvent < driver.signals.nextSignal
  /-- Different sessions have different events. -/
  apart : ∀ first second left right,
    driver.sessions.get? first = some left →
    driver.sessions.get? second = some right →
    left.readEvent = right.readEvent → first = second
  /-- Sessions have been given numbers. -/
  session_le : ∀ number running,
    driver.sessions.get? number = some running → number ≤ driver.lastNumber

/-- An event tells how it stands with the session of a number: whether there is
something to receive while it runs, and that it has ended afterwards. -/
structure Announces
    (driver : MemoryDriver)
    (number : Nat)
    (event : SignalId) : Prop where
  /-- The session has been given its number. -/
  numbered : number ≤ driver.lastNumber
  /-- The event was given out. -/
  given : event < driver.signals.nextSignal
  /-- It is the event of this session and of no other. -/
  own : ∀ other running, driver.sessions.get? other = some running →
    (running.readEvent = event ↔ other = number)
  /-- While the session runs, the event is set if receiving does not block. -/
  running : ∀ running, driver.sessions.get? number = some running →
    (driver.signals.isSet event = true ↔
      running.failed = true ∨ running.inbound.isDrained = false)
  /-- When the session has ended, the event is set. -/
  ended : driver.sessions.get? number = none →
    driver.signals.isSet event = true

/-! ## One session and its event -/

namespace Turned

variable {entry changed : RunningSession} {bank signals : Bank}

theorem ready
    (turned : Turned entry bank changed signals)
    (ready : Ready entry.inbound) : Ready changed.inbound := by
  cases turned with
  | sending | failed => exact ready
  | rewritten index content => exact ready.poke index content
  | released accepted => exact (ready.release accepted).1
  | received _ waiting =>
      exact ready.delivering (ready.isDrained_eq_false_iff.mp waiting)
  | injected _ accepted filled =>
      obtain ⟨room, same⟩ := ready.fill_eq accepted
      obtain rfl := Except.ok.inj (same.symm.trans filled)
      exact ready.filled room _
  | unfilled accepted failed =>
      -- An allocation of the right length can always be filled.
      rw [(ready.fill_eq accepted).2] at failed
      cases failed

/-- The event is set after a change exactly if receiving does not block, if
that was so before. -/
theorem isSet_iff
    (turned : Turned entry bank changed signals)
    (ready : Ready entry.inbound)
    (before : bank.isSet entry.readEvent = true ↔
      entry.failed = true ∨ entry.inbound.isDrained = false) :
    signals.isSet entry.readEvent = true ↔
      changed.failed = true ∨ changed.inbound.isDrained = false := by
  cases turned with
  | sending => exact before
  | rewritten index content =>
      rw [PacketRing.isDrained_poke]
      exact before
  | released accepted =>
      rw [(ready.release accepted).2]
      exact before
  | received healthy waiting =>
      split
      case isTrue emptied => simp [emptied, healthy]
      case isFalse left => simp [before, waiting, left]
  | injected _ accepted filled =>
      obtain ⟨room, same⟩ := ready.fill_eq accepted
      obtain rfl := Except.ok.inj (same.symm.trans filled)
      simp [ready.isDrained_filled room]
  | unfilled accepted failed =>
      rw [(ready.fill_eq accepted).2] at failed
      cases failed
  | failed => simp

theorem nextSignal_eq (turned : Turned entry bank changed signals) :
    signals.nextSignal = bank.nextSignal := by
  cases turned with
  | sending | rewritten | released | unfilled => rfl
  | received => split <;> rfl
  | injected | failed => exact Bank.nextSignal_set _

end Turned

variable {driver : MemoryDriver}

/-! ## Every request keeps the sessions in order -/

namespace Eventful

/-- Sessions stay in order where they stay the same. -/
theorem of_sessions
    {next : MemoryDriver}
    (eventful : Eventful driver)
    (sessions : ∀ number running, next.sessions.get? number = some running →
      driver.sessions.get? number = some running)
    (nextSignal_le : driver.signals.nextSignal ≤ next.signals.nextSignal)
    (lastNumber_le : driver.lastNumber ≤ next.lastNumber) : Eventful next where
  ready number running found :=
    eventful.ready number running (sessions number running found)
  given number running found :=
    (eventful.given number running (sessions number running found)).trans_le
      nextSignal_le
  apart first second left right found_first found_second :=
    eventful.apart first second left right (sessions first left found_first)
      (sessions second right found_second)
  session_le number running found :=
    (eventful.session_le number running (sessions number running found)).trans
      lastNumber_le

theorem started
    (eventful : Eventful driver)
    (device : Nat)
    {capacity : UInt32}
    (positive : 0 < capacity.toNat) :
    Eventful (driver.started device capacity) := by
  have sessions : ∀ number running,
      (driver.started device capacity).sessions.get? number = some running →
        running.readEvent = driver.signals.nextSignal ∧
          running.inbound = .ofCapacity capacity ∧
          number = driver.lastNumber + 1 ∨
        driver.sessions.get? number = some running := by
    intro number running found
    rw [get?_sessions_started] at found
    split at found
    case isTrue same =>
      obtain rfl := Option.some.inj found
      exact .inl ⟨rfl, rfl, same⟩
    case isFalse => exact .inr found
  constructor
  case ready =>
    intro number running found
    rcases sessions number running found with ⟨_, new, _⟩ | before
    · exact new ▸ PacketRing.ready_ofCapacity positive
    · exact eventful.ready number running before
  case given =>
    intro number running found
    change running.readEvent < driver.signals.nextSignal + 1
    rcases sessions number running found with ⟨new, _, _⟩ | before
    · exact new ▸ Nat.lt_succ_self _
    · exact Nat.lt_succ_of_lt (eventful.given number running before)
  case apart =>
    intro first second left right found_first found_second same
    exact Table.eq_of_get?_insert (·.readEvent) eventful.apart
      (fun other entry found => (eventful.given other entry found).ne)
      found_first found_second same
  case session_le =>
    intro number running found
    change number ≤ driver.lastNumber + 1
    rcases sessions number running found with ⟨_, _, new⟩ | before
    · exact new.le
    · exact Nat.le_succ_of_le (eventful.session_le number running before)

theorem placed
    (eventful : Eventful driver)
    {number : Nat}
    {entry changed : RunningSession}
    {signals : Bank}
    (found : driver.sessions.get? number = some entry)
    (turned : Turned entry driver.signals changed signals) :
    Eventful (driver.placed number changed signals) := by
  -- The changed session stands for the one that was there under its number.
  have sessions : ∀ other running,
      (driver.placed number changed signals).sessions.get? other =
        some running →
      ∃ before, driver.sessions.get? other = some before ∧
        before.readEvent = running.readEvent ∧
        (Ready before.inbound → Ready running.inbound) := by
    intro other running present
    change (driver.sessions.insert number changed).get? other = _ at present
    rw [Table.get?_insert] at present
    split at present
    case isTrue same =>
      obtain rfl := Option.some.inj present
      exact ⟨entry, same ▸ found, turned.readEvent_eq.symm, turned.ready⟩
    case isFalse => exact ⟨running, present, rfl, id⟩
  constructor
  case ready =>
    intro other running present
    obtain ⟨before, known, _, keeps⟩ := sessions other running present
    exact keeps (eventful.ready other before known)
  case given =>
    intro other running present
    obtain ⟨before, known, same, _⟩ := sessions other running present
    change _ < signals.nextSignal
    rw [← same, turned.nextSignal_eq]
    exact eventful.given other before known
  case apart =>
    intro first second left right found_first found_second same
    obtain ⟨former, known_first, same_left, _⟩ :=
      sessions first left found_first
    obtain ⟨latter, known_second, same_right, _⟩ :=
      sessions second right found_second
    exact eventful.apart first second former latter known_first known_second
      (same_left.trans (same.trans same_right.symm))
  case session_le =>
    intro other running present
    obtain ⟨before, known, _⟩ := sessions other running present
    exact eventful.session_le other before known

/-- Every request keeps the sessions in order. -/
theorem serve (eventful : Eventful driver) (request : Request) :
    Eventful (driver.serve request) := by
  have served := driver.served request
  generalize driver.serve request = next at served
  cases served with
  | noted _ alike =>
      exact eventful.of_sessions (fun _ _ found => alike.sessions ▸ found)
        (by rw [alike.signals]) alike.lastNumber.ge
  | created =>
      exact eventful.of_sessions (fun _ _ found => found) (Nat.le_refl _)
        (Nat.le_add_right _ 2)
  | opened =>
      exact eventful.of_sessions (fun _ _ found => found) (Nat.le_refl _)
        (Nat.le_succ _)
  | closed | emptied =>
      exact eventful.of_sessions (fun _ _ found => found) (Nat.le_refl _)
        (Nat.le_refl _)
  | deleted _ _ alike =>
      exact eventful.of_sessions (fun _ _ found => alike.sessions ▸ found)
        (by rw [alike.signals]) alike.lastNumber.ge
  | started valid =>
      have power := Ring.toNat_isPowerOfTwo (isPowerOfTwo_of_validate valid)
      exact eventful.started _ (Nat.pos_of_isPowerOfTwo power)
  | ended _ alike =>
      refine eventful.of_sessions (fun _ _ found => ?_) ?_ alike.lastNumber.ge
      · rw [alike.sessions] at found
        exact (Table.of_get?_erase found).2
      · rw [alike.signals]
        exact (Bank.nextSignal_set _).ge
  | turned found turned => exact eventful.placed found turned
  | signalled nextSignal_le =>
      exact eventful.of_sessions (fun _ _ found => found) nextSignal_le
        (Nat.le_refl _)

end Eventful

/-! ## Every request keeps what an event tells -/

namespace Announces

variable {number : Nat} {event : SignalId}

/-- An event tells the same where session and event stay the same. -/
theorem of_same
    {next : MemoryDriver}
    (announces : Announces driver number event)
    (sessions : next.sessions = driver.sessions)
    (isSet : next.signals.isSet event = driver.signals.isSet event)
    (nextSignal_le : driver.signals.nextSignal ≤ next.signals.nextSignal)
    (lastNumber_le : driver.lastNumber ≤ next.lastNumber) :
    Announces next number event where
  numbered := announces.numbered.trans lastNumber_le
  given := announces.given.trans_le nextSignal_le
  own := by
    rw [sessions]
    exact announces.own
  running := by
    rw [sessions, isSet]
    exact announces.running
  ended := by
    rw [sessions, isSet]
    exact announces.ended

/-- The start of another session leaves what an event tells. -/
theorem started
    (announces : Announces driver number event)
    (device : Nat)
    (capacity : UInt32) :
    Announces (driver.started device capacity) number event := by
  have older : number ≠ driver.lastNumber + 1 :=
    (Nat.lt_succ_of_le announces.numbered).ne
  have isSet : (driver.started device capacity).signals.isSet event =
      driver.signals.isSet event :=
    (Bank.isSet_newSignal event).trans (if_neg announces.given.ne)
  constructor
  case numbered => exact Nat.le_succ_of_le announces.numbered
  case given => exact Nat.lt_succ_of_lt announces.given
  case own =>
    intro other running found
    rw [get?_sessions_started] at found
    split at found
    case isTrue same =>
      obtain rfl := Option.some.inj found
      subst same
      exact ⟨fun same => absurd same announces.given.ne', fun same =>
        absurd same.symm older⟩
    case isFalse => exact announces.own other running found
  case running =>
    intro running found
    rw [get?_sessions_started, if_neg older] at found
    rw [isSet]
    exact announces.running running found
  case ended =>
    intro gone
    rw [get?_sessions_started, if_neg older] at gone
    rw [isSet]
    exact announces.ended gone

/-- The end of a session sets its event and no other. -/
theorem dismissed
    (announces : Announces driver number event)
    {other : Nat}
    {entry : RunningSession}
    (found : driver.sessions.get? other = some entry) :
    Announces (driver.dismissed other entry) number event := by
  have sessions : ∀ another, (driver.dismissed other entry).sessions.get? another =
      if another = other then none else driver.sessions.get? another :=
    fun _ => Table.get?_erase _ _ _
  have isSet : (driver.dismissed other entry).signals.isSet event =
      if event = entry.readEvent then true else driver.signals.isSet event :=
    Bank.isSet_set _ _
  have own := announces.own other entry found
  constructor
  case numbered => exact announces.numbered
  case given => exact announces.given.trans_eq (Bank.nextSignal_set _).symm
  case own =>
    intro another running present
    exact announces.own another running (Table.of_get?_erase present).2
  case running =>
    intro running present
    rw [sessions] at present
    split at present
    case isTrue => cases present
    case isFalse differs =>
      rw [isSet, if_neg fun same => differs (own.mp same.symm).symm]
      exact announces.running running present
  case ended =>
    intro gone
    rw [isSet]
    split
    case isTrue => rfl
    case isFalse differs =>
      rw [sessions, if_neg fun same => differs (own.mpr same.symm).symm] at gone
      exact announces.ended gone

/-- Resetting the event of a session that has nothing to be received leaves
what an event tells. -/
theorem emptied
    (announces : Announces driver number event)
    {other : Nat}
    {entry : RunningSession}
    (found : driver.sessions.get? other = some entry)
    (healthy : entry.failed = false)
    (nothing : entry.inbound.isDrained = true) :
    Announces (driver.resetSignal entry.readEvent) number event := by
  have isSet : (driver.resetSignal entry.readEvent).signals.isSet event =
      if event = entry.readEvent then false else driver.signals.isSet event :=
    Bank.isSet_reset _ _
  have own := announces.own other entry found
  refine ⟨announces.numbered, announces.given, announces.own, ?_, ?_⟩
  · intro running present
    rw [isSet]
    split
    case isTrue same =>
      obtain rfl := own.mp same.symm
      obtain rfl := Option.some.inj (found.symm.trans present)
      simp [healthy, nothing]
    case isFalse => exact announces.running running present
  · intro gone
    rw [isSet, if_neg]
    · exact announces.ended gone
    · intro same
      obtain rfl := own.mp same.symm
      cases found.symm.trans gone

theorem placed
    (announces : Announces driver number event)
    (eventful : Eventful driver)
    {other : Nat}
    {entry changed : RunningSession}
    {signals : Bank}
    (found : driver.sessions.get? other = some entry)
    (turned : Turned entry driver.signals changed signals) :
    Announces (driver.placed other changed signals) number event := by
  have sessions : ∀ another,
      (driver.placed other changed signals).sessions.get? another =
        if another = other then some changed
        else driver.sessions.get? another :=
    fun _ => Table.get?_insert _ _ _ _
  have own := announces.own other entry found
  constructor
  case numbered => exact announces.numbered
  case given => exact announces.given.trans_eq turned.nextSignal_eq.symm
  case own =>
    intro another running present
    rw [sessions] at present
    split at present
    case isTrue same =>
      obtain rfl := Option.some.inj present
      rw [turned.readEvent_eq, same]
      exact own
    case isFalse => exact announces.own another running present
  case running =>
    intro running present
    change signals.isSet event = true ↔ _
    rw [sessions] at present
    split at present
    case isTrue same =>
      obtain rfl := Option.some.inj present
      obtain rfl := own.mpr same.symm
      exact turned.isSet_iff (eventful.ready other entry found)
        (announces.running entry (same ▸ found))
    case isFalse differs =>
      rw [turned.isSet_of_ne fun same => differs (own.mp same.symm).symm]
      exact announces.running running present
  case ended =>
    intro gone
    change signals.isSet event = true
    rw [sessions] at gone
    split at gone
    case isTrue => cases gone
    case isFalse differs =>
      rw [turned.isSet_of_ne fun same => differs (own.mp same.symm).symm]
      exact announces.ended gone

/-- Every request that leaves the event to the driver keeps what it tells. -/
theorem serve
    (announces : Announces driver number event)
    (eventful : Eventful driver)
    (request : Request)
    (untouched : request.event? ≠ some event) :
    Announces (driver.serve request) number event := by
  have served := driver.served request
  generalize driver.serve request = next at served
  cases served with
  | noted _ alike =>
      exact announces.of_same alike.sessions (by rw [alike.signals])
        (by rw [alike.signals]) alike.lastNumber.ge
  | deleted _ _ alike =>
      exact announces.of_same alike.sessions (by rw [alike.signals])
        (by rw [alike.signals]) alike.lastNumber.ge
  | created =>
      exact announces.of_same rfl rfl (Nat.le_refl _) (Nat.le_add_right _ 2)
  | opened => exact announces.of_same rfl rfl (Nat.le_refl _) (Nat.le_succ _)
  | closed => exact announces.of_same rfl rfl (Nat.le_refl _) (Nat.le_refl _)
  | started => exact announces.started _ _
  | ended found alike =>
      exact (announces.dismissed found).of_same alike.sessions
        (by rw [alike.signals]) (by rw [alike.signals]) alike.lastNumber.ge
  | emptied found healthy nothing =>
      exact announces.emptied found healthy nothing
  | turned found turned => exact announces.placed eventful found turned
  | signalled nextSignal_le isSet =>
      exact announces.of_same rfl (isSet event announces.given untouched)
        nextSignal_le (Nat.le_refl _)

end Announces

/-! ## Whole runs -/

/-- A session that was just started has an unset event and an empty ring. -/
theorem announces_started
    (eventful : Eventful driver)
    (device : Nat)
    (capacity : UInt32) :
    Announces (driver.started device capacity) (driver.lastNumber + 1)
      driver.signals.nextSignal := by
  constructor
  case numbered => exact Nat.le_refl _
  case given => exact Nat.lt_succ_self _
  case own =>
    intro other running found
    rw [get?_sessions_started] at found
    split at found
    case isTrue same =>
      obtain rfl := Option.some.inj found
      exact ⟨fun _ => same, fun _ => rfl⟩
    case isFalse differs =>
      have older := (eventful.given other running found).ne
      exact ⟨fun same => absurd same older, fun same => absurd same differs⟩
  case running =>
    intro running found
    rw [get?_sessions_started, if_pos rfl] at found
    obtain rfl := Option.some.inj found
    have unset : (driver.started device capacity).signals.isSet
        driver.signals.nextSignal = false :=
      (Bank.isSet_newSignal _).trans (if_pos rfl)
    simp [unset, PacketRing.isDrained_ofCapacity]
  case ended =>
    intro gone
    rw [get?_sessions_started, if_pos rfl] at gone
    cases gone

theorem eventful_fresh (version : DriverVersion) (slotBudget : Option Nat) :
    Eventful (fresh version slotBudget) :=
  ⟨fun _ _ present => by simp [fresh] at present, fun _ _ present => by simp [fresh] at present,
    fun _ _ _ _ present => by simp [fresh] at present,
    fun _ _ present => by simp [fresh] at present⟩

theorem Eventful.serveAll
    (eventful : Eventful driver)
    (requests : List Request) : Eventful (driver.serveAll requests) :=
  serveAll_keeps (fun _ => Eventful.serve) eventful requests

theorem Announces.serveAll
    {number : Nat}
    {event : SignalId}
    (announces : Announces driver number event)
    (eventful : Eventful driver)
    (requests : List Request)
    (untouched : ∀ request ∈ requests, request.event? ≠ some event) :
    Announces (driver.serveAll requests) number event := by
  induction requests generalizing driver with
  | nil => exact announces
  | cons request requests hypothesis =>
      have first := announces.serve eventful request
        (untouched request List.mem_cons_self)
      exact hypothesis first (eventful.serve request)
        fun other later => untouched other (List.mem_cons_of_mem _ later)

/-- After any requests to a new driver, the event of a running session tells
how it stands, if only the driver has changed it. -/
theorem announces_serveAll
    (version : DriverVersion)
    (slotBudget : Option Nat)
    (requests : List Request)
    {number : Nat}
    {running : RunningSession}
    (found : ((fresh version slotBudget).serveAll requests).sessions.get?
      number = some running)
    (untouched : ∀ request ∈ requests, request.event? ≠ some running.readEvent) :
    Announces ((fresh version slotBudget).serveAll requests) number
      running.readEvent := by
  -- From the last request backwards: the session ran before it, or it is the
  -- start of the session.
  induction requests using List.reverseRecOn generalizing running with
  | nil => simp [serveAll, fresh] at found
  | append_singleton requests request hypothesis =>
      have eventful := (eventful_fresh version slotBudget).serveAll requests
      rw [serveAll_concat] at found ⊢
      rcases session_serve_cases found with
        ⟨before, known, _, same⟩ |
        ⟨handle, capacity, entry, _, _, _, started, rfl, _, event⟩
      · rw [← same] at untouched ⊢
        refine (hypothesis known fun other earlier => ?_).serve eventful request ?_
        · exact untouched other (List.mem_append_left _ earlier)
        · exact untouched request (List.mem_append_right _ List.mem_cons_self)
      · rw [started, event]
        exact announces_started eventful entry.device capacity

/-- After any requests to a new driver, a running session's event is set exactly
if the session has failed or something can be delivered; and once the session
has ended, its event is set, whatever else is requested.  Only the driver may
change the event. -/
theorem isSet_readEvent_iff
    (version : DriverVersion)
    (slotBudget : Option Nat)
    (requests later : List Request)
    (number : Nat)
    (running : RunningSession)
    (found : ((fresh version slotBudget).serveAll requests).sessions.get?
      number = some running)
    (untouched : ∀ request ∈ requests ++ later,
      request.event? ≠ some running.readEvent) :
    let now := (fresh version slotBudget).serveAll requests
    let last := (fresh version slotBudget).serveAll
      (requests ++ later)
    (now.signals.isSet running.readEvent = true ↔
      running.failed = true ∨ running.inbound.isDrained = false) ∧
    (last.sessions.get? number = none →
      last.signals.isSet running.readEvent = true) := by
  intro now last
  have eventful : Eventful now :=
    (eventful_fresh version slotBudget).serveAll requests
  have announces : Announces now number running.readEvent :=
    announces_serveAll version slotBudget requests found fun request earlier =>
      untouched request (List.mem_append_left _ earlier)
  have lasting : Announces last number running.readEvent := by
    change Announces (MemoryDriver.serveAll _ _) _ _
    rw [serveAll_append]
    exact announces.serveAll eventful later fun request beyond =>
      untouched request (List.mem_append_right _ beyond)
  exact ⟨announces.running running found, lasting.ended⟩

/-- A session gets two packets and hands one on; it is then failed, ended and
asked for more. -/
theorem isSet_readEvent_of_two :
    let requests : List Request :=
      [.createAdapter "x" "t" none, .startSession ⟨2⟩ 4, .newEvent,
        .inject "x" [1], .resetEvent ⟨1⟩, .inject "x" [2, 3],
        .receivePacket ⟨3⟩]
    let later : List Request :=
      [.failSession "x", .endSession ⟨3⟩, .receivePacket ⟨3⟩, .inject "x" [4]]
    let now := (fresh defaultVersion none).serveAll requests
    let last := (fresh defaultVersion none).serveAll (requests ++ later)
    ∃ running, now.sessions.get? 3 = some running ∧
      running.inbound.isDrained = false ∧
      now.signals.isSet running.readEvent = true ∧
      last.sessions.get? 3 = none ∧
      last.signals.isSet running.readEvent = true := by
  intro requests later now last
  have shown : (now.sessions.get? 3).map
      (fun running => (running.readEvent, running.inbound.isDrained)) =
        some (0, false) := by decide +kernel
  obtain ⟨running, found, state⟩ := Option.map_eq_some_iff.mp shown
  obtain ⟨event, waiting⟩ := Prod.mk.inj state
  have gone : last.sessions.get? 3 = none := by
    rw [← Option.isNone_iff_eq_none]
    decide +kernel
  obtain ⟨isSet_iff, ended⟩ := isSet_readEvent_iff defaultVersion none requests
    later 3 running found (by rw [event]; decide)
  exact ⟨running, found, waiting, isSet_iff.mpr (.inr waiting), gone, ended gone⟩

end MemoryDriver
end Memory
end VirtualAdapter

import VirtualAdapter.Proofs.Memory.Requests

/-!
# What the driver counts

The driver counts the devices that it has created and the slots of its rings.
Only a creation changes the first number, and only a start or an end of a
session the second one.  No request changes the budget or the size of a ring.
-/

namespace VirtualAdapter
namespace Ring
namespace PacketRing

variable {ring next : PacketRing} {handle : SlotHandle}

/-! ## Rings keep their size -/

theorem capacity_of_alloc
    {length : Nat}
    (accepted : ring.alloc length = .ok (handle, next)) :
    next.capacity = ring.capacity := by
  unfold alloc at accepted
  split at accepted
  case isTrue => cases accepted
  case isFalse =>
    dsimp only at accepted
    split at accepted
    case isTrue => cases accepted
    case isFalse =>
      obtain ⟨_, rfl⟩ := Prod.mk.inj (Except.ok.inj accepted)
      exact capacity_setSlot _ _

theorem capacity_of_transition
    {source target : SlotState}
    (accepted : ring.transition handle source target = .ok next) :
    next.capacity = ring.capacity := by
  unfold transition at accepted
  split at accepted
  case h_1 => cases accepted
  case h_2 =>
    obtain rfl := Except.ok.inj accepted
    exact capacity_setSlot _ _

theorem capacity_of_release
    (accepted : ring.release handle = .ok next) :
    next.capacity = ring.capacity := by
  unfold release at accepted
  cases freed : ring.transition handle .delivered .free with
  | error error => rw [freed] at accepted; cases accepted
  | ok held =>
      rw [freed] at accepted
      obtain rfl := Except.ok.inj accepted
      change held.capacity = ring.capacity
      exact capacity_of_transition freed

theorem capacity_of_write
    {content : Bytes}
    (accepted : ring.write handle content = .ok next) :
    next.capacity = ring.capacity := by
  unfold write at accepted
  split at accepted
  case h_1 => cases accepted
  case h_2 =>
    obtain rfl := Except.ok.inj accepted
    exact capacity_setSlot _ _

theorem capacity_of_pop
    (accepted : ring.pop = some (handle, next)) :
    next.capacity = ring.capacity := by
  rw [pop_eq] at accepted
  split at accepted
  case isTrue => cases accepted
  case isFalse =>
    obtain ⟨_, rfl⟩ := Prod.mk.inj (Option.some.inj accepted)
    exact capacity_delivering

theorem capacity_drain (ring : PacketRing) (limit : Nat) :
    (ring.drain limit).2.capacity = ring.capacity := by
  induction limit generalizing ring with
  | zero => rfl
  | succ limit hypothesis =>
      unfold drain
      cases delivers : ring.pop with
      | none => rfl
      | some taken =>
          obtain ⟨handle, delivered⟩ := taken
          refine (hypothesis _).trans ?_
          cases released : delivered.release handle with
          | error error => exact capacity_of_pop delivers
          | ok freed =>
              exact (capacity_of_release released).trans
                (capacity_of_pop delivers)

end PacketRing
end Ring

namespace Memory
namespace MemoryDriver

open VirtualAdapter.Ring (PacketRing)

/-- How many slots the rings of a session have. -/
def ringSizes (entry : RunningSession) : Nat × Nat :=
  (entry.inbound.capacity, entry.outbound.capacity)

/-- Two drivers have created as many devices, have as many slots in use and the
same budget, and run sessions with rings of the same sizes. -/
structure CountsAlike (driver next : MemoryDriver) : Prop where
  lastIndex : next.lastIndex = driver.lastIndex
  slotBudget : next.slotBudget = driver.slotBudget
  slotsInUse : next.slotsInUse = driver.slotsInUse
  ringSizes : next.sessions.map ringSizes = driver.sessions.map ringSizes

variable {driver : MemoryDriver}

namespace CountsAlike

theorem refl (driver : MemoryDriver) : CountsAlike driver driver :=
  ⟨rfl, rfl, rfl, rfl⟩

theorem trans
    {next last : MemoryDriver}
    (first : CountsAlike driver next)
    (second : CountsAlike next last) : CountsAlike driver last :=
  ⟨second.lastIndex.trans first.lastIndex,
    second.slotBudget.trans first.slotBudget,
    second.slotsInUse.trans first.slotsInUse,
    second.ringSizes.trans first.ringSizes⟩

/-- A session may change in everything but the sizes of its rings. -/
theorem placed
    {number : Nat}
    {entry : RunningSession}
    (found : driver.sessions.get? number = some entry)
    (changed : RunningSession)
    (same : MemoryDriver.ringSizes changed = MemoryDriver.ringSizes entry)
    (signals : Signal.Bank) :
    CountsAlike driver (driver.placed number changed signals) := by
  refine ⟨rfl, rfl, rfl, (Table.map_insert _ _ _ _).trans ?_⟩
  apply Table.insert_of_present
  rw [Table.get?_map, found, same]
  rfl

theorem violateLeft (name : String) (count : Nat) (what : String) :
    CountsAlike driver (violateLeft name count what driver).state := by
  unfold MemoryDriver.violateLeft
  split <;> exact ⟨rfl, rfl, rfl, rfl⟩

end CountsAlike

/-! ## Requests that leave the counters alone -/

section Requests

variable (driver)

theorem countsAlike_handBack
    (operation kind : String)
    {accept : RunningSession → Except Ring.RingError RunningSession}
    (keeps : ∀ entry changed, accept entry = .ok changed →
      ringSizes changed = ringSizes entry)
    (session : SessionHandle) :
    CountsAlike driver (handBack operation kind accept session driver).state := by
  unfold handBack
  split
  case h_1 => exact ⟨rfl, rfl, rfl, rfl⟩
  case h_2 entry found =>
    split
    case h_1 => exact ⟨rfl, rfl, rfl, rfl⟩
    case h_2 changed accepted =>
      exact .placed found changed (keeps entry changed accepted) driver.signals

theorem countsAlike_releaseReceived
    (session : SessionHandle)
    (packet : RawPacket) :
    CountsAlike driver (releaseReceived session packet driver).state := by
  refine driver.countsAlike_handBack _ _ (fun entry changed accepted => ?_) session
  obtain ⟨handle, inbound, released, rfl⟩ := release_of_acceptReceived accepted
  exact Prod.ext (PacketRing.capacity_of_release released) rfl

theorem countsAlike_sendPacket (session : SessionHandle) (packet : RawPacket) :
    CountsAlike driver (sendPacket session packet driver).state := by
  refine driver.countsAlike_handBack _ _ (fun entry changed accepted => ?_) session
  unfold acceptAllocated at accepted
  cases resolved : entry.outbound.resolve (.ofTag packet.tag)
      (pointerInto session .outbound packet.address) .allocated with
  | error error => rw [resolved] at accepted; cases accepted
  | ok handle =>
      rw [resolved] at accepted
      change (entry.outbound.commit handle).bind _ = _ at accepted
      cases committed : entry.outbound.commit handle with
      | error error => rw [committed] at accepted; cases accepted
      | ok outbound =>
          rw [committed] at accepted
          obtain rfl := Except.ok.inj accepted
          exact Prod.ext rfl (PacketRing.capacity_of_transition committed)

theorem countsAlike_receivePacket (session : SessionHandle) :
    CountsAlike driver (receivePacket session driver).state := by
  unfold receivePacket
  split
  case h_1 => exact .refl driver
  case h_2 entry found =>
    split
    case isTrue => exact .refl driver
    case isFalse =>
      split
      case h_1 => exact ⟨rfl, rfl, rfl, rfl⟩
      case h_2 handle inbound taken =>
        have kept := CountsAlike.placed found { entry with inbound }
          (Prod.ext (PacketRing.capacity_of_pop taken) rfl)
        dsimp only
        split
        · exact kept (driver.signals.reset entry.readEvent)
        · exact kept driver.signals

theorem countsAlike_allocateSend (session : SessionHandle) (size : Nat) :
    CountsAlike driver (allocateSend session size driver).state := by
  unfold allocateSend
  split
  case h_1 => exact .refl driver
  case h_2 =>
    split
    case h_1 => exact .refl driver
    case h_2 entry found =>
      split
      case isTrue => exact .refl driver
      case isFalse =>
        split
        case h_1 => exact .refl driver
        case h_2 handle outbound accepted =>
          exact .placed found { entry with outbound }
            (Prod.ext rfl (PacketRing.capacity_of_alloc accepted))
            driver.signals

theorem countsAlike_writePacket
    (packet : RawPacket)
    (start : Nat)
    (content : Bytes) :
    CountsAlike driver (writePacket packet start content driver) := by
  unfold writePacket
  split
  case h_1 => exact .refl driver
  case h_2 number direction index _ =>
    split
    case h_1 => exact .refl driver
    case h_2 entry found =>
      refine .placed found _ ?_ driver.signals
      cases direction with
      | inbound => exact Prod.ext (PacketRing.capacity_setSlot _ _) rfl
      | outbound => exact Prod.ext rfl (PacketRing.capacity_setSlot _ _)

theorem countsAlike_inject (name : String) (content : Bytes) :
    CountsAlike driver (inject name content driver).state := by
  unfold inject
  split
  case h_1 size number entry _ leads =>
    have found := get?_of_sessionFor? leads
    split
    case isTrue => exact .refl driver
    case isFalse =>
      split
      case h_1 => exact .refl driver
      case h_2 handle allocated accepted =>
        have size := PacketRing.capacity_of_alloc accepted
        dsimp only
        split
        case h_1 =>
          exact .placed found { entry with inbound := allocated }
            (Prod.ext size rfl) driver.signals
        case h_2 inbound filled =>
          change (allocated.write handle content).bind _ = _ at filled
          cases written : allocated.write handle content with
          | error error => rw [written] at filled; cases filled
          | ok ring =>
              rw [written] at filled
              refine .placed found { entry with inbound } (Prod.ext ?_ rfl)
                (driver.signals.set entry.readEvent)
              exact (PacketRing.capacity_of_transition filled).trans
                ((PacketRing.capacity_of_write written).trans size)
  case h_2 => exact .refl driver

theorem countsAlike_drainOutbound (name : String) :
    CountsAlike driver (drainOutbound name driver).state := by
  unfold drainOutbound
  split
  case h_1 => exact .refl driver
  case h_2 number entry leads =>
    refine .placed (get?_of_sessionFor? leads) _ ?_ driver.signals
    exact Prod.ext rfl (PacketRing.capacity_drain _ _)

theorem countsAlike_failSession (name : String) :
    CountsAlike driver (failSession name driver).state := by
  unfold failSession
  split
  case h_1 => exact .refl driver
  case h_2 number entry leads =>
    exact .placed (get?_of_sessionFor? leads) { entry with failed := true } rfl
      (driver.signals.set entry.readEvent)

theorem countsAlike_closeAdapter (adapter : AdapterHandle) :
    CountsAlike driver (closeAdapter adapter driver).state := by
  cases found : driver.adapters.get? adapter.number with
  | none =>
      unfold closeAdapter
      simp only [found]
      exact ⟨rfl, rfl, rfl, rfl⟩
  | some entry =>
      rw [state_closeAdapter found]
      exact ⟨rfl, rfl, rfl, rfl⟩

/-- Requests that neither create a device nor start or end a session leave the
counters alone. -/
theorem countsAlike_serve
    {request : Request}
    (creates : ∀ name tunnelType guid,
      request ≠ .createAdapter name tunnelType guid)
    (starts : ∀ adapter capacity, request ≠ .startSession adapter capacity)
    (ends : ∀ session, request ≠ .endSession session) :
    CountsAlike driver (driver.serve request) := by
  cases request with
  | createAdapter name tunnelType guid => exact absurd rfl (creates _ _ _)
  | startSession adapter capacity => exact absurd rfl (starts _ _)
  | endSession session => exact absurd rfl (ends _)
  | openAdapter name =>
      change CountsAlike driver (openAdapter name driver).state
      rcases openAdapter_cases driver name with ⟨_, _, same⟩ | ⟨_, _, _, made⟩
      · rw [same]
        exact .refl driver
      · rw [made]
        exact ⟨rfl, rfl, rfl, rfl⟩
  | closeAdapter adapter => exact driver.countsAlike_closeAdapter adapter
  | deleteDriver =>
      change CountsAlike driver (deleteDriver driver).state
      rw [state_deleteDriver]
      exact ⟨rfl, rfl, rfl, rfl⟩
  | readWaitEvent session =>
      change CountsAlike driver (readWaitEvent session driver).state
      unfold readWaitEvent
      split <;> exact .refl driver
  | runningVersion =>
      change CountsAlike driver (runningVersion driver).state
      unfold runningVersion
      split <;> exact .refl driver
  | receivePacket session => exact driver.countsAlike_receivePacket session
  | releaseReceived session packet =>
      exact driver.countsAlike_releaseReceived session packet
  | allocateSend session size => exact driver.countsAlike_allocateSend session size
  | sendPacket session packet => exact driver.countsAlike_sendPacket session packet
  | writePacket packet start content =>
      exact driver.countsAlike_writePacket packet start content
  | inject name content => exact driver.countsAlike_inject name content
  | drainOutbound name => exact driver.countsAlike_drainOutbound name
  | failSession name => exact driver.countsAlike_failSession name
  | beginWait own cancel interrupt timeout now =>
      rcases driver.serve_beginWait own cancel interrupt timeout now with
        begun | broken
      · rw [begun]
        exact ⟨rfl, rfl, rfl, rfl⟩
      · rw [broken]
        exact .refl driver
  | adapterLuid | setSink | newEvent | setEvent | resetEvent | isEventSet
  | dropEvent | stepWait => exact ⟨rfl, rfl, rfl, rfl⟩

end Requests

/-! ## Starts and ends -/

/-- The end of a session gives back the slots of its rings. -/
theorem countsAlike_endSession
    {session : SessionHandle}
    {entry : RunningSession}
    (found : driver.sessions.get? session.number = some entry) :
    CountsAlike (driver.dismissed session.number entry)
      (endSession session driver).state := by
  unfold endSession
  simp only [found, Action.state_andThen, dismissed_eq]
  exact (CountsAlike.violateLeft _ _ _).trans (.violateLeft _ _ _)

/-- The end of an unknown session is noted only. -/
theorem countsAlike_endSession_of_unknown
    {session : SessionHandle}
    (unknown : driver.sessions.get? session.number = none) :
    CountsAlike driver (endSession session driver).state := by
  unfold endSession
  simp only [unknown]
  exact ⟨rfl, rfl, rfl, rfl⟩

/-- A session is started exactly on a handle whose device is not busy, with a
capacity that is accepted and that the budget still allows. -/
theorem startSession_eq_ok_iff
    {adapter : AdapterHandle}
    {capacity : UInt32}
    {session : SessionHandle} :
    (startSession adapter capacity driver).value = .ok session ↔
      CapacityBounds.inMemory.validate capacity = .ok capacity ∧
      (∃ entry, driver.adapters.get? adapter.number = some entry ∧
        driver.isBusy entry.device = false) ∧
      driver.fitsBudget (2 * capacity.toNat) = true ∧
      session = ⟨driver.lastNumber + 1⟩ := by
  unfold startSession
  cases valid : CapacityBounds.inMemory.validate capacity with
  | error error => simp [refuse]
  | ok granted =>
      obtain rfl := eq_of_validate valid
      cases found : driver.adapters.get? adapter.number with
      | none => simp [refuse]
      | some entry =>
          cases busy : driver.isBusy entry.device with
          | true => simp [refuse, busy]
          | false =>
              cases fits : driver.fitsBudget (2 * granted.toNat) with
              | false => simp [refuse, busy, fits]
              | true => simp [busy, fits, launch, @eq_comm _ session]

/-- Everything that a request can do to the counters. -/
inductive Charged (driver : MemoryDriver) : MemoryDriver → Prop
  | kept {next : MemoryDriver}
      (alike : CountsAlike driver next) :
      Charged driver next
  | created (name : String) (guid : Option Guid) :
      Charged driver ((driver.register name guid).noteCall (.create name))
  | started (device : Nat) {capacity : UInt32}
      (valid : CapacityBounds.inMemory.validate capacity = .ok capacity)
      (fits : driver.fitsBudget (2 * capacity.toNat) = true) :
      Charged driver (driver.started device capacity)
  | ended {number : Nat} {entry : RunningSession} {next : MemoryDriver}
      (found : driver.sessions.get? number = some entry)
      (alike : CountsAlike (driver.dismissed number entry) next) :
      Charged driver next

/-- Every request does one of these things. -/
theorem charged (driver : MemoryDriver) (request : Request) :
    Charged driver (driver.serve request) := by
  cases request with
  | createAdapter name tunnelType guid =>
      change Charged driver (createAdapter name tunnelType guid driver).state
      rcases createAdapter_cases driver name tunnelType guid with
        ⟨_, _, same⟩ | ⟨_, made⟩
      · rw [same]
        exact .kept (.refl driver)
      · rw [made]
        exact .created name guid
  | startSession adapter capacity =>
      change Charged driver (startSession adapter capacity driver).state
      rcases startSession_cases driver adapter capacity with
        ⟨_, _, same⟩ | ⟨entry, _, _, granted, state⟩
      · rw [same]
        exact .kept (.refl driver)
      · obtain ⟨valid, _, fits, _⟩ := startSession_eq_ok_iff.mp granted
        rw [state]
        exact .started entry.device valid fits
  | endSession session =>
      change Charged driver (endSession session driver).state
      cases found : driver.sessions.get? session.number with
      | none => exact .kept (countsAlike_endSession_of_unknown found)
      | some entry => exact .ended found (countsAlike_endSession found)
  | _ =>
      exact .kept (driver.countsAlike_serve (by simp) (by simp) (by simp))

end MemoryDriver
end Memory
end VirtualAdapter

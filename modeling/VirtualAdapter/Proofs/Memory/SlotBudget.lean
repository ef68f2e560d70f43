import Mathlib.Algebra.Order.BigOperators.Group.List
import Mathlib.Algebra.Order.Ring.Nat
import VirtualAdapter.Proofs.Memory.Counters
import VirtualAdapter.Proofs.Memory.Names

/-!
# The budget for the slots of rings

The driver keeps the number of slots of all rings up to date as sessions start
and end.  It stays the sum over the sessions that run, whatever the order of
their starts and ends, so that no session gives back more than it took and the
sum never exceeds the budget.
-/

namespace VirtualAdapter
namespace Memory
namespace MemoryDriver

open VirtualAdapter.Ring (PacketRing)

/-- A number of packets for which a ring can be made. -/
def IsRingSize (size : Nat) : Prop :=
  size.isPowerOfTwo ∧ 4 ≤ size ∧ size ≤ 4096

/-- The accepted capacities are the sizes of rings. -/
theorem validate_eq_ok_iff {capacity : UInt32} :
    CapacityBounds.inMemory.validate capacity = .ok capacity ↔
      IsRingSize capacity.toNat := by
  unfold CapacityBounds.validate IsRingSize
  rw [← Ring.isPowerOfTwo_iff]
  cases isPowerOfTwo capacity with
  | false => simp
  | true =>
      have bounds : (capacity < CapacityBounds.inMemory.min ∨
          CapacityBounds.inMemory.max < capacity) ↔
            capacity.toNat < 4 ∨ 4096 < capacity.toNat := by
        simp only [UInt32.lt_iff_toNat_lt]
        rfl
      simp only [Bool.not_true, Bool.false_eq_true, if_false, Bool.or_eq_true,
        decide_eq_true_eq, bounds, true_and]
      split
      case isTrue outside => simp; omega
      case isFalse inside => simp; omega

/-- The slots of the rings of all running sessions. -/
def slotsHeld (driver : MemoryDriver) : Nat :=
  (driver.sessions.values.map fun entry => 2 * entry.inbound.capacity).sum

variable {driver : MemoryDriver}

/-- The slots that are held depend on the sizes of the rings only. -/
theorem slotsHeld_eq (driver : MemoryDriver) :
    driver.slotsHeld =
      ((driver.sessions.map ringSizes).values.map fun sizes =>
        2 * sizes.1).sum := by
  simp [slotsHeld, ringSizes, Function.comp_def]

/-- A session that is put in anew holds the slots of its rings. -/
theorem slotsHeld_insert
    {number : Nat}
    (absent : driver.sessions.get? number = none)
    (entry : RunningSession) :
    slotsHeld { driver with sessions := driver.sessions.insert number entry } =
      driver.slotsHeld + 2 * entry.inbound.capacity := by
  simp [slotsHeld, Table.values_insert_of_absent absent]

/-- A session that is taken out holds them no longer. -/
theorem slotsHeld_erase
    (proper : driver.sessions.IsProper)
    {number : Nat}
    {entry : RunningSession}
    (found : driver.sessions.get? number = some entry) :
    slotsHeld { driver with sessions := driver.sessions.erase number } +
      2 * entry.inbound.capacity = driver.slotsHeld := by
  have apart := (proper.perm_values found).map fun entry : RunningSession =>
    2 * entry.inbound.capacity
  rw [slotsHeld, slotsHeld, apart.sum_eq, List.map_cons, List.sum_cons,
    Nat.add_comm]

/-- The slots in use are those that the sessions hold, and fit the budget. -/
structure Budgeted (slotBudget : Option Nat) (driver : MemoryDriver) : Prop where
  /-- The budget stays what it was. -/
  slotBudget_eq : driver.slotBudget = slotBudget
  /-- No session has two entries. -/
  proper : driver.sessions.IsProper
  /-- Both rings of a session have the same size. -/
  sized : ∀ sizes ∈ (driver.sessions.map ringSizes).values,
    sizes.2 = sizes.1 ∧ IsRingSize sizes.1
  /-- Nothing but the sessions holds slots. -/
  slotsInUse_eq : driver.slotsInUse = driver.slotsHeld
  /-- The slots fit the budget. -/
  fits : driver.fitsBudget 0 = true

theorem fitsBudget_iff (slots : Nat) :
    driver.fitsBudget slots = true ↔
      ∀ budget, driver.slotBudget = some budget →
        driver.slotsInUse + slots ≤ budget := by
  unfold fitsBudget
  cases driver.slotBudget <;> simp

namespace Budgeted

variable {slotBudget : Option Nat} {next : MemoryDriver}

theorem fresh (version : DriverVersion) (slotBudget : Option Nat) :
    Budgeted slotBudget (fresh version slotBudget) where
  slotBudget_eq := rfl
  proper := Table.isProper_empty
  sized := nofun
  slotsInUse_eq := rfl
  fits := (fitsBudget_iff 0).mpr fun budget _ => Nat.zero_le budget

/-- The books depend on the counters only. -/
theorem of_same
    (budgeted : Budgeted slotBudget driver)
    (budget_same : next.slotBudget = driver.slotBudget)
    (slots_same : next.slotsInUse = driver.slotsInUse)
    (sizes_same : next.sessions.map ringSizes = driver.sessions.map ringSizes) :
    Budgeted slotBudget next where
  slotBudget_eq := budget_same.trans budgeted.slotBudget_eq
  proper := by
    rw [← Table.isProper_map_iff ringSizes, sizes_same, Table.isProper_map_iff]
    exact budgeted.proper
  sized := sizes_same ▸ budgeted.sized
  slotsInUse_eq := by
    rw [slots_same, budgeted.slotsInUse_eq, slotsHeld_eq, slotsHeld_eq,
      sizes_same]
  fits := by
    have fits := budgeted.fits
    rw [fitsBudget_iff] at fits ⊢
    rwa [budget_same, slots_same]

theorem of_alike
    (budgeted : Budgeted slotBudget driver)
    (alike : CountsAlike driver next) : Budgeted slotBudget next :=
  budgeted.of_same alike.slotBudget alike.slotsInUse alike.ringSizes

/-- A session is started only if its rings fit the budget. -/
theorem started
    (budgeted : Budgeted slotBudget driver)
    (absent : driver.sessions.get? (driver.lastNumber + 1) = none)
    (device : Nat)
    {capacity : UInt32}
    (valid : CapacityBounds.inMemory.validate capacity = .ok capacity)
    (fits : driver.fitsBudget (2 * capacity.toNat) = true) :
    Budgeted slotBudget (driver.started device capacity) where
  slotBudget_eq := budgeted.slotBudget_eq
  proper := budgeted.proper.insert _ _
  sized := by
    change ∀ sizes ∈ ((driver.sessions.insert _ _).map ringSizes).values, _
    simp only [Table.values_map, Table.values_insert_of_absent absent,
      List.map_append, List.forall_mem_append]
    refine ⟨by simpa using budgeted.sized, ?_⟩
    simp only [List.map_cons, List.map_nil, List.forall_mem_singleton, ringSizes,
      PacketRing.capacity, PacketRing.ofCapacity, Array.size_replicate, true_and]
    exact validate_eq_ok_iff.mp valid
  slotsInUse_eq := by
    change driver.slotsInUse + 2 * capacity.toNat =
      slotsHeld { driver with sessions := driver.sessions.insert _ _ }
    rw [slotsHeld_insert absent, budgeted.slotsInUse_eq]
    simp [PacketRing.capacity, PacketRing.ofCapacity]
  fits := fits

/-- A session gives back what it holds. -/
theorem slotsInUse_dismissed
    (budgeted : Budgeted slotBudget driver)
    {number : Nat}
    {entry : RunningSession}
    (found : driver.sessions.get? number = some entry) :
    (driver.dismissed number entry).slotsInUse + 2 * entry.inbound.capacity =
      driver.slotsInUse := by
  have split := slotsHeld_erase budgeted.proper found
  have held := budgeted.slotsInUse_eq
  change driver.slotsInUse - 2 * entry.inbound.capacity + _ = _
  omega

theorem dismissed
    (budgeted : Budgeted slotBudget driver)
    {number : Nat}
    {entry : RunningSession}
    (found : driver.sessions.get? number = some entry) :
    Budgeted slotBudget (driver.dismissed number entry) where
  slotBudget_eq := budgeted.slotBudget_eq
  proper := budgeted.proper.erase number
  sized := by
    intro sizes member
    apply budgeted.sized sizes
    rw [Table.values_map] at member ⊢
    rw [((budgeted.proper.perm_values found).map ringSizes).mem_iff]
    exact List.mem_cons_of_mem _ member
  slotsInUse_eq := by
    have less := budgeted.slotsInUse_dismissed found
    have split := slotsHeld_erase budgeted.proper found
    have held := budgeted.slotsInUse_eq
    change _ = slotsHeld { driver with sessions := driver.sessions.erase number }
    omega
  fits := by
    have fits := budgeted.fits
    have less := budgeted.slotsInUse_dismissed found
    rw [fitsBudget_iff] at fits ⊢
    intro budget limited
    have := fits budget limited
    omega

/-- Every request keeps the books. -/
theorem charged
    (budgeted : Budgeted slotBudget driver)
    (agreed : Agreed driver)
    (charged : Charged driver next) : Budgeted slotBudget next := by
  cases charged with
  | kept alike => exact budgeted.of_alike alike
  | created => exact budgeted.of_same rfl rfl rfl
  | started device valid fits =>
      refine budgeted.started ?_ device valid fits
      -- A number that was not given out is that of no session.
      by_contra present
      obtain ⟨running, found⟩ := Option.ne_none_iff_exists'.mp present
      have := (agreed.session_le _ running found).1
      omega
  | ended found alike => exact (budgeted.dismissed found).of_alike alike

theorem serveAll
    (budgeted : Budgeted slotBudget driver)
    (distinct : Distinct driver)
    (requests : List Request) : Budgeted slotBudget (driver.serveAll requests) := by
  induction requests generalizing driver with
  | nil => exact budgeted
  | cons request _ hypothesis =>
      exact hypothesis
        (budgeted.charged distinct.toAgreed (driver.charged request))
        (distinct.serve request)

/-- Both rings of a running session have the same size. -/
theorem sizes_of_running
    (budgeted : Budgeted slotBudget driver)
    {number : Nat}
    {entry : RunningSession}
    (found : driver.sessions.get? number = some entry) :
    entry.outbound.capacity = entry.inbound.capacity ∧
      IsRingSize entry.inbound.capacity := by
  apply budgeted.sized (ringSizes entry)
  rw [Table.values_map]
  exact List.mem_map_of_mem (Table.mem_values_of_get? found)

/-- No session has more than two rings of the largest size. -/
theorem slotsInUse_le (budgeted : Budgeted slotBudget driver) :
    driver.slotsInUse ≤ 8192 * driver.sessions.size := by
  have each : ∀ slots ∈ driver.sessions.values.map
      fun entry => 2 * entry.inbound.capacity, slots ≤ 8192 := by
    intro slots member
    obtain ⟨entry, running, rfl⟩ := List.mem_map.mp member
    obtain ⟨number, found⟩ := budgeted.proper.mem_values_iff.mp running
    have := (budgeted.sizes_of_running found).2.2.2
    omega
  have total : driver.slotsHeld ≤ _ * 8192 := List.sum_le_card_nsmul _ 8192 each
  rw [List.length_map, Table.values, List.length_map, Nat.mul_comm] at total
  exact budgeted.slotsInUse_eq.trans_le total

end Budgeted

/-! ## Starts against the budget -/

/-- On a registered device that runs no session, the size and the budget alone
decide. -/
theorem startSession_eq_ok_iff_of_idle
    (agreed : Agreed driver)
    {adapter : AdapterHandle}
    {entry : OpenHandle}
    (opened : driver.adapters.get? adapter.number = some entry)
    (idle : ∀ number running, driver.sessions.get? number = some running →
      running.device ≠ entry.device)
    {capacity : UInt32} :
    (∃ session, (startSession adapter capacity driver).value = .ok session) ↔
      IsRingSize capacity.toNat ∧
        driver.fitsBudget (2 * capacity.toNat) = true := by
  have free : driver.isBusy entry.device = false := by
    rw [← Bool.not_eq_true, agreed.isBusy_iff]
    rintro ⟨_, number, running, found, on⟩
    exact idle number running found on
  simp only [startSession_eq_ok_iff, validate_eq_ok_iff]
  constructor
  · rintro ⟨_, valid, _, fits, _⟩
    exact ⟨valid, fits⟩
  · rintro ⟨valid, fits⟩
    exact ⟨_, valid, ⟨entry, opened, free⟩, fits, rfl⟩

/-- A call to start a session leaves the driver alone, or makes the two rings
of the session without breaking their rule. -/
theorem startSession_makes_rings
    (driver : MemoryDriver)
    (adapter : AdapterHandle)
    (capacity : UInt32) :
    (∃ error, (startSession adapter capacity driver).value = .error error ∧
      (startSession adapter capacity driver).state = driver) ∨
    ∃ session entry,
      (startSession adapter capacity driver).value = .ok session ∧
      (startSession adapter capacity driver).state.sessions.get?
        session.number = some entry ∧
      PacketRing.ofCapacity? capacity = .ok entry.inbound ∧
      PacketRing.ofCapacity? capacity = .ok entry.outbound := by
  rcases startSession_cases driver adapter capacity with
    ⟨error, refused, same⟩ | ⟨entry, _, _, granted, state⟩
  · exact .inl ⟨_, refused, same⟩
  · have running :=
      get?_sessions_started driver entry.device capacity (driver.lastNumber + 1)
    rw [if_pos rfl, ← state] at running
    have power := isPowerOfTwo_of_validate (startSession_eq_ok_iff.mp granted).1
    exact .inr ⟨_, _, granted, running, by simp [PacketRing.ofCapacity?, power]⟩

/-- After any requests to a new driver, the slots in use are twice the sizes of
the rings of the running sessions, and fit the budget.  The end of a session
gives back exactly its slots.  On an open handle of a registered device that
runs no session, a session starts exactly if its capacity is a power of two
from 4 to 4096 and its rings fit the budget; all rings that are made have a
size that is a power of two. -/
theorem slots_follow_sessions
    (version : DriverVersion)
    (slotBudget : Option Nat)
    (requests : List Request) :
    let driver := (fresh version slotBudget).serveAll requests
    (driver.slotsInUse = driver.slotsHeld ∧
      driver.slotsHeld ≤ 8192 * driver.sessions.size ∧
      ∀ budget, slotBudget = some budget → driver.slotsHeld ≤ budget) ∧
    (∀ (session : SessionHandle) entry,
      driver.sessions.get? session.number = some entry →
        entry.outbound.capacity = entry.inbound.capacity ∧
        2 * entry.inbound.capacity ≤ driver.slotsInUse ∧
        (endSession session driver).state.slotsInUse +
          2 * entry.inbound.capacity = driver.slotsInUse) ∧
    (∀ (adapter : AdapterHandle) entry capacity,
      driver.adapters.get? adapter.number = some entry →
      (driver.devices.get? entry.device).isSome = true →
      (∀ number running, driver.sessions.get? number = some running →
        running.device ≠ entry.device) →
      ((∃ session,
          (startSession adapter capacity driver).value = .ok session) ↔
        capacity.toNat.isPowerOfTwo ∧
        4 ≤ capacity.toNat ∧ capacity.toNat ≤ 4096 ∧
        ∀ budget, slotBudget = some budget →
          driver.slotsHeld + 2 * capacity.toNat ≤ budget)) ∧
    ∀ adapter capacity,
      (∃ error, (startSession adapter capacity driver).value = .error error ∧
        (startSession adapter capacity driver).state = driver) ∨
      ∃ session entry,
        (startSession adapter capacity driver).value = .ok session ∧
        (startSession adapter capacity driver).state.sessions.get?
          session.number = some entry ∧
        PacketRing.ofCapacity? capacity = .ok entry.inbound ∧
        PacketRing.ofCapacity? capacity = .ok entry.outbound := by
  intro driver
  have distinct := (distinct_fresh version slotBudget).serveAll requests
  have budgeted : Budgeted slotBudget driver :=
    (Budgeted.fresh version slotBudget).serveAll
      (distinct_fresh version slotBudget) requests
  have held := budgeted.slotsInUse_eq
  have within : ∀ slots, driver.fitsBudget slots = true ↔
      ∀ budget, slotBudget = some budget → driver.slotsHeld + slots ≤ budget := by
    intro slots
    rw [fitsBudget_iff, budgeted.slotBudget_eq, held]
  refine ⟨⟨held, held ▸ budgeted.slotsInUse_le, (within 0).mp budgeted.fits⟩,
    fun session entry found => ?_,
    fun adapter entry capacity opened _ idle => ?_,
    startSession_makes_rings driver⟩
  case refine_1 =>
    have returned := budgeted.slotsInUse_dismissed found
    have ended := (countsAlike_endSession found).slotsInUse
    exact ⟨(budgeted.sizes_of_running found).1, by omega, by rw [ended, returned]⟩
  case refine_2 =>
    rw [startSession_eq_ok_iff_of_idle distinct.toAgreed opened idle, within]
    simp only [IsRingSize, and_assoc]

/-- Of a budget for 16 slots a session takes 8; on another device 16 more do not
fit, 8 do, and the end of the first session gives its slots back. -/
theorem slots_follow_sessions_of_tight_budget :
    let requests : List Request :=
      [.createAdapter "a" "t" none, .createAdapter "b" "t" none,
        .startSession ⟨2⟩ 4]
    let driver := (fresh defaultVersion (some 16)).serveAll requests
    (¬ ∃ session, (startSession ⟨4⟩ 8 driver).value = .ok session) ∧
      (∃ session, (startSession ⟨4⟩ 4 driver).value = .ok session) ∧
      (endSession ⟨5⟩ driver).state.slotsInUse = 0 := by
  intro requests driver
  obtain ⟨⟨held, _⟩, ends, starts, _⟩ :=
    slots_follow_sessions defaultVersion (some 16) requests
  have eight : driver.slotsInUse = 8 := by decide +kernel
  have opens : (driver.adapters.get? 4).map (·.device) = some 3 := by
    decide +kernel
  obtain ⟨entry, opened, on⟩ := Option.map_eq_some_iff.mp opens
  have others : driver.sessions.values.all (·.device ≠ 3) = true := by
    decide +kernel
  have idle : ∀ number running, driver.sessions.get? number = some running →
      running.device ≠ entry.device := by
    intro number running found
    have other := List.all_eq_true.mp others running
      (Table.mem_values_of_get? found)
    rw [on]
    exact of_decide_eq_true other
  have registered : (driver.devices.get? entry.device).isSome = true := by
    rw [on]
    decide +kernel
  have runs : (driver.sessions.get? 5).map (·.inbound.capacity) = some 4 := by
    decide +kernel
  obtain ⟨running, found, size⟩ := Option.map_eq_some_iff.mp runs
  refine ⟨?_, ?_, ?_⟩
  · rw [starts ⟨4⟩ entry 8 opened registered idle]
    rintro ⟨_, _, _, fits⟩
    exact absurd (fits 16 rfl) (by rw [← held, eight]; decide)
  · rw [starts ⟨4⟩ entry 4 opened registered idle]
    refine ⟨⟨2, rfl⟩, by decide, by decide, fun budget limited => ?_⟩
    obtain rfl := Option.some.inj limited
    rw [← held, eight]
    decide
  · have returned := (ends ⟨5⟩ running found).2.2
    rw [size, eight] at returned
    exact Nat.add_right_cancel returned

end MemoryDriver
end Memory
end VirtualAdapter

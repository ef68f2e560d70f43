import VirtualAdapter.Proofs.Ring.Place

/-!
# The layout of a ring

The three positions of a ring say in which states its slots can be: allocated
or committed between the read position and the head, delivered or freed between
the tail and the read position, free everywhere else.  A slot whose handle is
accepted has one position between the tail and the head.
-/

namespace VirtualAdapter
namespace Ring
namespace PacketRing

/-- Every slot is in a state that its position allows. -/
structure Arranged (ring : PacketRing) : Prop where
  /-- There is a slot. -/
  nonempty : 0 < ring.capacity
  /-- Handles can name every slot. -/
  addressable : ring.capacity ≤ UInt32.size
  /-- Slots are given back after their delivery. -/
  tail_le_read : ring.tail ≤ ring.read
  /-- Slots are delivered after their allocation. -/
  read_le_head : ring.read ≤ ring.head
  /-- At most all slots are in use. -/
  head_le : ring.head ≤ ring.tail + ring.capacity
  /-- Slots that were not delivered are being written or wait. -/
  pending : ∀ position, ring.read ≤ position → position < ring.head →
    (ring.slotAt position).state = .allocated ∨
      (ring.slotAt position).state = .committed
  /-- Slots that were delivered are held or freed. -/
  returned : ∀ position, ring.tail ≤ position → position < ring.read →
    (ring.slotAt position).state = .delivered ∨
      (ring.slotAt position).state = .free
  /-- The other slots are free. -/
  spare : ∀ position, ring.head ≤ position →
    position < ring.tail + ring.capacity →
      (ring.slotAt position).state = .free

/-- Moreover, the tail stands at a slot that is still held, if a delivered one
was not given back. -/
structure Layout (ring : PacketRing) : Prop extends Arranged ring where
  /-- The oldest delivered slot is still held. -/
  oldest : ring.tail < ring.read →
    (ring.slotAt ring.tail).state = .delivered

variable {ring : PacketRing}

/-- A new ring has no slot in use. -/
theorem layout_ofCapacity
    {capacity : UInt32}
    (positive : 0 < capacity.toNat) : Layout (ofCapacity capacity) where
  nonempty := by simpa [PacketRing.capacity, ofCapacity] using positive
  addressable := by
    have bound : capacity.toNat < UInt32.size := capacity.toNat_lt
    simpa [PacketRing.capacity, ofCapacity] using bound.le
  tail_le_read := Nat.le_refl 0
  read_le_head := Nat.le_refl 0
  head_le := Nat.zero_le _
  pending := fun _ _ beyond => absurd beyond (Nat.not_lt_zero _)
  returned := fun _ _ beyond => absurd beyond (Nat.not_lt_zero _)
  spare := fun position _ _ => by
    have inside : (ofCapacity capacity).place position < capacity.toNat := by
      simpa [place, ofCapacity] using Nat.mod_lt position positive
    simp [slotAt, PacketRing.slot, Array.getD_eq_getD_getElem?]
    simp [ofCapacity, Slot.fresh] at inside ⊢
    simp [inside]
  oldest := fun beyond => absurd beyond (Nat.not_lt_zero _)

/-! ## Accepted handles -/

/-- A handle is accepted exactly for the present allocation of its slot, if
the slot is in the expected state. -/
theorem check_eq_ok_iff {handle : SlotHandle} {expected : SlotState} {slot : Slot} :
    ring.check handle expected = .ok slot ↔
      handle.index.toNat < ring.capacity ∧
      ring.slot handle.index.toNat = slot ∧
      slot.generation = handle.generation ∧ slot.state = expected := by
  unfold check validate PacketRing.slot capacity
  rw [Array.getD_eq_getD_getElem?]
  cases present : ring.slots[handle.index.toNat]? with
  | none =>
      have outside := Array.getElem?_eq_none_iff.mp present
      simp [Nat.not_lt.mpr outside]
  | some found =>
      obtain ⟨inside, _⟩ := Array.getElem?_eq_some_iff.mp present
      by_cases current : found.generation = handle.generation <;>
        by_cases state : found.state = expected <;>
          simp [current, state, inside] <;> grind

namespace Arranged

/-- A slot that is not free has a position between the tail and the head. -/
theorem exists_position_of_state_ne_free
    (arranged : Arranged ring)
    {index : Nat}
    (inside : index < ring.capacity)
    (used : (ring.slot index).state ≠ .free) :
    ∃ position, ring.tail ≤ position ∧ position < ring.head ∧
      ring.place position = index := by
  obtain ⟨position, tail_le, position_lt, same⟩ :=
    exists_place_eq inside ring.tail
  refine ⟨position, tail_le, Nat.lt_of_not_le fun beyond => used ?_, same⟩
  rw [← same]
  exact arranged.spare position beyond position_lt

/-- A handle that is accepted in a state other than free has a position. -/
theorem exists_position_of_check
    (arranged : Arranged ring)
    {handle : SlotHandle}
    {expected : SlotState}
    {slot : Slot}
    (used : expected ≠ .free)
    (checked : ring.check handle expected = .ok slot) :
    ∃ position, ring.tail ≤ position ∧ position < ring.head ∧
      ring.place position = handle.index.toNat ∧
      ring.slotAt position = slot ∧
      slot.generation = handle.generation ∧ slot.state = expected := by
  obtain ⟨inside, rfl, current, state⟩ := check_eq_ok_iff.mp checked
  obtain ⟨position, tail_le, lt_head, same⟩ :=
    arranged.exists_position_of_state_ne_free inside (state ▸ used)
  exact ⟨position, tail_le, lt_head, same, by rw [slotAt, same],
    current, state⟩

/-- An allocated slot waits for its delivery. -/
theorem read_le_of_pending
    (arranged : Arranged ring)
    {position : Nat}
    (tail_le : ring.tail ≤ position)
    (state : (ring.slotAt position).state = .allocated ∨
      (ring.slotAt position).state = .committed) :
    ring.read ≤ position := by
  refine Nat.le_of_not_lt fun before => ?_
  have := arranged.returned position tail_le before
  rcases state with state | state <;> simp [state] at this

/-- A delivered slot lies before the read position. -/
theorem lt_read_of_delivered
    (arranged : Arranged ring)
    {position : Nat}
    (lt_head : position < ring.head)
    (state : (ring.slotAt position).state = .delivered) :
    position < ring.read := by
  refine Nat.lt_of_not_le fun beyond => ?_
  have := arranged.pending position beyond lt_head
  simp [state] at this

/-- Putting a slot in keeps the arrangement if its state fits its position. -/
theorem setSlot
    (arranged : Arranged ring)
    {position : Nat}
    {slot : Slot}
    (tail_le : ring.tail ≤ position)
    (lt_head : position < ring.head)
    (pending : ring.read ≤ position →
      slot.state = .allocated ∨ slot.state = .committed)
    (returned : position < ring.read →
      slot.state = .delivered ∨ slot.state = .free) :
    Arranged (ring.setSlot (ring.place position) slot) := by
  have head_le := arranged.head_le
  have read_le := arranged.read_le_head
  have shows : ∀ other, ring.tail ≤ other →
      other < ring.tail + ring.capacity →
      (ring.setSlot (ring.place position) slot).slotAt other =
        if other = position then slot else ring.slotAt other :=
    fun other => slotAt_setSlot slot tail_le (by omega)
  constructor
  case nonempty => simpa using arranged.nonempty
  case addressable => simpa using arranged.addressable
  case tail_le_read => exact arranged.tail_le_read
  case read_le_head => exact arranged.read_le_head
  case head_le => simpa using arranged.head_le
  case pending =>
    intro other beyond before
    rw [shows other (arranged.tail_le_read.trans beyond)
      (Nat.lt_of_lt_of_le before head_le)]
    split
    case isTrue same => exact pending (same ▸ beyond)
    case isFalse => exact arranged.pending other beyond before
  case returned =>
    intro other beyond before
    rw [shows other beyond (by simp at before; omega)]
    split
    case isTrue same => exact returned (same ▸ before)
    case isFalse => exact arranged.returned other beyond before
  case spare =>
    intro other beyond before
    simp only [head_setSlot, tail_setSlot, capacity_setSlot] at beyond before
    rw [shows other (by omega) before, if_neg (by omega)]
    exact arranged.spare other beyond before

end Arranged

/-! ## Reclaiming -/

@[simp]
theorem capacity_reclaim : ring.reclaim.capacity = ring.capacity := rfl

@[simp]
theorem head_reclaim : ring.reclaim.head = ring.head := rfl

@[simp]
theorem read_reclaim : ring.reclaim.read = ring.read := rfl

@[simp]
theorem place_reclaim (position : Nat) :
    ring.reclaim.place position = ring.place position := rfl

@[simp]
theorem slotAt_reclaim (position : Nat) :
    ring.reclaim.slotAt position = ring.slotAt position := rfl

theorem reclaimable_le (position limit : Nat) :
    ring.reclaimable position limit ≤ limit := by
  induction limit generalizing position with
  | zero => simp [reclaimable]
  | succ limit hypothesis =>
      have := hypothesis (position + 1)
      rw [reclaimable]
      split <;> omega

/-- The tail passes over free slots only. -/
theorem state_of_lt_reclaimable
    {position limit distance : Nat}
    (passed : distance < ring.reclaimable position limit) :
    (ring.slotAt (position + distance)).state = .free := by
  induction limit generalizing position distance with
  | zero => simp [reclaimable] at passed
  | succ limit hypothesis =>
      rw [reclaimable] at passed
      split at passed
      case isTrue freed =>
        cases distance with
        | zero => exact freed
        | succ distance =>
            have := hypothesis (Nat.lt_of_succ_lt_succ passed)
            rwa [Nat.add_right_comm] at this
      case isFalse => simp at passed

/-- The tail stops at a slot that is not free. -/
theorem state_reclaimable_ne_free
    {position limit : Nat}
    (stopped : ring.reclaimable position limit < limit) :
    (ring.slotAt (position + ring.reclaimable position limit)).state ≠ .free := by
  induction limit generalizing position with
  | zero => simp at stopped
  | succ limit hypothesis =>
      rw [reclaimable] at stopped ⊢
      split at stopped
      case isTrue freed =>
        rw [if_pos freed, ← Nat.add_assoc, Nat.add_right_comm]
        exact hypothesis (Nat.lt_of_succ_lt_succ stopped)
      case isFalse held => simp [held]

/-- Reclaiming brings the tail to the oldest slot that is still held. -/
theorem Arranged.layout_reclaim (arranged : Arranged ring) :
    Layout ring.reclaim := by
  have tail_le := arranged.tail_le_read
  have head_le := arranged.head_le
  have bound : ring.reclaimable ring.tail (ring.read - ring.tail) ≤
      ring.read - ring.tail := reclaimable_le _ _
  have tail_eq : ring.reclaim.tail =
      ring.tail + ring.reclaimable ring.tail (ring.read - ring.tail) := rfl
  constructor
  case oldest =>
    intro beyond
    have before : ring.reclaim.tail < ring.read := beyond
    have held := @state_reclaimable_ne_free ring ring.tail
      (ring.read - ring.tail) (by omega)
    rw [← tail_eq] at held
    exact (arranged.returned _ (by omega) before).resolve_right held
  constructor
  case nonempty => exact arranged.nonempty
  case addressable => exact arranged.addressable
  case tail_le_read => rw [tail_eq]; change _ ≤ ring.read; omega
  case read_le_head => exact arranged.read_le_head
  case head_le =>
    change ring.head ≤ ring.reclaim.tail + ring.capacity
    omega
  case pending => exact arranged.pending
  case returned =>
    intro position beyond before
    exact arranged.returned position (by omega) before
  case spare =>
    intro position beyond before
    change ring.head ≤ position at beyond
    change position < ring.reclaim.tail + ring.capacity at before
    rcases Nat.lt_or_ge position (ring.tail + ring.capacity) with inside | past
    · exact arranged.spare position beyond inside
    · -- The place of this position was that of a slot that the tail has passed.
      have freed := @state_of_lt_reclaimable ring ring.tail
        (ring.read - ring.tail) (position - ring.capacity - ring.tail)
        (by omega)
      rw [show ring.tail + (position - ring.capacity - ring.tail) =
        position - ring.capacity by omega] at freed
      have same : ring.place position =
          ring.place (position - ring.capacity) := by
        have := Nat.add_mod_right (position - ring.capacity) ring.capacity
        rwa [Nat.sub_add_cancel (by omega)] at this
      change (ring.slotAt position).state = _
      rwa [slotAt, same]

end PacketRing
end Ring
end VirtualAdapter

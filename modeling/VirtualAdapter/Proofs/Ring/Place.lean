import Mathlib.Data.Nat.ModEq
import VirtualAdapter.Ring.PacketRing

/-!
# Places of positions

A position falls in the place of one slot.  Positions less than a capacity
apart fall in different places, so within such a window a slot that is put in
shows at one position only.
-/

namespace VirtualAdapter
namespace Ring

/-- Exactly the powers of two pass the check. -/
theorem isPowerOfTwo_iff {capacity : UInt32} :
    isPowerOfTwo capacity = true ↔ capacity.toNat.isPowerOfTwo := by
  simp only [isPowerOfTwo, Bool.and_eq_true, bne_iff_ne, ne_eq, beq_iff_eq]
  by_cases zero : capacity = 0
  case pos =>
    subst zero
    simp [Nat.not_isPowerOfTwo_zero]
  case neg =>
    have positive : capacity.toNat ≠ 0 := fun none =>
      zero (UInt32.toNat_inj.mp (by simpa using none))
    have one_le : 1 ≤ capacity := by
      rw [UInt32.le_iff_toNat_le, UInt32.toNat_one]
      omega
    have bits : capacity &&& (capacity - 1) = 0 ↔
        capacity.toNat &&& (capacity.toNat - 1) = 0 := by
      rw [← UInt32.toNat_inj, UInt32.toNat_and,
        UInt32.toNat_sub_of_le _ _ one_le]
      rfl
    rw [bits, Nat.and_sub_one_eq_zero_iff_isPowerOfTwo positive]
    exact and_iff_right zero

/-- A capacity that passes the check is a power of two. -/
theorem toNat_isPowerOfTwo
    {capacity : UInt32}
    (power : isPowerOfTwo capacity = true) :
    capacity.toNat.isPowerOfTwo :=
  isPowerOfTwo_iff.mp power

namespace PacketRing

variable (ring : PacketRing)

/-- In a ring whose capacity is a power of two, taking a place means masking
the position. -/
theorem and_capacity_sub_one
    (power : ring.capacity.isPowerOfTwo)
    (position : Nat) :
    position &&& (ring.capacity - 1) = ring.place position := by
  obtain ⟨exponent, equal⟩ := power
  rw [equal, Nat.and_two_pow_sub_one_eq_mod, place, ← capacity, equal]

variable {ring}

/-- Every position falls inside the ring. -/
theorem place_lt (nonempty : 0 < ring.capacity) (position : Nat) :
    ring.place position < ring.capacity :=
  Nat.mod_lt position nonempty

/-- Positions less than a capacity apart fall in different places. -/
theorem place_inj
    {start first second : Nat}
    (first_ge : start ≤ first)
    (first_lt : first < start + ring.capacity)
    (second_ge : start ≤ second)
    (second_lt : second < start + ring.capacity) :
    ring.place first = ring.place second ↔ first = second := by
  refine ⟨fun same => ?_, congrArg ring.place⟩
  have congruent : first ≡ second [MOD ring.capacity] := same
  rcases Nat.le_total first second with ordered | ordered
  · have multiple := (Nat.modEq_iff_dvd' ordered).mp congruent
    have := Nat.eq_zero_of_dvd_of_lt multiple (by omega)
    omega
  · have multiple := (Nat.modEq_iff_dvd' ordered).mp congruent.symm
    have := Nat.eq_zero_of_dvd_of_lt multiple (by omega)
    omega

/-- Every place is that of a position in any window of a capacity. -/
theorem exists_place_eq
    {index : Nat}
    (inside : index < ring.capacity)
    (start : Nat) :
    ∃ position, start ≤ position ∧ position < start + ring.capacity ∧
      ring.place position = index := by
  have nonempty : 0 < ring.capacity := by omega
  have offset_lt : start % ring.capacity < ring.capacity :=
    Nat.mod_lt start nonempty
  let distance := index + ring.capacity - start % ring.capacity
  refine ⟨start + distance % ring.capacity, by omega, ?_, ?_⟩
  · have := Nat.mod_lt distance nonempty
    omega
  · have whole : start + distance =
        index + ring.capacity * (start / ring.capacity + 1) := by
      have split := Nat.mod_add_div start ring.capacity
      rw [Nat.mul_add, Nat.mul_one]
      omega
    change (start + distance % ring.capacity) % ring.capacity = index
    rw [Nat.add_mod_mod, whole, Nat.add_mul_mod_self_left,
      Nat.mod_eq_of_lt inside]

/-- The place of a position survives being written into a handle. -/
theorem toNat_ofNat_place
    (nonempty : 0 < ring.capacity)
    (addressable : ring.capacity ≤ UInt32.size)
    (position : Nat) :
    (UInt32.ofNat (ring.place position)).toNat = ring.place position := by
  have := place_lt nonempty position
  exact UInt32.toNat_ofNat_of_lt' (by omega)

/-- A slot that is put in shows at its own place only. -/
theorem slot_setSlot (index other : Nat) (slot : Slot) :
    (ring.setSlot index slot).slot other =
      if other = index ∧ index < ring.capacity then slot
      else ring.slot other := by
  unfold PacketRing.slot setSlot capacity
  simp only [Array.getD_eq_getD_getElem?, Array.getElem?_setIfInBounds]
  by_cases same : other = index
  · subst same
    by_cases inside : other < ring.slots.size <;> simp [inside]
  · simp [same, Ne.symm same]

@[simp]
theorem capacity_setSlot (index : Nat) (slot : Slot) :
    (ring.setSlot index slot).capacity = ring.capacity := by
  simp [capacity, setSlot]

@[simp]
theorem place_setSlot (index : Nat) (slot : Slot) (position : Nat) :
    (ring.setSlot index slot).place position = ring.place position := by
  simp [place, setSlot]

@[simp]
theorem head_setSlot (index : Nat) (slot : Slot) :
    (ring.setSlot index slot).head = ring.head := rfl

@[simp]
theorem read_setSlot (index : Nat) (slot : Slot) :
    (ring.setSlot index slot).read = ring.read := rfl

@[simp]
theorem tail_setSlot (index : Nat) (slot : Slot) :
    (ring.setSlot index slot).tail = ring.tail := rfl

/-- Within a window, a slot that is put in at a position shows there only. -/
theorem slotAt_setSlot
    {start position other : Nat}
    (slot : Slot)
    (position_ge : start ≤ position)
    (position_lt : position < start + ring.capacity)
    (other_ge : start ≤ other)
    (other_lt : other < start + ring.capacity) :
    (ring.setSlot (ring.place position) slot).slotAt other =
      if other = position then slot else ring.slotAt other := by
  have nonempty : 0 < ring.capacity := by omega
  have same := place_inj other_ge other_lt position_ge position_lt
  unfold slotAt
  rw [slot_setSlot, place_setSlot]
  simp [same, place_lt nonempty position]

end PacketRing
end Ring
end VirtualAdapter

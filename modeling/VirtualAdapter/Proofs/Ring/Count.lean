import Mathlib.Data.List.Nodup
import VirtualAdapter.Proofs.Ring.Layout

/-!
# Counting slots by position

The slots of a ring are those at any capacity of consecutive positions.  So the
number of slots in a state can be counted along the positions in use.
-/

namespace VirtualAdapter
namespace Ring
namespace PacketRing

/-- The slots at the positions from one up to another. -/
def between (ring : PacketRing) (start stop : Nat) : List Slot :=
  (List.range' start (stop - start)).map ring.slotAt

variable {ring : PacketRing}

@[simp]
theorem length_between (start stop : Nat) :
    (ring.between start stop).length = stop - start := by
  simp [between]

theorem mem_between {start stop : Nat} {slot : Slot} :
    slot ∈ ring.between start stop ↔
      ∃ position, start ≤ position ∧ position < stop ∧
        ring.slotAt position = slot := by
  simp only [between, List.mem_map, List.mem_range'_1]
  constructor
  · rintro ⟨position, ⟨start_le, lt⟩, rfl⟩
    exact ⟨position, start_le, by omega, rfl⟩
  · rintro ⟨position, start_le, lt, rfl⟩
    exact ⟨position, ⟨start_le, by omega⟩, rfl⟩

/-- Consecutive spans join. -/
theorem between_append
    {start middle stop : Nat}
    (start_le : start ≤ middle)
    (le_stop : middle ≤ stop) :
    ring.between start middle ++ ring.between middle stop =
      ring.between start stop := by
  have joined := List.range'_append_1 (s := start) (m := middle - start)
    (n := stop - middle)
  rw [Nat.add_sub_cancel' start_le,
    show middle - start + (stop - middle) = stop - start by omega] at joined
  rw [between, between, between, ← List.map_append, joined]

/-- Counting slots in a state that none of them has gives nothing. -/
theorem countP_between_eq_zero
    {start stop : Nat}
    {state : SlotState}
    (absent : ∀ position, start ≤ position → position < stop →
      (ring.slotAt position).state ≠ state) :
    (ring.between start stop).countP (·.state = state) = 0 := by
  rw [List.countP_eq_zero]
  intro slot member
  obtain ⟨position, start_le, lt, rfl⟩ := mem_between.mp member
  simpa using absent position start_le lt

/-- The slots by place are the slots by position, in another order. -/
theorem slots_perm_between
    (nonempty : 0 < ring.capacity)
    (start : Nat) :
    ring.slots.toList.Perm (ring.between start (start + ring.capacity)) := by
  have places : ((List.range' start ring.capacity).map ring.place).Perm
      (List.range ring.capacity) := by
    refine (List.perm_ext_iff_of_nodup ?_ List.nodup_range).mpr fun index => ?_
    · refine List.Nodup.map_on ?_ List.nodup_range'
      intro first first_mem second second_mem same
      rw [List.mem_range'_1] at first_mem second_mem
      exact (place_inj first_mem.1 first_mem.2 second_mem.1
        second_mem.2).mp same
    · simp only [List.mem_map, List.mem_range'_1, List.mem_range]
      constructor
      · rintro ⟨position, _, rfl⟩
        exact place_lt nonempty position
      · intro inside
        obtain ⟨position, start_le, lt, same⟩ := exists_place_eq inside start
        exact ⟨position, ⟨start_le, lt⟩, same⟩
  have byPlace : ring.slots.toList =
      (List.range ring.capacity).map ring.slot := by
    refine List.ext_getElem (by simp [capacity]) fun index inside _ => ?_
    rw [Array.length_toList] at inside
    simp [PacketRing.slot, inside]
  have byPosition : ring.between start (start + ring.capacity) =
      ((List.range' start ring.capacity).map ring.place).map ring.slot := by
    rw [between, Nat.add_sub_cancel_left, List.map_map]
    rfl
  rw [byPlace, byPosition]
  exact (places.map ring.slot).symm

namespace Arranged

/-- Slots in use are found between the tail and the head. -/
theorem count_eq_countP_between
    (arranged : Arranged ring)
    {state : SlotState}
    (used : state ≠ .free) :
    ring.count state =
      (ring.between ring.tail ring.head).countP (·.state = state) := by
  have joined := @between_append ring _ _ _
    (arranged.tail_le_read.trans arranged.read_le_head) arranged.head_le
  have spare : (ring.between ring.head (ring.tail + ring.capacity)).countP
      (·.state = state) = 0 :=
    countP_between_eq_zero fun position head_le lt =>
      arranged.spare position head_le lt ▸ used.symm
  rw [count, ← Array.countP_toList,
    (slots_perm_between arranged.nonempty ring.tail).countP_eq, ← joined,
    List.countP_append, spare, Nat.add_zero]

/-- Slots that were delivered are found before the read position. -/
theorem count_delivered
    (arranged : Arranged ring) :
    ring.count .delivered =
      (ring.between ring.tail ring.read).countP (·.state = .delivered) := by
  have absent : (ring.between ring.read ring.head).countP
      (·.state = .delivered) = 0 :=
    countP_between_eq_zero fun position read_le lt => by
      rcases arranged.pending position read_le lt with state | state <;>
        simp [state]
  rw [arranged.count_eq_countP_between (by simp),
    ← between_append arranged.tail_le_read arranged.read_le_head,
    List.countP_append, absent, Nat.add_zero]

/-- At most the delivered slots are held. -/
theorem count_delivered_le (arranged : Arranged ring) :
    ring.count .delivered ≤ ring.read - ring.tail := by
  rw [arranged.count_delivered]
  exact List.countP_le_length.trans_eq (length_between _ _)

/-- Every slot that waits for its delivery is allocated or committed. -/
theorem count_pending (arranged : Arranged ring) :
    ring.count .allocated + ring.count .committed = ring.head - ring.read := by
  have pending : ∀ state, state = .allocated ∨ state = .committed →
      ring.count state =
        (ring.between ring.read ring.head).countP (·.state = state) := by
    intro state either
    have absent : (ring.between ring.tail ring.read).countP
        (·.state = state) = 0 :=
      countP_between_eq_zero fun position tail_le lt => by
        rcases arranged.returned position tail_le lt with found | found <;>
          rcases either with rfl | rfl <;> simp [found]
    rw [arranged.count_eq_countP_between (by rcases either with rfl | rfl <;> simp),
      ← between_append arranged.tail_le_read arranged.read_le_head,
      List.countP_append, absent, Nat.zero_add]
  have committed : (ring.between ring.read ring.head).countP
        (·.state = .committed) =
      (ring.between ring.read ring.head).countP fun slot =>
        ¬decide (slot.state = .allocated) = true := by
    refine List.countP_congr fun slot member => ?_
    obtain ⟨position, read_le, lt, rfl⟩ := mem_between.mp member
    rcases arranged.pending position read_le lt with state | state <;>
      simp [state]
  rw [pending _ (.inl rfl), pending _ (.inr rfl), committed,
    ← @length_between ring, List.length_eq_countP_add_countP]

end Arranged

end PacketRing
end Ring
end VirtualAdapter

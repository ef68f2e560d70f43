import VirtualAdapter.Proofs.Ring.Contents

/-!
# Rings without unfinished slots

Where every allocation is committed at once, the ring has something to deliver
exactly while its read position is behind its head.  Putting packets in, taking
them out, giving them back and writing into slots of any state all keep this.
-/

namespace VirtualAdapter
namespace Ring
namespace PacketRing

/-- Every slot that was not delivered can be. -/
structure Ready (ring : PacketRing) : Prop extends Layout ring where
  /-- The slots that wait are committed. -/
  waiting : ∀ position, ring.read ≤ position → position < ring.head →
    (ring.slotAt position).state = .committed

variable {ring : PacketRing}

/-- Something can be delivered exactly while something waits. -/
theorem Ready.isDrained_eq_false_iff (ready : Ready ring) :
    ring.isDrained = false ↔ ring.read < ring.head := by
  rw [PacketRing.isDrained_eq_false_iff ready.toArranged]
  exact ⟨And.left, fun behind =>
    ⟨behind, ready.waiting _ (Nat.le_refl _) behind⟩⟩

theorem ready_ofCapacity
    {capacity : UInt32}
    (positive : 0 < capacity.toNat) : Ready (ofCapacity capacity) :=
  ⟨layout_ofCapacity positive, fun _ _ beyond =>
    absurd beyond (Nat.not_lt_zero _)⟩

/-- A new ring has nothing to deliver. -/
theorem isDrained_ofCapacity (capacity : UInt32) :
    (ofCapacity capacity).isDrained = true :=
  rfl

/-! ## Putting in and taking out -/

namespace Ready

/-- A packet that is put in waits behind the others. -/
theorem filled
    (ready : Ready ring)
    (room : ring.head < ring.tail + ring.capacity)
    (content : Bytes) : Ready (ring.filled content) := by
  refine ⟨ready.toLayout.filled room content, fun position beyond before => ?_⟩
  have tail_le := ready.tail_le_read
  change ring.read ≤ position at beyond
  change position < ring.head + 1 at before
  rcases Nat.lt_or_eq_of_le (Nat.le_of_lt_succ before) with earlier | last
  · rw [slotAt_filled_of_lt ready.toLayout room content (by omega) earlier]
    exact ready.waiting position beyond earlier
  · subst last
    have written := ready.toLayout.written room content
    have head_lt := (Nat.lt_succ_self ring.head).trans_le written.head_le
    rw [PacketRing.filled, slotAt_changedAt _ (by exact tail_le.trans beyond)
      head_lt (by exact tail_le.trans beyond) head_lt, if_pos rfl]

theorem isDrained_filled
    (ready : Ready ring)
    (room : ring.head < ring.tail + ring.capacity)
    (content : Bytes) : (ring.filled content).isDrained = false :=
  (ready.filled room content).isDrained_eq_false_iff.mpr
    (Nat.lt_succ_of_le ready.read_le_head)

/-- A slot that is allocated, written and committed in one go is a packet that
is put in. -/
theorem fill_eq
    (ready : Ready ring)
    {content : Bytes}
    {handle : SlotHandle}
    {allocated : PacketRing}
    (accepted : ring.alloc content.length = .ok (handle, allocated)) :
    ring.head < ring.tail + ring.capacity ∧
      (do
        let written ← allocated.write handle content
        written.commit handle) = .ok (ring.filled content) := by
  rw [alloc_eq ready.toArranged] at accepted
  split at accepted
  case isTrue => cases accepted
  case isFalse notFull =>
    have room := lt_of_isFull_eq_false ready.toArranged
      (Bool.eq_false_iff.mpr notFull)
    obtain ⟨rfl, rfl⟩ := Prod.mk.inj (Except.ok.inj accepted)
    rw [write_grown ready.toLayout room content]
    exact ⟨room, commit_written ready.toLayout room content⟩

theorem delivering
    (ready : Ready ring)
    (behind : ring.read < ring.head) : Ready ring.delivering := by
  refine ⟨ready.toLayout.delivering behind, fun position beyond before => ?_⟩
  have tail_le := ready.tail_le_read
  have head_le := ready.head_le
  change ring.read + 1 ≤ position at beyond
  change position < ring.head at before
  rw [slotAt_delivering ready.toArranged behind (by omega) (by omega),
    if_neg (by omega)]
  exact ready.waiting position (by omega) before

/-- Giving a slot back keeps what waits. -/
theorem release
    (ready : Ready ring)
    {handle : SlotHandle}
    {next : PacketRing}
    (released : ring.release handle = .ok next) :
    Ready next ∧ next.isDrained = ring.isDrained := by
  obtain ⟨position, names, state, rfl⟩ :=
    (release_eq_ok_iff ready.toArranged).mp released
  have tail_le := ready.tail_le_read
  have head_le := ready.head_le
  have lt_read := ready.lt_read_of_delivered names.lt_head state
  have after : Ready (ring.changedAt position fun slot =>
      { slot with state := .free }).reclaim := by
    refine ⟨ready.toLayout.reclaim_changedAt names.tail_le lt_read rfl,
      fun other beyond before => ?_⟩
    change ring.read ≤ other at beyond
    change other < ring.head at before
    rw [slotAt_reclaim, slotAt_changedAt _ names.tail_le (by omega) (by omega)
      (by omega), if_neg (by omega)]
    exact ready.waiting other beyond before
  refine ⟨after, Bool.eq_iff_iff.mpr ?_⟩
  rw [← not_iff_not, Bool.not_eq_true, Bool.not_eq_true,
    after.isDrained_eq_false_iff, ready.isDrained_eq_false_iff]
  rfl

end Ready

/-! ## Writing into any slot -/

theorem state_slotAt_poke (index : Nat) (content : Bytes) (position : Nat) :
    ((ring.poke index content).slotAt position).state =
      (ring.slotAt position).state := by
  unfold poke slotAt
  rw [place_setSlot, slot_setSlot]
  split
  case isTrue same => rw [same.1]
  case isFalse => rfl

/-- What a slot holds has no part in the layout. -/
theorem Layout.poke
    (layout : Layout ring)
    (index : Nat)
    (content : Bytes) : Layout (ring.poke index content) := by
  have capacity : (ring.poke index content).capacity = ring.capacity :=
    capacity_setSlot _ _
  constructor
  case oldest =>
    intro beyond
    exact (state_slotAt_poke _ _ _).trans (layout.oldest beyond)
  constructor
  case nonempty => exact capacity.symm ▸ layout.nonempty
  case addressable => exact capacity.symm ▸ layout.addressable
  case tail_le_read => exact layout.tail_le_read
  case read_le_head => exact layout.read_le_head
  case head_le => exact capacity.symm ▸ layout.head_le
  case pending =>
    intro position beyond before
    rw [state_slotAt_poke]
    exact layout.pending position beyond before
  case returned =>
    intro position beyond before
    rw [state_slotAt_poke]
    exact layout.returned position beyond before
  case spare =>
    intro position beyond before
    rw [capacity] at before
    rw [state_slotAt_poke]
    exact layout.spare position beyond before

theorem Ready.poke
    (ready : Ready ring)
    (index : Nat)
    (content : Bytes) : Ready (ring.poke index content) := by
  refine ⟨ready.toLayout.poke index content, fun position beyond before => ?_⟩
  rw [state_slotAt_poke]
  exact ready.waiting position beyond before

theorem isDrained_poke (index : Nat) (content : Bytes) :
    (ring.poke index content).isDrained = ring.isDrained := by
  unfold isDrained
  change (ring.read == ring.head ||
    ((ring.poke index content).slotAt ring.read).state != .committed) = _
  rw [state_slotAt_poke]

/-! ## What can still be delivered -/

/-- The contents that were not delivered yet, oldest first. -/
def undelivered (ring : PacketRing) : List Bytes :=
  (ring.between ring.read ring.head).map (·.buffer)

theorem getElem?_undelivered (index : Nat) :
    ring.undelivered[index]? =
      if ring.read + index < ring.head then
        some (ring.slotAt (ring.read + index)).buffer
      else none := by
  by_cases inside : ring.read + index < ring.head
  · have place : index < ring.head - ring.read := by omega
    simp [undelivered, between, inside, place]
  · have place : ¬ index < ring.head - ring.read := by omega
    simp [undelivered, between, inside, place]

namespace Ready

variable (ready : Ready ring)

include ready

/-- Putting a packet in makes it the last one. -/
theorem undelivered_filled
    (room : ring.head < ring.tail + ring.capacity)
    (content : Bytes) :
    (ring.filled content).undelivered = ring.undelivered ++ [content] := by
  have tail_le := ready.tail_le_read
  have read_le := ready.read_le_head
  have length : ring.undelivered.length = ring.head - ring.read := by
    simp [undelivered]
  refine List.ext_getElem? fun index => ?_
  rw [getElem?_undelivered, List.getElem?_append, getElem?_undelivered, length]
  change (if ring.read + index < ring.head + 1 then
    some ((ring.filled content).slotAt (ring.read + index)).buffer else none) = _
  rcases Nat.lt_trichotomy (ring.read + index) ring.head with
    inside | last | beyond
  · rw [if_pos (by omega), if_pos (by omega), if_pos inside,
      slotAt_filled_of_lt ready.toLayout room content (by omega) inside]
  · rw [if_pos (by omega), if_neg (by omega), last,
      buffer_slotAt_filled_head ready.toLayout room,
      show index - (ring.head - ring.read) = 0 by omega]
    rfl
  · rw [if_neg (by omega), if_neg (by omega)]
    exact (List.getElem?_eq_none (by simp; omega)).symm

/-- What is delivered is the oldest one. -/
theorem undelivered_eq_cons (behind : ring.read < ring.head) :
    ring.undelivered =
      (ring.slotAt ring.read).buffer :: ring.delivering.undelivered := by
  have tail_le := ready.tail_le_read
  have head_le := ready.head_le
  refine List.ext_getElem? fun index => ?_
  cases index with
  | zero => exact (getElem?_undelivered 0).trans (if_pos behind)
  | succ index =>
      rw [List.getElem?_cons_succ, getElem?_undelivered, getElem?_undelivered]
      change _ = if ring.read + 1 + index < ring.head then
        some (ring.delivering.slotAt (ring.read + 1 + index)).buffer else none
      rw [show ring.read + (index + 1) = ring.read + 1 + index by omega]
      split
      case isTrue inside =>
        rw [slotAt_delivering ready.toArranged behind (by omega) (by omega),
          if_neg (by omega)]
      case isFalse => rfl

/-- Giving a delivered slot back leaves the others. -/
theorem undelivered_returned
    {position : Nat}
    (tail_le : ring.tail ≤ position)
    (lt_read : position < ring.read)
    (change : Slot → Slot) :
    (ring.changedAt position change).reclaim.undelivered = ring.undelivered := by
  have tail_le_read := ready.tail_le_read
  have read_le := ready.read_le_head
  have head_le := ready.head_le
  refine List.ext_getElem? fun index => ?_
  rw [getElem?_undelivered, getElem?_undelivered]
  change (if ring.read + index < ring.head then
    some ((ring.changedAt position change).reclaim.slotAt
      (ring.read + index)).buffer else none) = _
  split
  case isTrue inside =>
    rw [slotAt_reclaim, slotAt_changedAt change tail_le (by omega) (by omega)
      (by omega), if_neg (by omega)]
  case isFalse => rfl

/-- What is delivered and given back at once is the oldest one. -/
theorem undelivered_eq_cons_passed (behind : ring.read < ring.head) :
    ring.undelivered =
      (ring.slotAt ring.read).buffer :: ring.passed.undelivered :=
  (ready.undelivered_eq_cons behind).trans (congrArg _
    ((ready.delivering behind).undelivered_returned ready.tail_le_read
      (Nat.lt_succ_self _) _).symm)

end Ready

end PacketRing
end Ring
end VirtualAdapter

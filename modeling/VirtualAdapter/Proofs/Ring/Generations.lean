import Mathlib.Data.Nat.Count
import VirtualAdapter.Proofs.Ring.Contents

/-!
# Generations count allocations

Slots are allocated in turn, so a slot has been allocated as often as positions
before the head fall in its place.  Its generation is that number in 32 bits;
nothing but an allocation changes it.
-/

namespace VirtualAdapter
namespace Ring
namespace PacketRing

/-- How many positions before another one fall in a place. -/
def takings (ring : PacketRing) (index stop : Nat) : Nat :=
  Nat.count (fun position => ring.place position = index) stop

/-- The generation of every slot is the number of its allocations. -/
def Counted (ring : PacketRing) : Prop :=
  ∀ index < ring.capacity,
    (ring.slot index).generation = UInt32.ofNat (ring.takings index ring.head)

/-- Two rings have allocated the same slots equally often. -/
structure Coeval (ring next : PacketRing) : Prop where
  /-- The slots are as many. -/
  capacity_eq : next.capacity = ring.capacity
  /-- So were the allocations. -/
  head_eq : next.head = ring.head
  /-- Every slot has the same generation. -/
  generation_eq : ∀ index,
    (next.slot index).generation = (ring.slot index).generation

variable {ring next last : PacketRing}

@[simp]
theorem takings_zero (index : Nat) : ring.takings index 0 = 0 :=
  Nat.count_zero _

/-- A position counts for its own place. -/
theorem takings_succ (index stop : Nat) :
    ring.takings index (stop + 1) =
      ring.takings index stop + if ring.place stop = index then 1 else 0 :=
  Nat.count_succ _ _

/-! ## What leaves generations alone -/

theorem place_eq_of_capacity_eq
    (same : next.capacity = ring.capacity)
    (position : Nat) : next.place position = ring.place position :=
  congrArg (position % ·) same

theorem takings_eq_of_capacity_eq
    (same : next.capacity = ring.capacity)
    (index stop : Nat) : next.takings index stop = ring.takings index stop := by
  unfold takings
  simp only [place_eq_of_capacity_eq same]

namespace Coeval

theorem refl (ring : PacketRing) : Coeval ring ring :=
  ⟨rfl, rfl, fun _ => rfl⟩

theorem trans
    (first : Coeval ring next)
    (second : Coeval next last) : Coeval ring last where
  capacity_eq := second.capacity_eq.trans first.capacity_eq
  head_eq := second.head_eq.trans first.head_eq
  generation_eq := fun index =>
    (second.generation_eq index).trans (first.generation_eq index)

/-- A slot that is put in for one of its generation changes no other. -/
theorem setSlot
    {index : Nat}
    {slot : Slot}
    (same : slot.generation = (ring.slot index).generation) :
    Coeval ring (ring.setSlot index slot) := by
  refine ⟨capacity_setSlot _ _, rfl, fun other => ?_⟩
  rw [slot_setSlot]
  split
  case isTrue here => rw [same, here.1]
  case isFalse => rfl

theorem changedAt
    {position : Nat}
    {change : Slot → Slot}
    (same : (change (ring.slotAt position)).generation =
      (ring.slotAt position).generation) :
    Coeval ring (ring.changedAt position change) :=
  setSlot same

theorem reclaim (ring : PacketRing) : Coeval ring ring.reclaim :=
  ⟨rfl, rfl, fun _ => rfl⟩

theorem delivering (ring : PacketRing) : Coeval ring ring.delivering :=
  have changed : Coeval ring (ring.setSlot (ring.place ring.read)
      { ring.slotAt ring.read with state := .delivered }) := setSlot rfl
  ⟨changed.capacity_eq, rfl, changed.generation_eq⟩

theorem poke (ring : PacketRing) (index : Nat) (content : Bytes) :
    Coeval ring (ring.poke index content) :=
  setSlot rfl

theorem passed (ring : PacketRing) : Coeval ring ring.passed :=
  ((delivering ring).trans (changedAt rfl)).trans (reclaim _)

/-- Taking slots out changes no generation. -/
theorem drain
    (layout : Layout ring)
    (nothing : ring.read = ring.tail)
    (limit : Nat) : Coeval ring (ring.drain limit).2 := by
  induction limit generalizing ring with
  | zero => exact refl ring
  | succ limit hypothesis =>
      cases drained : ring.isDrained with
      | true =>
          rw [PacketRing.drain, pop_eq, if_pos drained]
          exact refl ring
      | false =>
          have waiting :=
            ((isDrained_eq_false_iff layout.toArranged).mp drained).1
          have taken := drained_passed layout nothing waiting
          rw [drain_succ layout limit drained]
          exact (passed ring).trans (hypothesis taken.layout taken.read_eq)

end Coeval

theorem Counted.of_coeval
    (counted : Counted ring)
    (coeval : Coeval ring next) : Counted next := by
  intro index inside
  rw [coeval.capacity_eq] at inside
  rw [coeval.generation_eq, coeval.head_eq,
    takings_eq_of_capacity_eq coeval.capacity_eq]
  exact counted index inside

/-! ## What counts -/

theorem counted_ofCapacity (capacity : UInt32) :
    Counted (ofCapacity capacity) := by
  intro index inside
  have inside : index < capacity.toNat := by
    simpa [PacketRing.capacity, ofCapacity] using inside
  have none : (ofCapacity capacity).takings index (ofCapacity capacity).head =
      0 := takings_zero index
  rw [none]
  simp [PacketRing.slot, ofCapacity, inside, Slot.fresh]

/-- An allocation counts for the slot at the head. -/
theorem Counted.grown
    (counted : Counted ring)
    (length : Nat) : Counted (ring.grown length) := by
  intro index inside
  rw [capacity_grown] at inside
  have takings : (ring.grown length).takings index (ring.head + 1) =
      ring.takings index ring.head +
        if ring.place ring.head = index then 1 else 0 := by
    rw [takings_eq_of_capacity_eq (capacity_grown length), takings_succ]
  change ((ring.setSlot (ring.place ring.head) _).slot index).generation =
    UInt32.ofNat ((ring.grown length).takings index (ring.head + 1))
  rw [takings, slot_setSlot]
  by_cases here : index = ring.place ring.head
  · have before := counted index inside
    subst here
    rw [if_pos ⟨rfl, inside⟩, if_pos rfl, UInt32.ofNat_add]
    exact congrArg (· + 1) before
  · rw [if_neg fun both => here both.1, if_neg (Ne.symm here)]
    exact counted index inside

theorem Counted.filled
    (counted : Counted ring)
    (content : Bytes) : Counted (ring.filled content) :=
  (counted.grown content.length).of_coeval
    ((Coeval.changedAt rfl).trans (Coeval.changedAt rfl))

/-! ## The generation at a position -/

/-- A place is not taken by positions that fall elsewhere. -/
theorem takings_eq_of_ne
    {index start stop : Nat}
    (ordered : start ≤ stop)
    (elsewhere : ∀ position, start ≤ position → position < stop →
      ring.place position ≠ index) :
    ring.takings index stop = ring.takings index start := by
  induction stop, ordered using Nat.le_induction with
  | base => rfl
  | succ stop ordered hypothesis =>
      rw [takings_succ, if_neg (elsewhere stop ordered (Nat.lt_succ_self _)),
        Nat.add_zero]
      exact hypothesis fun position beyond before =>
        elsewhere position beyond (Nat.lt_succ_of_lt before)

/-- More positions take a place at least as often. -/
theorem takings_mono
    (index : Nat)
    {first second : Nat}
    (ordered : first ≤ second) :
    ring.takings index first ≤ ring.takings index second :=
  Nat.count_monotone _ ordered

/-- The generation at a position in use is the number of positions up to it
that fall in the same place. -/
theorem Counted.generation_slotAt
    (counted : Counted ring)
    (arranged : Arranged ring)
    {position : Nat}
    (tail_le : ring.tail ≤ position)
    (lt_head : position < ring.head) :
    (ring.slotAt position).generation =
      UInt32.ofNat (ring.takings (ring.place position) (position + 1)) := by
  have head_le := arranged.head_le
  rw [slotAt, counted _ (place_lt arranged.nonempty position)]
  -- The positions behind this one are less than a capacity away.
  refine congrArg UInt32.ofNat (takings_eq_of_ne lt_head fun other beyond before
    same => ?_)
  have := (@place_inj ring ring.tail _ _ (by omega) (by omega) tail_le
    (by omega)).mp same
  omega

end PacketRing
end Ring
end VirtualAdapter

import VirtualAdapter.Proofs.Ring.Generations

/-!
# Handles by position

Which handle an allocation gives out depends on its position only.  As long as
there were less than 2³² allocations no handle was given out twice, and one
whose slot was given back is never accepted again.
-/

namespace VirtualAdapter
namespace Ring
namespace PacketRing

/-- The handle that is given out at a position: its place, and how often that
was taken by then. -/
def issued (ring : PacketRing) (position : Nat) : SlotHandle :=
  ⟨UInt32.ofNat (ring.place position),
    UInt32.ofNat (ring.takings (ring.place position) (position + 1))⟩

variable {ring next : PacketRing}

/-- Rings of one capacity give out the same handles. -/
theorem issued_eq_of_capacity_eq
    (same : next.capacity = ring.capacity)
    (position : Nat) : next.issued position = ring.issued position := by
  rw [issued, issued, place_eq_of_capacity_eq same,
    takings_eq_of_capacity_eq same]

/-- A place is taken at most once by each position. -/
theorem takings_le (index stop : Nat) : ring.takings index stop ≤ stop :=
  Nat.count_le _

/-- The handle of a position in use is the one that was given out there. -/
theorem Counted.handleAt_eq_issued
    (counted : Counted ring)
    (arranged : Arranged ring)
    {position : Nat}
    (tail_le : ring.tail ≤ position)
    (lt_head : position < ring.head) :
    ring.handleAt position = ring.issued position := by
  rw [handleAt, issued, counted.generation_slotAt arranged tail_le lt_head]

/-- A position has another handle than the ones behind it. -/
theorem issued_ne_of_lt
    (arranged : Arranged ring)
    {first second : Nat}
    (lt : first < second)
    (young : second + 1 < 2 ^ 32) :
    ring.issued first ≠ ring.issued second := by
  intro same
  obtain ⟨index, generation⟩ := SlotHandle.mk.inj same
  have places : ring.place first = ring.place second := by
    have := congrArg UInt32.toNat index
    rwa [toNat_ofNat_place arranged.nonempty arranged.addressable,
      toNat_ofNat_place arranged.nonempty arranged.addressable] at this
  have more : ring.takings (ring.place second) (second + 1) =
      ring.takings (ring.place second) second + 1 := by
    rw [takings_succ, if_pos rfl]
  have earlier : ring.takings (ring.place second) (first + 1) ≤
      ring.takings (ring.place second) second := takings_mono _ lt
  have few : ring.takings (ring.place second) second ≤ second := takings_le _ _
  rw [places] at generation
  have equal := congrArg UInt32.toNat generation
  rw [UInt32.toNat_ofNat', UInt32.toNat_ofNat'] at equal
  omega

/-- A handle names the position at which it was given out, or none. -/
theorem Counted.eq_of_names_issued
    (counted : Counted ring)
    (arranged : Arranged ring)
    (young : ring.head < 2 ^ 32)
    {position other : Nat}
    (lt_head : position < ring.head)
    (names : ring.Names (ring.issued position) other) : other = position := by
  have same := (names.eq_handleAt arranged).trans
    (counted.handleAt_eq_issued arranged names.tail_le names.lt_head)
  have lt_other := names.lt_head
  rcases Nat.lt_trichotomy position other with before | equal | behind
  · exact absurd same (issued_ne_of_lt arranged before (by omega))
  · exact equal.symm
  · exact absurd same.symm (issued_ne_of_lt arranged behind (by omega))

/-- A ring refuses a release for one of two reasons, if it has the slot. -/
theorem release_eq_ok_or_error
    {handle : SlotHandle}
    (inside : handle.index.toNat < ring.capacity) :
    (∃ next, ring.release handle = .ok next) ∨
      ring.release handle = .error .staleGeneration ∨
      ∃ found, ring.release handle =
        .error (.invalidState .delivered found) := by
  obtain ⟨slot, present⟩ : ∃ slot, ring.slots[handle.index.toNat]? = some slot :=
    ⟨_, Array.getElem?_eq_getElem inside⟩
  unfold release transition check validate
  rw [present]
  by_cases current : slot.generation = handle.generation
  · by_cases state : slot.state = .delivered
    · simp [current, state, Except.map]
    · simp [current, state, Except.map]
  · simp [current, Except.map]

/-- A handle whose slot was given back is refused, whatever happened since. -/
theorem Counted.release_issued
    (counted : Counted ring)
    (arranged : Arranged ring)
    (young : ring.head < 2 ^ 32)
    {position : Nat}
    (lt_head : position < ring.head)
    (freed : ring.tail ≤ position → (ring.slotAt position).state = .free) :
    ring.release (ring.issued position) = .error .staleGeneration ∨
      ∃ found, ring.release (ring.issued position) =
        .error (.invalidState .delivered found) := by
  have inside : (ring.issued position).index.toNat < ring.capacity := by
    rw [issued, toNat_ofNat_place arranged.nonempty arranged.addressable]
    exact place_lt arranged.nonempty position
  refine (release_eq_ok_or_error inside).resolve_left ?_
  rintro ⟨next, accepted⟩
  obtain ⟨other, names, state, _⟩ := (release_eq_ok_iff arranged).mp accepted
  obtain rfl := counted.eq_of_names_issued arranged young lt_head names
  rw [freed names.tail_le] at state
  cases state

end PacketRing
end Ring
end VirtualAdapter

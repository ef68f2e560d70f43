import VirtualAdapter.Proofs.Ring.Ready

/-!
# Rings that are read in turn

A reader takes packets out of a ring and gives each one back, oldest first.
Then the positions count: the tail tells how many packets came back, the read
position how many were taken out, the head how many were put in.
-/

namespace VirtualAdapter
namespace Ring
namespace PacketRing

/-- Of the contents that were put into a ring, some have come back, the next
ones are out and the others wait. -/
structure Queued
    (ring : PacketRing)
    (accepted : List Bytes)
    (back out : Nat) : Prop extends Ready ring where
  /-- The tail has passed what came back. -/
  tail_eq : ring.tail = back
  /-- The read position has passed also what is out. -/
  read_eq : ring.read = back + out
  /-- Every content was put in at a position of its own. -/
  head_eq : ring.head = accepted.length
  /-- What did not come back is in its slot. -/
  buffer_eq : ∀ (position : Nat) (content : Bytes), back ≤ position →
    accepted[position]? = some content →
      (ring.slotAt position).buffer = content
  /-- The slots of what is out are delivered. -/
  lent : ∀ position, back ≤ position → position < back + out →
    (ring.slotAt position).state = .delivered

variable {ring : PacketRing} {accepted : List Bytes} {back out : Nat}

/-- Nothing was put into the ring yet. -/
theorem Ready.queued (ready : Ready ring) (empty : ring.head = 0) :
    Queued ring [] 0 0 := by
  have tail_le := ready.tail_le_read
  have read_le := ready.read_le_head
  exact { ready with
    tail_eq := by omega
    read_eq := by omega
    head_eq := empty
    buffer_eq := fun _ _ _ found => by simp at found
    lent := fun _ _ before => absurd before (Nat.not_lt_zero _) }

namespace Queued

/-- Only what was put in has come back. -/
theorem back_le (queued : Queued ring accepted back out) :
    back ≤ accepted.length := by
  rw [← queued.tail_eq, ← queued.head_eq]
  exact queued.tail_le_read.trans queued.read_le_head

/-- Something can be taken out exactly while something waits. -/
theorem isDrained_eq_false_iff (queued : Queued ring accepted back out) :
    ring.isDrained = false ↔ back + out < accepted.length := by
  rw [queued.toReady.isDrained_eq_false_iff, queued.read_eq, queued.head_eq]

/-- What is put in waits behind the others. -/
theorem filled
    (queued : Queued ring accepted back out)
    (room : ring.head < ring.tail + ring.capacity)
    (content : Bytes) :
    Queued (ring.filled content) (accepted ++ [content]) back out := by
  have layout := queued.toLayout
  have read_le := layout.read_le_head
  have kept : ∀ position, back ≤ position → position < ring.head →
      (ring.filled content).slotAt position = ring.slotAt position :=
    fun position beyond before => slotAt_filled_of_lt layout room content
      (queued.tail_eq ▸ beyond) before
  refine { queued.toReady.filled room content with
    tail_eq := queued.tail_eq
    read_eq := queued.read_eq
    head_eq := ?_
    buffer_eq := fun position found beyond present => ?_
    lent := fun position beyond before => ?_ }
  · rw [List.length_append, ← queued.head_eq]
    rfl
  · rcases Nat.lt_or_ge position accepted.length with inside | last
    · rw [List.getElem?_append_left inside] at present
      rw [kept position beyond (queued.head_eq ▸ inside)]
      exact queued.buffer_eq position found beyond present
    · rw [List.getElem?_append_right last, List.getElem?_singleton] at present
      split at present
      case isTrue here =>
        obtain rfl : position = ring.head := by
          rw [queued.head_eq]
          omega
        obtain rfl := Option.some.inj present
        exact buffer_slotAt_filled_head layout room content
      case isFalse => cases present
  · rw [kept position beyond (by rw [queued.read_eq] at read_le; omega)]
    exact queued.lent position beyond before

/-- What waits longest is taken out. -/
theorem delivering
    (queued : Queued ring accepted back out)
    (waiting : ring.isDrained = false) :
    Queued ring.delivering accepted back (out + 1) := by
  have behind := queued.toReady.isDrained_eq_false_iff.mp waiting
  have read_eq := queued.read_eq
  have tail_eq := queued.tail_eq
  have head_le := queued.head_le
  have shown : ∀ position, back ≤ position → position < ring.head →
      ring.delivering.slotAt position =
        if position = ring.read then
          { ring.slotAt ring.read with state := .delivered }
        else ring.slotAt position :=
    fun position beyond before => slotAt_delivering queued.toArranged behind
      (by omega) (by omega)
  refine { queued.toReady.delivering behind with
    tail_eq := tail_eq
    read_eq := congrArg (· + 1) read_eq
    head_eq := queued.head_eq
    buffer_eq := fun position content beyond found => ?_
    lent := fun position beyond before => ?_ }
  · have inside := (List.getElem?_eq_some_iff.mp found).1
    have held := queued.buffer_eq position content beyond found
    rw [shown position beyond (queued.head_eq ▸ inside)]
    split
    case isTrue here => rw [← here]; exact held
    case isFalse => exact held
  · rw [shown position beyond (by omega)]
    split
    case isTrue => rfl
    case isFalse => exact queued.lent position beyond (by omega)

/-- The only packet that is out comes back. -/
theorem released (queued : Queued ring accepted back 1) :
    Queued (ring.changedAt back fun slot => { slot with state := .free }).reclaim
      accepted (back + 1) 0 := by
  have read_eq := queued.read_eq
  have tail_eq := queued.tail_eq
  have head_le := queued.head_le
  have read_le := queued.read_le_head
  have shown : ∀ position, back ≤ position → position < ring.head →
      (ring.changedAt back fun slot =>
        { slot with state := .free }).slotAt position =
        if position = back then { ring.slotAt back with state := .free }
        else ring.slotAt position :=
    fun position beyond before => slotAt_changedAt _ (by omega) (by omega)
      (by omega) (by omega)
  have ready := (queued.toReady.release
    ((release_eq_ok_iff queued.toArranged).mpr
      ⟨back, names_handleAt queued.toArranged (by omega) (by omega),
        queued.lent back (Nat.le_refl _) (Nat.lt_succ_self _), rfl⟩)).1
  refine { ready with
    tail_eq := ?_
    read_eq := read_eq
    head_eq := queued.head_eq
    buffer_eq := fun position content beyond found => ?_
    lent := fun position beyond before => by omega }
  · -- The tail passes the freed slot and stops at the read position.
    have freed := shown back (Nat.le_refl _) (by omega)
    change ring.tail + reclaimable _ ring.tail (ring.read - ring.tail) = _
    rw [read_eq, tail_eq, Nat.add_sub_cancel_left, reclaimable, freed,
      if_pos rfl, if_pos rfl, reclaimable]
  · have inside := (List.getElem?_eq_some_iff.mp found).1
    rw [slotAt_reclaim, shown position (by omega) (queued.head_eq ▸ inside),
      if_neg (by omega)]
    exact queued.buffer_eq position content (by omega) found

/-- While nothing is out, no slot is delivered. -/
theorem count_delivered (queued : Queued ring accepted back 0) :
    ring.count .delivered = 0 := by
  have bound := queued.toArranged.count_delivered_le
  rw [queued.read_eq, queued.tail_eq] at bound
  omega

/-- While nothing is out, the ring shows what did not come back yet. -/
theorem contents_eq (queued : Queued ring accepted back 0) :
    ring.contents = (accepted.drop back).map (·, .committed) := by
  refine List.ext_getElem? fun index => ?_
  rw [getElem?_contents, List.getElem?_map, List.getElem?_drop, queued.tail_eq,
    queued.head_eq]
  split
  case isTrue inside =>
    have found := List.getElem?_eq_getElem inside
    have buffer := queued.buffer_eq _ _ (Nat.le_add_right _ _) found
    have state := queued.waiting (back + index)
      (by rw [queued.read_eq]; omega) (by rw [queued.head_eq]; exact inside)
    rw [found, Slot.shown, buffer, state]
    rfl
  case isFalse beyond =>
    rw [List.getElem?_eq_none (Nat.le_of_not_lt beyond)]
    rfl

end Queued
end PacketRing
end Ring
end VirtualAdapter

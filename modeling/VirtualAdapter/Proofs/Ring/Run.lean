import VirtualAdapter.Proofs.Ring.Count
import VirtualAdapter.Proofs.Ring.Effect

/-!
# Runs of a ring

A run is any list of calls, with handles of any kind: present, stale, or never
given out.  Every call keeps the layout, so the layout holds after every run,
and with it what it says about places, counts and refusals.
-/

namespace VirtualAdapter
namespace Ring

/-- A call on a ring. -/
inductive Call
  /-- Take the next slot. -/
  | alloc (length : Nat)
  /-- Write to the start of a slot. -/
  | write (handle : SlotHandle) (content : Bytes)
  /-- Be done with writing. -/
  | commit (handle : SlotHandle)
  /-- Deliver the next slot. -/
  | pop
  /-- Give a slot back. -/
  | release (handle : SlotHandle)
  /-- Read a slot. -/
  | bytes (handle : SlotHandle)
  /-- Ask where the buffer of a slot is. -/
  | bufferPointer (handle : SlotHandle)
  /-- Check an address against a slot. -/
  | resolve
      (handle : SlotHandle)
      (pointer : Option SlotPointer)
      (state : SlotState)

/-- The call takes a slot. -/
def Call.isAlloc : Call → Bool
  | .alloc _ => true
  | _ => false

/-- What a ring answers. -/
inductive Answer
  /-- The slot that was allocated, delivered or found. -/
  | handle (handle : SlotHandle)
  /-- There is nothing to deliver. -/
  | nothing
  /-- The ring was changed. -/
  | done
  /-- The content of a slot. -/
  | content (content : Bytes)
  /-- The place of a buffer and its length. -/
  | buffer (pointer : SlotPointer) (length : Nat)
  /-- The call was refused. -/
  | refused (error : RingError)

namespace PacketRing

/-- The changed ring, or the refusal and the old one. -/
def settle
    (ring : PacketRing) : Except RingError PacketRing → Answer × PacketRing
  | .error error => (.refused error, ring)
  | .ok next => (.done, next)

/-- The answer of a call that only looks. -/
def look : Except RingError Answer → Answer
  | .error error => .refused error
  | .ok answer => answer

/-- Carry out a call. -/
def perform (ring : PacketRing) : Call → Answer × PacketRing
  | .alloc length =>
      match ring.alloc length with
      | .error error => (.refused error, ring)
      | .ok (handle, next) => (.handle handle, next)
  | .write handle content => ring.settle (ring.write handle content)
  | .commit handle => ring.settle (ring.commit handle)
  | .pop =>
      match ring.pop with
      | none => (.nothing, ring)
      | some (handle, next) => (.handle handle, next)
  | .release handle => ring.settle (ring.release handle)
  | .bytes handle => (look ((ring.bytes handle).map .content), ring)
  | .bufferPointer handle =>
      (look ((ring.bufferPointer handle).map fun found =>
        .buffer found.1 found.2), ring)
  | .resolve handle pointer state =>
      (look ((ring.resolve handle pointer state).map .handle), ring)

/-- Carry calls out one after the other, keeping each with its answer. -/
def run (ring : PacketRing) : List Call → List (Call × Answer) × PacketRing
  | [] => ([], ring)
  | call :: rest =>
      let (answer, next) := ring.perform call
      let (log, last) := next.run rest
      ((call, answer) :: log, last)

variable {ring : PacketRing}

/-! ## What a call does -/

/-- Everything that a call can do to a ring: nothing at all, or one of five
changes, each with its own answer. -/
inductive Performed (ring : PacketRing) : Call → Answer → PacketRing → Prop
  | alloc (length : Nat)
      (room : ring.head < ring.tail + ring.capacity) :
      Performed ring (.alloc length)
        (.handle ((ring.grown length).handleAt ring.head)) (ring.grown length)
  | write {handle : SlotHandle} {position : Nat} (content : Bytes)
      (names : ring.Names handle position)
      (state : (ring.slotAt position).state = .allocated) :
      Performed ring (.write handle content) .done
        (ring.changedAt position fun slot =>
          { slot with buffer := Bytes.overwrite 0 content slot.buffer })
  | commit {handle : SlotHandle} {position : Nat}
      (names : ring.Names handle position)
      (state : (ring.slotAt position).state = .allocated) :
      Performed ring (.commit handle) .done
        (ring.changedAt position fun slot => { slot with state := .committed })
  | pop
      (waiting : ring.read < ring.head)
      (state : (ring.slotAt ring.read).state = .committed) :
      Performed ring .pop (.handle (ring.handleAt ring.read)) ring.delivering
  | release {handle : SlotHandle} {position : Nat}
      (names : ring.Names handle position)
      (state : (ring.slotAt position).state = .delivered) :
      Performed ring (.release handle) .done
        (ring.changedAt position fun slot =>
          { slot with state := .free }).reclaim
  | refused (call : Call) (error : RingError) :
      Performed ring call (.refused error) ring
  | nothing : Performed ring .pop .nothing ring
  | bytes (handle : SlotHandle) (answer : Answer) :
      Performed ring (.bytes handle) answer ring
  | bufferPointer (handle : SlotHandle) (answer : Answer) :
      Performed ring (.bufferPointer handle) answer ring
  | resolve (handle : SlotHandle) (pointer : Option SlotPointer)
      (state : SlotState) (answer : Answer) :
      Performed ring (.resolve handle pointer state) answer ring

/-- A call does one of the things that are listed. -/
theorem performed
    (arranged : Arranged ring)
    (call : Call) :
    Performed ring call (ring.perform call).1 (ring.perform call).2 := by
  cases call with
  | alloc length =>
      rw [perform, alloc_eq arranged]
      by_cases full : ring.isFull = true
      · rw [if_pos full]
        exact .refused _ _
      · rw [if_neg full]
        have head_le := arranged.head_le
        rw [isFull_iff arranged] at full
        exact .alloc length (by omega)
  | write handle content =>
      rw [perform]
      cases written : ring.write handle content with
      | error error => exact .refused _ _
      | ok next =>
          obtain ⟨position, names, state, rfl⟩ :=
            (write_eq_ok_iff arranged).mp written
          exact .write content names state
  | commit handle =>
      rw [perform]
      cases committed : ring.commit handle with
      | error error => exact .refused _ _
      | ok next =>
          obtain ⟨position, names, state, rfl⟩ :=
            (commit_eq_ok_iff arranged).mp committed
          exact .commit names state
  | pop =>
      rw [perform, pop_eq]
      cases drained : ring.isDrained with
      | true => exact .nothing
      | false =>
          obtain ⟨waiting, state⟩ := (isDrained_eq_false_iff arranged).mp drained
          exact .pop waiting state
  | release handle =>
      rw [perform]
      cases released : ring.release handle with
      | error error => exact .refused _ _
      | ok next =>
          obtain ⟨position, names, state, rfl⟩ :=
            (release_eq_ok_iff arranged).mp released
          exact .release names state
  | bytes handle => exact .bytes _ _
  | bufferPointer handle => exact .bufferPointer _ _
  | resolve handle pointer state => exact .resolve _ _ _ _

/-! ## What every run keeps -/

/-- Every call keeps the layout. -/
theorem Layout.perform (layout : Layout ring) (call : Call) :
    Layout (ring.perform call).2 := by
  have done := performed layout.toArranged call
  generalize (ring.perform call).1 = answer at done
  generalize (ring.perform call).2 = next at done ⊢
  cases done with
  | alloc length room => exact layout.grown room length
  | write content names state =>
      exact layout.changedAt
        (layout.read_le_of_pending names.tail_le (.inl state))
        names.lt_head (.inl state)
  | commit names state =>
      exact layout.changedAt
        (layout.read_le_of_pending names.tail_le (.inl state))
        names.lt_head (.inr rfl)
  | pop waiting state => exact layout.delivering waiting
  | release names state =>
      exact layout.reclaim_changedAt names.tail_le
        (layout.lt_read_of_delivered names.lt_head state) rfl
  | refused | nothing | bytes | bufferPointer | resolve => exact layout

/-- Every call keeps the capacity. -/
theorem capacity_perform (arranged : Arranged ring) (call : Call) :
    (ring.perform call).2.capacity = ring.capacity := by
  have done := performed arranged call
  generalize (ring.perform call).1 = answer at done
  generalize (ring.perform call).2 = next at done ⊢
  cases done with
  | alloc | write | commit | pop | release => simp
  | refused | nothing | bytes | bufferPointer | resolve => rfl

/-- The head moves by one with an allocation and not otherwise. -/
theorem head_perform_le (arranged : Arranged ring) (call : Call) :
    (ring.perform call).2.head ≤ ring.head + if call.isAlloc then 1 else 0 := by
  have done := performed arranged call
  generalize (ring.perform call).1 = answer at done
  generalize (ring.perform call).2 = next at done ⊢
  cases done with
  | alloc => exact Nat.le_refl _
  | write | commit | pop | release => exact Nat.le_add_right _ _
  | refused | nothing | bytes | bufferPointer | resolve =>
      exact Nat.le_add_right _ _

/-- After every run the layout holds, the capacity is that of the beginning,
and the head has moved over at most as many slots as were asked for. -/
theorem Layout.run (layout : Layout ring) (calls : List Call) :
    Layout (ring.run calls).2 ∧
      (ring.run calls).2.capacity = ring.capacity ∧
      (ring.run calls).2.head ≤ ring.head + calls.countP (·.isAlloc) := by
  induction calls generalizing ring with
  | nil => exact ⟨layout, rfl, Nat.le_refl _⟩
  | cons call rest hypothesis =>
      obtain ⟨kept, same, bound⟩ := hypothesis (layout.perform call)
      have first := head_perform_le layout.toArranged call
      refine ⟨kept, same.trans (capacity_perform layout.toArranged call), ?_⟩
      rw [List.countP_cons]
      change ((ring.perform call).2.run rest).2.head ≤ _
      omega

/-- After any calls on a new ring, its slots are in the states that its three
positions allow, the slots outside the positions in use are free, a masked
position is the place of a slot, the number of slots in use and the counts by
state follow from the positions, and an allocation is refused only because the
ring is full. -/
theorem slots_follow_positions
    (capacity : UInt32)
    (power : isPowerOfTwo capacity = true)
    (calls : List Call) :
    let ring := ((ofCapacity capacity).run calls).2
    Layout ring ∧
    ring.capacity = capacity.toNat ∧
    ring.head ≤ calls.countP (·.isAlloc) ∧
    (∀ index, index < ring.capacity →
      (∀ position, ring.tail ≤ position → position < ring.head →
        ring.place position ≠ index) →
      (ring.slot index).state = .free) ∧
    (∀ position, position &&& (capacity.toNat - 1) = ring.place position ∧
      ring.place position < ring.slots.size) ∧
    ring.tail + ring.inUse = ring.head ∧
    ring.count .allocated + ring.count .committed = ring.head - ring.read ∧
    ring.count .delivered ≤ ring.read - ring.tail ∧
    ∀ length error, ring.alloc length = .error error → error = .full := by
  intro ring
  have isPower := toNat_isPowerOfTwo power
  obtain ⟨layout, same, bound⟩ :=
    (layout_ofCapacity (Nat.pos_of_isPowerOfTwo isPower)).run calls
  have size : ring.capacity = capacity.toNat := by
    rw [same]
    simp [PacketRing.capacity, ofCapacity]
  refine ⟨layout, size, ?_, ?_, ?_, ?_, layout.count_pending,
    layout.count_delivered_le, ?_⟩
  · exact bound.trans_eq (Nat.zero_add _)
  · intro index inside unused
    by_contra used
    obtain ⟨position, tail_le, lt_head, equal⟩ :=
      layout.exists_position_of_state_ne_free inside used
    exact unused position tail_le lt_head equal
  · intro position
    refine ⟨?_, place_lt layout.nonempty position⟩
    rw [← size]
    exact and_capacity_sub_one ring (size ▸ isPower) position
  · exact Nat.add_sub_cancel'
      (layout.tail_le_read.trans layout.read_le_head)
  · intro length error refused
    rw [alloc_eq layout.toArranged] at refused
    split at refused
    · exact (Except.error.inj refused).symm
    · simp at refused

/-- A ring of one slot that is used twice: a full ring, a stale handle and
handles that were never given out change nothing. -/
theorem slots_follow_positions_of_one :
    let calls : List Call :=
      [.alloc 2, .alloc 1, .commit ⟨0, 9⟩, .commit ⟨0, 1⟩, .pop,
        .release ⟨5, 1⟩, .release ⟨0, 1⟩, .alloc 3, .release ⟨0, 1⟩]
    let ring := ((ofCapacity 1).run calls).2
    isPowerOfTwo 1 = true ∧ Layout ring ∧
      ring.tail = 1 ∧ ring.read = 1 ∧ ring.head = 2 ∧
      ring.count .allocated + ring.count .committed = 1 := by
  intro calls ring
  obtain ⟨layout, _, _, _, _, _, pending, _⟩ :=
    slots_follow_positions 1 (by decide) calls
  exact ⟨by decide, layout, rfl, rfl, rfl, pending⟩

end PacketRing
end Ring
end VirtualAdapter

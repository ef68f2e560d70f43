import VirtualAdapter.Proofs.Ring.Layout

/-!
# What accepted calls change

A handle names the slot at one position.  Each call that a ring accepts puts
one slot in at such a position, and all of them keep the layout.
-/

namespace VirtualAdapter
namespace Ring
namespace PacketRing

/-- The handle of the slot at a position. -/
def handleAt (ring : PacketRing) (position : Nat) : SlotHandle :=
  ⟨UInt32.ofNat (ring.place position), (ring.slotAt position).generation⟩

/-- The handle stands for the present allocation of the slot at a position
that is in use. -/
structure Names
    (ring : PacketRing)
    (handle : SlotHandle)
    (position : Nat) : Prop where
  /-- The position is in use. -/
  tail_le : ring.tail ≤ position
  /-- The position was allocated. -/
  lt_head : position < ring.head
  /-- The handle has the place of the position. -/
  place_eq : ring.place position = handle.index.toNat
  /-- The slot was not allocated since. -/
  generation_eq : (ring.slotAt position).generation = handle.generation

/-- The ring after an allocation. -/
def grown (ring : PacketRing) (length : Nat) : PacketRing :=
  { ring.setSlot (ring.place ring.head)
      ⟨.allocated, (ring.slotAt ring.head).generation + 1,
        Bytes.zeros length⟩ with
    head := ring.head + 1 }

/-- The ring after a delivery. -/
def delivering (ring : PacketRing) : PacketRing :=
  { ring.setSlot (ring.place ring.read)
      { ring.slotAt ring.read with state := .delivered } with
    read := ring.read + 1 }

/-- The ring with the slot at a position changed. -/
def changedAt
    (ring : PacketRing)
    (position : Nat)
    (change : Slot → Slot) : PacketRing :=
  ring.setSlot (ring.place position) (change (ring.slotAt position))

variable {ring : PacketRing}

/-! ## Which slot changes -/

/-- An allocation changes the slot at the head. -/
theorem slotAt_grown
    (arranged : Arranged ring)
    (room : ring.head < ring.tail + ring.capacity)
    (length : Nat)
    {position : Nat}
    (tail_le : ring.tail ≤ position)
    (lt : position < ring.tail + ring.capacity) :
    (ring.grown length).slotAt position =
      if position = ring.head then
        ⟨.allocated, (ring.slotAt ring.head).generation + 1,
          Bytes.zeros length⟩
      else ring.slotAt position :=
  slotAt_setSlot _ (arranged.tail_le_read.trans arranged.read_le_head) room
    tail_le lt

/-- A delivery changes the slot at the read position. -/
theorem slotAt_delivering
    (arranged : Arranged ring)
    (waiting : ring.read < ring.head)
    {position : Nat}
    (tail_le : ring.tail ≤ position)
    (lt : position < ring.tail + ring.capacity) :
    ring.delivering.slotAt position =
      if position = ring.read then
        { ring.slotAt ring.read with state := .delivered }
      else ring.slotAt position :=
  slotAt_setSlot _ arranged.tail_le_read
    (Nat.lt_of_lt_of_le waiting arranged.head_le) tail_le lt

/-- A changed slot shows at its own position only. -/
theorem slotAt_changedAt
    (change : Slot → Slot)
    {position other : Nat}
    (position_ge : ring.tail ≤ position)
    (position_lt : position < ring.tail + ring.capacity)
    (other_ge : ring.tail ≤ other)
    (other_lt : other < ring.tail + ring.capacity) :
    (ring.changedAt position change).slotAt other =
      if other = position then change (ring.slotAt position)
      else ring.slotAt other :=
  slotAt_setSlot _ position_ge position_lt other_ge other_lt

@[simp]
theorem capacity_grown (length : Nat) :
    (ring.grown length).capacity = ring.capacity :=
  capacity_setSlot _ _

@[simp]
theorem capacity_delivering : ring.delivering.capacity = ring.capacity :=
  capacity_setSlot _ _

@[simp]
theorem capacity_changedAt (position : Nat) (change : Slot → Slot) :
    (ring.changedAt position change).capacity = ring.capacity :=
  capacity_setSlot _ _

@[simp]
theorem place_grown (length position : Nat) :
    (ring.grown length).place position = ring.place position :=
  place_setSlot _ _ _

@[simp]
theorem place_delivering (position : Nat) :
    ring.delivering.place position = ring.place position :=
  place_setSlot _ _ _

@[simp]
theorem place_changedAt (position other : Nat) (change : Slot → Slot) :
    (ring.changedAt position change).place other = ring.place other :=
  place_setSlot _ _ _

/-- Two changes of one slot are one change. -/
theorem changedAt_changedAt
    (nonempty : 0 < ring.capacity)
    (position : Nat)
    (first second : Slot → Slot) :
    (ring.changedAt position first).changedAt position second =
      ring.changedAt position fun slot => second (first slot) := by
  have shown : (ring.changedAt position first).slotAt position =
      first (ring.slotAt position) := by
    have lt : position < position + ring.capacity := by omega
    exact (slotAt_setSlot _ (Nat.le_refl _) lt (Nat.le_refl _) lt).trans
      (if_pos rfl)
  rw [changedAt, shown, place_changedAt, changedAt, changedAt, setSlot, setSlot,
    setSlot]
  exact congrArg (fun slots => { ring with slots })
    (Array.setIfInBounds_setIfInBounds _)

/-! ## Handles -/

/-- A delivery keeps every handle. -/
theorem handleAt_delivering
    (arranged : Arranged ring)
    (waiting : ring.read < ring.head)
    {position : Nat}
    (tail_le : ring.tail ≤ position)
    (lt : position < ring.tail + ring.capacity) :
    ring.delivering.handleAt position = ring.handleAt position := by
  rw [handleAt, handleAt, place_delivering,
    slotAt_delivering arranged waiting tail_le lt]
  split
  case isTrue same => rw [same]
  case isFalse => rfl

/-- Every position in use is named by its handle. -/
theorem names_handleAt
    (arranged : Arranged ring)
    {position : Nat}
    (tail_le : ring.tail ≤ position)
    (lt_head : position < ring.head) :
    ring.Names (ring.handleAt position) position where
  tail_le := tail_le
  lt_head := lt_head
  place_eq :=
    (toNat_ofNat_place arranged.nonempty arranged.addressable position).symm
  generation_eq := rfl

/-- A handle that names a position is the one of the position. -/
theorem Names.eq_handleAt
    (arranged : Arranged ring)
    {handle : SlotHandle}
    {position : Nat}
    (names : ring.Names handle position) :
    handle = ring.handleAt position := by
  have place_eq := (toNat_ofNat_place arranged.nonempty arranged.addressable
    position).trans names.place_eq
  cases handle with
  | mk index generation =>
      simp only [handleAt, SlotHandle.mk.injEq]
      exact ⟨(UInt32.toNat_inj.mp place_eq).symm, names.generation_eq.symm⟩

/-- A handle is valid for the slot that it names. -/
theorem Names.validate
    (arranged : Arranged ring)
    {handle : SlotHandle}
    {position : Nat}
    (names : ring.Names handle position) :
    ring.validate handle = .ok (ring.slotAt position) := by
  have inside : handle.index.toNat < ring.slots.size := by
    rw [← names.place_eq]
    exact place_lt arranged.nonempty position
  have shown : ring.slots[handle.index.toNat] = ring.slotAt position := by
    rw [slotAt, names.place_eq, PacketRing.slot,
      Array.getD_eq_getD_getElem?, Array.getElem?_eq_getElem inside]
    rfl
  rw [PacketRing.validate, Array.getElem?_eq_getElem inside]
  simp [shown, names.generation_eq]

/-- A handle is accepted for the slot that it names, in its present state. -/
theorem Names.check
    (arranged : Arranged ring)
    {handle : SlotHandle}
    {position : Nat}
    (names : ring.Names handle position)
    {expected : SlotState}
    (state : (ring.slotAt position).state = expected) :
    ring.check handle expected = .ok (ring.slotAt position) := by
  rw [PacketRing.check, names.validate arranged]
  simp [state]

/-- A handle that is accepted in a state other than free names a position. -/
theorem exists_names_of_check
    (arranged : Arranged ring)
    {handle : SlotHandle}
    {expected : SlotState}
    {slot : Slot}
    (used : expected ≠ .free)
    (checked : ring.check handle expected = .ok slot) :
    ∃ position, ring.Names handle position ∧
      ring.slotAt position = slot ∧ slot.state = expected := by
  obtain ⟨position, tail_le, lt_head, place_eq, rfl, current, state⟩ :=
    arranged.exists_position_of_check used checked
  exact ⟨position, ⟨tail_le, lt_head, place_eq, current⟩, rfl, state⟩

/-! ## What each call gives -/

/-- A ring is full when its head has come round to its tail. -/
theorem isFull_iff (arranged : Arranged ring) :
    ring.isFull = true ↔ ring.head = ring.tail + ring.capacity := by
  have tail_le := arranged.tail_le_read.trans arranged.read_le_head
  have head_le := arranged.head_le
  rw [isFull, decide_eq_true_eq, inUse]
  omega

/-- A ring that is not full has room before its tail comes round. -/
theorem lt_of_isFull_eq_false
    (arranged : Arranged ring)
    (room : ring.isFull = false) : ring.head < ring.tail + ring.capacity := by
  have notFull : ring.head ≠ ring.tail + ring.capacity := fun full =>
    Bool.false_ne_true (room.symm.trans ((isFull_iff arranged).mpr full))
  have head_le := arranged.head_le
  omega

/-- A slot can be delivered when the one at the read position is committed. -/
theorem isDrained_eq_false_iff (arranged : Arranged ring) :
    ring.isDrained = false ↔
      ring.read < ring.head ∧
        (ring.slotAt ring.read).state = .committed := by
  have read_le := arranged.read_le_head
  simp only [isDrained, Bool.or_eq_false_iff, beq_eq_false_iff_ne, ne_eq,
    bne_eq_false_iff_eq]
  exact and_congr_left fun _ => by omega

/-- An allocation is refused only by a full ring. -/
theorem alloc_eq (arranged : Arranged ring) (length : Nat) :
    ring.alloc length =
      if ring.isFull then .error .full
      else .ok ((ring.grown length).handleAt ring.head, ring.grown length) := by
  unfold alloc
  split
  case isTrue => rfl
  case isFalse notFull =>
    have tail_le := arranged.tail_le_read.trans arranged.read_le_head
    have room := lt_of_isFull_eq_false arranged (Bool.eq_false_iff.mpr notFull)
    have free : (ring.slot (ring.place ring.head)).state = .free :=
      arranged.spare ring.head (Nat.le_refl _) room
    have shown := slotAt_grown arranged room length tail_le room
    rw [if_pos rfl] at shown
    rw [handleAt, shown, place_grown]
    simp only [free, ne_eq, not_true_eq_false, if_false]
    rfl

/-- A delivery gives the handle of the read position. -/
theorem pop_eq :
    ring.pop =
      if ring.isDrained then none
      else some (ring.handleAt ring.read, ring.delivering) := rfl

/-- A transition changes the state of the slot that the handle names. -/
theorem transition_eq_ok_iff
    (arranged : Arranged ring)
    {handle : SlotHandle}
    {source target : SlotState}
    {next : PacketRing}
    (used : source ≠ .free) :
    ring.transition handle source target = .ok next ↔
      ∃ position, ring.Names handle position ∧
        (ring.slotAt position).state = source ∧
        next = ring.changedAt position fun slot =>
          { slot with state := target } := by
  unfold transition
  constructor
  · intro moved
    cases checked : ring.check handle source with
    | error error => simp [checked] at moved
    | ok slot =>
        obtain ⟨position, names, rfl, state⟩ :=
          exists_names_of_check arranged used checked
        rw [checked] at moved
        refine ⟨position, names, state, ?_⟩
        rw [changedAt, names.place_eq]
        exact (Except.ok.inj moved).symm
  · rintro ⟨position, names, state, rfl⟩
    rw [names.check arranged state, changedAt, names.place_eq]

/-- Committing changes an allocated slot. -/
theorem commit_eq_ok_iff
    (arranged : Arranged ring)
    {handle : SlotHandle}
    {next : PacketRing} :
    ring.commit handle = .ok next ↔
      ∃ position, ring.Names handle position ∧
        (ring.slotAt position).state = .allocated ∧
        next = ring.changedAt position fun slot =>
          { slot with state := .committed } :=
  transition_eq_ok_iff arranged (by simp)

/-- Releasing changes a delivered slot and reclaims. -/
theorem release_eq_ok_iff
    (arranged : Arranged ring)
    {handle : SlotHandle}
    {next : PacketRing} :
    ring.release handle = .ok next ↔
      ∃ position, ring.Names handle position ∧
        (ring.slotAt position).state = .delivered ∧
        next = (ring.changedAt position fun slot =>
          { slot with state := .free }).reclaim := by
  have moves := fun next =>
    @transition_eq_ok_iff ring arranged handle .delivered .free next (by simp)
  unfold release
  constructor
  · intro released
    cases moved : ring.transition handle .delivered .free with
    | error error => simp [moved, Except.map] at released
    | ok freed =>
        obtain ⟨position, names, state, rfl⟩ := (moves freed).mp moved
        rw [moved] at released
        exact ⟨position, names, state, (Except.ok.inj released).symm⟩
  · rintro ⟨position, names, state, rfl⟩
    rw [(moves _).mpr ⟨position, names, state, rfl⟩]
    rfl

/-- Writing changes the content of an allocated slot. -/
theorem write_eq_ok_iff
    (arranged : Arranged ring)
    {handle : SlotHandle}
    {content : Bytes}
    {next : PacketRing} :
    ring.write handle content = .ok next ↔
      ∃ position, ring.Names handle position ∧
        (ring.slotAt position).state = .allocated ∧
        next = ring.changedAt position fun slot =>
          { slot with buffer := Bytes.overwrite 0 content slot.buffer } := by
  unfold write
  constructor
  · intro written
    cases checked : ring.check handle .allocated with
    | error error => simp [checked] at written
    | ok slot =>
        obtain ⟨position, names, rfl, state⟩ :=
          exists_names_of_check arranged (by simp) checked
        rw [checked] at written
        refine ⟨position, names, state, ?_⟩
        rw [changedAt, names.place_eq]
        exact (Except.ok.inj written).symm
  · rintro ⟨position, names, state, rfl⟩
    rw [names.check arranged state, changedAt, names.place_eq]

/-! ## The layout afterwards -/

namespace Layout

/-- Allocating keeps the layout. -/
theorem grown
    (layout : Layout ring)
    (room : ring.head < ring.tail + ring.capacity)
    (length : Nat) : Layout (ring.grown length) := by
  have tail_le := layout.tail_le_read
  have read_le := layout.read_le_head
  have shows : ∀ position, ring.tail ≤ position →
      position < ring.tail + ring.capacity →
      (ring.grown length).slotAt position =
        if position = ring.head then
          ⟨.allocated, (ring.slotAt ring.head).generation + 1,
            Bytes.zeros length⟩
        else ring.slotAt position :=
    fun _ => slotAt_grown layout.toArranged room length
  constructor
  case oldest =>
    intro beyond
    change ring.tail < ring.read at beyond
    change ((ring.grown length).slotAt ring.tail).state = _
    rw [shows _ (Nat.le_refl _) (by omega), if_neg (by omega)]
    exact layout.oldest beyond
  constructor
  case nonempty => simpa using layout.nonempty
  case addressable => simpa using layout.addressable
  case tail_le_read => exact tail_le
  case read_le_head => exact Nat.le_succ_of_le read_le
  case head_le => rw [capacity_grown]; exact room
  case pending =>
    intro position beyond before
    change ring.read ≤ position at beyond
    change position < ring.head + 1 at before
    rw [shows position (by omega) (by omega)]
    split
    case isTrue => exact .inl rfl
    case isFalse other => exact layout.pending position beyond (by omega)
  case returned =>
    intro position beyond before
    change ring.tail ≤ position at beyond
    change position < ring.read at before
    rw [shows position beyond (by omega), if_neg (by omega)]
    exact layout.returned position beyond before
  case spare =>
    intro position beyond before
    change ring.head + 1 ≤ position at beyond
    rw [capacity_grown] at before
    change position < ring.tail + ring.capacity at before
    rw [shows position (by omega) before, if_neg (by omega)]
    exact layout.spare position (by omega) before

/-- Delivering keeps the layout. -/
theorem delivering
    (layout : Layout ring)
    (waiting : ring.read < ring.head) : Layout ring.delivering := by
  have tail_le := layout.tail_le_read
  have head_le := layout.head_le
  have shows : ∀ position, ring.tail ≤ position →
      position < ring.tail + ring.capacity →
      ring.delivering.slotAt position =
        if position = ring.read then
          { ring.slotAt ring.read with state := .delivered }
        else ring.slotAt position :=
    fun _ => slotAt_delivering layout.toArranged waiting
  constructor
  case oldest =>
    intro _
    change (ring.delivering.slotAt ring.tail).state = _
    rw [shows _ (Nat.le_refl _) (by omega)]
    split
    case isTrue => rfl
    case isFalse other => exact layout.oldest (by omega)
  constructor
  case nonempty => simpa using layout.nonempty
  case addressable => simpa using layout.addressable
  case tail_le_read => exact Nat.le_succ_of_le tail_le
  case read_le_head => exact waiting
  case head_le => rw [capacity_delivering]; exact head_le
  case pending =>
    intro position beyond before
    change ring.read + 1 ≤ position at beyond
    change position < ring.head at before
    rw [shows position (by omega) (by omega), if_neg (by omega)]
    exact layout.pending position (by omega) before
  case returned =>
    intro position beyond before
    change ring.tail ≤ position at beyond
    change position < ring.read + 1 at before
    rw [shows position beyond (by omega)]
    split
    case isTrue => exact .inl rfl
    case isFalse other => exact layout.returned position beyond (by omega)
  case spare =>
    intro position beyond before
    change ring.head ≤ position at beyond
    rw [capacity_delivering] at before
    change position < ring.tail + ring.capacity at before
    rw [shows position (by omega) before, if_neg (by omega)]
    exact layout.spare position beyond before

/-- Changing a slot that was not delivered keeps the layout, if it stays one
that was not. -/
theorem changedAt
    (layout : Layout ring)
    {position : Nat}
    {change : Slot → Slot}
    (read_le : ring.read ≤ position)
    (lt_head : position < ring.head)
    (pending : (change (ring.slotAt position)).state = .allocated ∨
      (change (ring.slotAt position)).state = .committed) :
    Layout (ring.changedAt position change) := by
  have tail_le := layout.tail_le_read
  have head_le := layout.head_le
  refine ⟨layout.toArranged.setSlot (by omega) lt_head (fun _ => pending)
    (fun before => absurd before (by omega)), fun beyond => ?_⟩
  change ring.tail < ring.read at beyond
  change ((ring.changedAt position change).slotAt ring.tail).state = _
  rw [slotAt_changedAt change (by omega) (by omega) (Nat.le_refl _)
    (by omega), if_neg (by omega)]
  exact layout.oldest beyond

/-- Freeing a delivered slot and reclaiming keeps the layout. -/
theorem reclaim_changedAt
    (layout : Layout ring)
    {position : Nat}
    {change : Slot → Slot}
    (tail_le : ring.tail ≤ position)
    (lt_read : position < ring.read)
    (freed : (change (ring.slotAt position)).state = .free) :
    Layout (ring.changedAt position change).reclaim :=
  (layout.toArranged.setSlot tail_le
    (Nat.lt_of_lt_of_le lt_read layout.read_le_head)
    (fun beyond => absurd beyond (by omega))
    (fun _ => .inr freed)).layout_reclaim

end Layout

end PacketRing
end Ring
end VirtualAdapter

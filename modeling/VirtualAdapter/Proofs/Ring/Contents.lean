import Mathlib.Data.List.TakeWhile
import VirtualAdapter.Proofs.Ring.Count
import VirtualAdapter.Proofs.Ring.Effect

/-!
# A ring as a list

Read from the tail to the head, a ring is a list of contents with their
states.  An allocation adds an entry at the end, reclaiming takes some from the
front, every other call changes one entry.
-/

namespace VirtualAdapter

/-- New content of the same length takes the place of the old. -/
theorem Bytes.overwrite_zero
    {new old : Bytes}
    (same : new.length = old.length) : Bytes.overwrite 0 new old = new := by
  simp [Bytes.overwrite, ← same]

/-- New content that fits stands at the start. -/
theorem Bytes.take_overwrite_zero
    {new old : Bytes}
    (fits : new.length ≤ old.length) :
    (Bytes.overwrite 0 new old).take new.length = new := by
  simp [Bytes.overwrite, List.take_of_length_le fits]

namespace Ring

/-- What a slot shows: its content and its state. -/
def Slot.shown (slot : Slot) : Bytes × SlotState := (slot.buffer, slot.state)

namespace PacketRing

/-- The slots in use as they show, oldest first. -/
def contents (ring : PacketRing) : List (Bytes × SlotState) :=
  (ring.between ring.tail ring.head).map Slot.shown

variable {ring : PacketRing}

@[simp]
theorem length_contents : ring.contents.length = ring.head - ring.tail := by
  simp [contents]

/-- The entry of a position in use. -/
theorem getElem?_contents (index : Nat) :
    ring.contents[index]? =
      if ring.tail + index < ring.head then
        some (ring.slotAt (ring.tail + index)).shown
      else none := by
  by_cases inside : ring.tail + index < ring.head
  · have place : index < ring.head - ring.tail := by omega
    simp [contents, between, inside, place]
  · have place : ¬ index < ring.head - ring.tail := by omega
    simp [contents, between, inside, place]

/-- An allocation adds zeros at the end. -/
theorem contents_grown
    (arranged : Arranged ring)
    (room : ring.head < ring.tail + ring.capacity)
    (length : Nat) :
    (ring.grown length).contents =
      ring.contents ++ [(Bytes.zeros length, .allocated)] := by
  have tail_le := arranged.tail_le_read.trans arranged.read_le_head
  refine List.ext_getElem? fun index => ?_
  rw [getElem?_contents, List.getElem?_append, getElem?_contents,
    length_contents]
  change (if ring.tail + index < ring.head + 1 then
    some ((ring.grown length).slotAt (ring.tail + index)).shown else none) = _
  rcases Nat.lt_trichotomy (ring.tail + index) ring.head with
    inside | last | beyond
  · rw [if_pos (by omega), if_pos (by omega), if_pos inside,
      slotAt_grown arranged room length (Nat.le_add_right _ _) (by omega),
      if_neg (by omega)]
  · rw [if_pos (by omega), if_neg (by omega), last,
      slotAt_grown arranged room length tail_le room, if_pos rfl,
      show index - (ring.head - ring.tail) = 0 by omega]
    rfl
  · rw [if_neg (by omega), if_neg (by omega)]
    exact (List.getElem?_eq_none (by simp; omega)).symm

/-- A change of a slot shows at its entry. -/
theorem contents_changedAt
    (change : Slot → Slot)
    {position : Nat}
    (tail_le : ring.tail ≤ position)
    (lt_head : position < ring.head)
    (head_le : ring.head ≤ ring.tail + ring.capacity) :
    (ring.changedAt position change).contents =
      ring.contents.set (position - ring.tail)
        (change (ring.slotAt position)).shown := by
  refine List.ext_getElem? fun index => ?_
  rw [List.getElem?_set, getElem?_contents, getElem?_contents,
    length_contents]
  change (if ring.tail + index < ring.head then
    some ((ring.changedAt position change).slotAt (ring.tail + index)).shown
      else none) = _
  by_cases same : position - ring.tail = index
  · have here : ring.tail + index = position := by omega
    rw [if_pos same, if_pos (by omega), if_pos (by omega), here,
      slotAt_changedAt change tail_le (by omega) tail_le (by omega), if_pos rfl]
  · rw [if_neg same]
    split
    case isTrue inside =>
      rw [slotAt_changedAt change tail_le (by omega) (Nat.le_add_right _ _)
        (by omega), if_neg (by omega)]
    case isFalse => rfl

/-- Reclaiming takes entries from the front. -/
theorem contents_reclaim :
    ring.reclaim.contents =
      ring.contents.drop
        (ring.reclaimable ring.tail (ring.read - ring.tail)) := by
  refine List.ext_getElem? fun index => ?_
  rw [List.getElem?_drop, getElem?_contents, getElem?_contents,
    ← Nat.add_assoc]
  rfl

/-! ## Putting a whole packet in -/

/-- The slot that was just allocated is full of zeros. -/
theorem slotAt_grown_head
    (arranged : Arranged ring)
    (room : ring.head < ring.tail + ring.capacity)
    (length : Nat) :
    (ring.grown length).slotAt ring.head =
      ⟨.allocated, (ring.slotAt ring.head).generation + 1,
        Bytes.zeros length⟩ :=
  (slotAt_grown arranged room length
    (arranged.tail_le_read.trans arranged.read_le_head) room).trans (if_pos rfl)

/-- The ring after an allocation that is filled. -/
def written (ring : PacketRing) (content : Bytes) : PacketRing :=
  (ring.grown content.length).changedAt ring.head fun slot =>
    { slot with buffer := content }

/-- The ring after an allocation that is filled and committed. -/
def filled (ring : PacketRing) (content : Bytes) : PacketRing :=
  (ring.written content).changedAt ring.head fun slot =>
    { slot with state := .committed }

@[simp]
theorem capacity_written (content : Bytes) :
    (ring.written content).capacity = ring.capacity := by
  simp [written]

@[simp]
theorem capacity_filled (content : Bytes) :
    (ring.filled content).capacity = ring.capacity := by
  simp [filled]

section Filled

variable
  (layout : Layout ring)
  (room : ring.head < ring.tail + ring.capacity)
  (content : Bytes)

include layout room

theorem slotAt_written_head :
    (ring.written content).slotAt ring.head =
      ⟨.allocated, (ring.slotAt ring.head).generation + 1, content⟩ := by
  have grown := layout.grown room content.length
  have tail_le := layout.tail_le_read.trans layout.read_le_head
  have lt_end := (Nat.lt_succ_self ring.head).trans_le grown.head_le
  have shown := @slotAt_changedAt (ring.grown content.length)
    (fun slot => { slot with buffer := content }) ring.head ring.head
    tail_le lt_end tail_le lt_end
  rw [if_pos rfl, slotAt_grown_head layout.toArranged room] at shown
  exact shown

theorem slotAt_written_of_lt
    {position : Nat}
    (tail_le : ring.tail ≤ position)
    (lt_head : position < ring.head) :
    (ring.written content).slotAt position = ring.slotAt position := by
  have grown := layout.grown room content.length
  have changed := @slotAt_changedAt (ring.grown content.length)
    (fun slot => { slot with buffer := content }) ring.head position
    (layout.tail_le_read.trans layout.read_le_head)
    ((Nat.lt_succ_self ring.head).trans_le grown.head_le) tail_le
    ((Nat.lt_succ_of_lt lt_head).trans_le grown.head_le)
  rw [if_neg (Nat.ne_of_lt lt_head), slotAt_grown layout.toArranged room _
    tail_le (lt_head.trans room), if_neg (Nat.ne_of_lt lt_head)] at changed
  exact changed

theorem handleAt_written_head :
    (ring.written content).handleAt ring.head =
      (ring.grown content.length).handleAt ring.head := by
  rw [handleAt, handleAt, slotAt_written_head layout room,
    slotAt_grown_head layout.toArranged room, written, place_changedAt]

/-- An allocation that is filled keeps the layout. -/
theorem Layout.written : Layout (ring.written content) :=
  (layout.grown room content.length).changedAt layout.read_le_head
    (Nat.lt_succ_self _)
    (.inl (by rw [slotAt_grown_head layout.toArranged room]))

/-- The slot that was just allocated takes a content of its length. -/
theorem write_grown :
    (ring.grown content.length).write
        ((ring.grown content.length).handleAt ring.head) content =
      .ok (ring.written content) := by
  have grown := (layout.grown room content.length).toArranged
  have tail_le := layout.tail_le_read.trans layout.read_le_head
  have shown := slotAt_grown_head layout.toArranged room content.length
  have replaced : Bytes.overwrite 0 content (Bytes.zeros content.length) =
      content := Bytes.overwrite_zero (by simp [Bytes.zeros])
  refine (write_eq_ok_iff grown).mpr
    ⟨_, names_handleAt grown tail_le (Nat.lt_succ_self _), by rw [shown], ?_⟩
  simp only [PacketRing.written, changedAt, shown, replaced]

/-- The slot that was just filled can be committed. -/
theorem commit_written :
    (ring.written content).commit
        ((ring.grown content.length).handleAt ring.head) =
      .ok (ring.filled content) := by
  have tail_le := layout.tail_le_read.trans layout.read_le_head
  have arranged := (layout.written room content).toArranged
  rw [← handleAt_written_head layout room]
  exact (commit_eq_ok_iff arranged).mpr
    ⟨_, names_handleAt arranged tail_le (Nat.lt_succ_self _),
      by rw [slotAt_written_head layout room], rfl⟩

/-- Putting a packet in keeps the layout. -/
theorem Layout.filled : Layout (ring.filled content) :=
  (layout.written room content).changedAt layout.read_le_head
    (Nat.lt_succ_self _) (.inr rfl)

theorem slotAt_filled_of_lt
    {position : Nat}
    (tail_le : ring.tail ≤ position)
    (lt_head : position < ring.head) :
    (ring.filled content).slotAt position = ring.slotAt position := by
  have written := layout.written room content
  have changed := @slotAt_changedAt (ring.written content)
    (fun slot => { slot with state := .committed }) ring.head position
    (layout.tail_le_read.trans layout.read_le_head)
    ((Nat.lt_succ_self ring.head).trans_le written.head_le) tail_le
    ((Nat.lt_succ_of_lt lt_head).trans_le written.head_le)
  rw [if_neg (Nat.ne_of_lt lt_head),
    slotAt_written_of_lt layout room content tail_le lt_head] at changed
  exact changed

/-- What was put in is the last content. -/
theorem buffer_slotAt_filled_head :
    ((ring.filled content).slotAt ring.head).buffer = content := by
  have written := layout.written room content
  have tail_le := layout.tail_le_read.trans layout.read_le_head
  have lt := (Nat.lt_succ_self ring.head).trans_le written.head_le
  have shown := @slotAt_changedAt (ring.written content)
    (fun slot => { slot with state := .committed }) ring.head ring.head
    tail_le lt tail_le lt
  rw [if_pos rfl, slotAt_written_head layout room] at shown
  exact congrArg Slot.buffer shown

/-- An allocation that is filled adds an entry at the end. -/
theorem contents_written :
    (ring.written content).contents =
      ring.contents ++ [(content, .allocated)] := by
  have changed := @contents_changedAt (ring.grown content.length)
    (fun slot => { slot with buffer := content }) ring.head
    (layout.tail_le_read.trans layout.read_le_head) (Nat.lt_succ_self _)
    (layout.grown room content.length).head_le
  rw [contents_grown layout.toArranged room,
    slotAt_grown_head layout.toArranged room] at changed
  change (ring.written content).contents =
    List.set _ (ring.head - ring.tail) _ at changed
  rw [changed, ← length_contents, List.set_append_right _ _ (Nat.le_refl _),
    Nat.sub_self]
  rfl

/-- Putting a packet in adds it at the end. -/
theorem contents_filled :
    (ring.filled content).contents =
      ring.contents ++ [(content, .committed)] := by
  have changed := @contents_changedAt (ring.written content)
    (fun slot => { slot with state := .committed }) ring.head
    (layout.tail_le_read.trans layout.read_le_head) (Nat.lt_succ_self _)
    (layout.written room content).head_le
  rw [contents_written layout room, slotAt_written_head layout room] at changed
  change (ring.filled content).contents =
    List.set _ (ring.head - ring.tail) _ at changed
  rw [changed, ← length_contents, List.set_append_right _ _ (Nat.le_refl _),
    Nat.sub_self]
  rfl

end Filled

/-! ## Taking everything out -/

/-- The ring after a delivery that is given back at once. -/
def passed (ring : PacketRing) : PacketRing :=
  (ring.delivering.changedAt ring.read fun slot =>
    { slot with state := .free }).reclaim

/-- One ring has come from another by slots that were taken out at the
tail. -/
structure Drained
    (ring : PacketRing)
    (count : Nat)
    (next : PacketRing) : Prop where
  /-- The layout is kept. -/
  layout : Layout next
  /-- The slots are as many. -/
  capacity_eq : next.capacity = ring.capacity
  /-- The tail has passed the slots. -/
  tail_eq : next.tail = ring.tail + count
  /-- Every delivered slot was given back. -/
  read_eq : next.read = next.tail
  /-- Nothing was allocated. -/
  head_eq : next.head = ring.head
  /-- The slots in use are as they were. -/
  slotAt_eq : ∀ position, next.tail ≤ position → position < next.head →
    next.slotAt position = ring.slotAt position

/-- When nothing was delivered yet, one slot is taken out. -/
theorem drained_passed
    (layout : Layout ring)
    (nothing : ring.read = ring.tail)
    (waiting : ring.read < ring.head) : Drained ring 1 ring.passed := by
  have head_le := layout.head_le
  have delivered := layout.delivering waiting
  have shows : ∀ position, ring.tail ≤ position →
      position < ring.tail + ring.capacity →
      ring.passed.slotAt position =
        if position = ring.read then
          { ring.slotAt ring.read with state := .free }
        else ring.slotAt position := by
    intro position tail_le lt
    have changed := @slotAt_changedAt ring.delivering
      (fun slot => { slot with state := .free }) ring.read position
      layout.tail_le_read
      (by rw [capacity_delivering]; exact waiting.trans_le head_le) tail_le
      (by rw [capacity_delivering]; exact lt)
    rw [slotAt_delivering layout.toArranged waiting tail_le lt,
      slotAt_delivering layout.toArranged waiting layout.tail_le_read
        (by omega), if_pos rfl] at changed
    rw [passed, slotAt_reclaim, changed]
    split <;> rfl
  have tail_eq : ring.passed.tail = ring.tail + 1 := by
    have freed : ((ring.delivering.changedAt ring.read fun slot =>
        { slot with state := .free }).slotAt ring.tail).state = .free := by
      have := shows ring.tail (Nat.le_refl _) (by omega)
      rw [passed, slotAt_reclaim, if_pos nothing.symm] at this
      rw [this]
    change ring.tail + PacketRing.reclaimable _ ring.tail
      (ring.read + 1 - ring.tail) = _
    rw [show ring.read + 1 - ring.tail = 1 by omega, PacketRing.reclaimable,
      if_pos freed, PacketRing.reclaimable]
  constructor
  case layout =>
    exact delivered.reclaim_changedAt layout.tail_le_read
      (Nat.lt_succ_self _) rfl
  case capacity_eq => simp [passed]
  case tail_eq => exact tail_eq
  case read_eq => rw [tail_eq, ← nothing]; rfl
  case head_eq => rfl
  case slotAt_eq =>
    intro position tail_le lt_head
    rw [tail_eq] at tail_le
    change position < ring.head at lt_head
    rw [shows position (by omega) (by omega), if_neg (by omega)]

namespace Drained

variable {count more : Nat} {next last : PacketRing}

/-- Nothing was taken out. -/
theorem refl
    (layout : Layout ring)
    (nothing : ring.read = ring.tail) : Drained ring 0 ring where
  layout := layout
  capacity_eq := rfl
  tail_eq := rfl
  read_eq := nothing
  head_eq := rfl
  slotAt_eq := fun _ _ _ => rfl

/-- Slots are taken out one after the other. -/
theorem trans
    (first : Drained ring count next)
    (second : Drained next more last) : Drained ring (count + more) last where
  layout := second.layout
  capacity_eq := second.capacity_eq.trans first.capacity_eq
  tail_eq := by rw [second.tail_eq, first.tail_eq, Nat.add_assoc]
  read_eq := second.read_eq
  head_eq := second.head_eq.trans first.head_eq
  slotAt_eq := fun position tail_le lt_head =>
    (second.slotAt_eq position tail_le lt_head).trans
      (first.slotAt_eq position
        (by rw [second.tail_eq] at tail_le; omega)
        (second.head_eq ▸ lt_head))

/-- The entries that were taken out are gone. -/
theorem contents_eq (drained : Drained ring count next) :
    next.contents = ring.contents.drop count := by
  refine List.ext_getElem? fun index => ?_
  rw [List.getElem?_drop, getElem?_contents, getElem?_contents,
    ← Nat.add_assoc, ← drained.tail_eq, drained.head_eq]
  split
  case isTrue inside =>
    rw [drained.slotAt_eq _ (Nat.le_add_right _ _)
      (drained.head_eq.symm ▸ inside)]
  case isFalse => rfl

end Drained

/-- What was just delivered shows its content. -/
theorem bytes_delivering
    (layout : Layout ring)
    (waiting : ring.read < ring.head) :
    ring.delivering.bytes (ring.handleAt ring.read) =
      .ok (ring.slotAt ring.read).buffer := by
  have delivered := (layout.delivering waiting).toArranged
  have lt_end := waiting.trans_le layout.head_le
  have names := names_handleAt delivered layout.tail_le_read waiting
  rw [← handleAt_delivering layout.toArranged waiting layout.tail_le_read lt_end,
    PacketRing.bytes, names.validate delivered,
    slotAt_delivering layout.toArranged waiting layout.tail_le_read lt_end,
    if_pos rfl]
  rfl

/-- A slot that can be delivered is taken out first. -/
theorem drain_succ
    (layout : Layout ring)
    (limit : Nat)
    (ready : ring.isDrained = false) :
    ring.drain (limit + 1) =
      ((ring.slotAt ring.read).buffer :: (ring.passed.drain limit).1,
        (ring.passed.drain limit).2) := by
  obtain ⟨waiting, _⟩ := (isDrained_eq_false_iff layout.toArranged).mp ready
  have delivered := layout.delivering waiting
  have names := names_handleAt delivered.toArranged layout.tail_le_read waiting
  have shown : ring.delivering.slotAt ring.read =
      { ring.slotAt ring.read with state := .delivered } := by
    rw [slotAt_delivering layout.toArranged waiting layout.tail_le_read
      (waiting.trans_le layout.head_le), if_pos rfl]
  have handle := handleAt_delivering layout.toArranged waiting
    layout.tail_le_read (waiting.trans_le layout.head_le)
  have bytes := bytes_delivering layout waiting
  have released : ring.delivering.release (ring.handleAt ring.read) =
      .ok ring.passed := by
    rw [← handle]
    exact (release_eq_ok_iff delivered.toArranged).mpr
      ⟨ring.read, names, by rw [shown], rfl⟩
  rw [drain, pop_eq, if_neg (by simp [ready])]
  simp only [bytes, released]
  rfl

/-- The entries up to the first one that is still being written. -/
def drainable (ring : PacketRing) : List (Bytes × SlotState) :=
  ring.contents.takeWhile fun entry => entry.2 = .committed

/-- An entry that can be taken out is that of a committed slot. -/
theorem getElem?_drainable
    {index : Nat}
    (inside : index < ring.drainable.length) :
    ring.drainable[index]? = some (ring.slotAt (ring.tail + index)).shown ∧
      (ring.slotAt (ring.tail + index)).state = .committed := by
  have known : ring.drainable <+: ring.contents := List.takeWhile_prefix _
  have entry := List.prefix_iff_getElem?.mp known index inside
  have committed := List.mem_takeWhile_imp (List.getElem_mem inside)
  rw [decide_eq_true_eq] at committed
  rw [getElem?_contents] at entry
  split at entry
  case isTrue =>
    have shown := Option.some.inj entry
    rw [List.getElem?_eq_getElem inside, ← shown]
    exact ⟨rfl, (congrArg Prod.snd shown).trans committed⟩
  case isFalse => cases entry

/-- Behind these entries comes a slot that is still being written, or none. -/
theorem state_ne_of_drainable
    (inside : ring.tail + ring.drainable.length < ring.head) :
    (ring.slotAt (ring.tail + ring.drainable.length)).state ≠ .committed := by
  have split := List.takeWhile_append_dropWhile (l := ring.contents)
    (p := fun entry => entry.2 = .committed)
  have stopped := List.head?_dropWhile_not
    (fun entry : Bytes × SlotState => decide (entry.2 = .committed)) ring.contents
  have entry := @getElem?_contents ring ring.drainable.length
  rw [if_pos inside, ← split, drainable, List.getElem?_append_right
    (Nat.le_refl _), Nat.sub_self, ← List.head?_eq_getElem?] at entry
  rw [entry] at stopped
  exact of_decide_eq_false stopped

/-- Draining a ring in which nothing was delivered takes out everything up to
the first slot that is still being written. -/
theorem drain_eq
    (layout : Layout ring)
    (nothing : ring.read = ring.tail)
    {limit : Nat}
    (whole : ring.head - ring.read = limit) :
    (ring.drain limit).1 = ring.drainable.map (·.1) ∧
      Drained ring ring.drainable.length (ring.drain limit).2 := by
  -- What is left after one slot is again a ring in which nothing was delivered.
  induction limit generalizing ring with
  | zero =>
      have none : ring.contents = [] :=
        List.eq_nil_of_length_eq_zero (by rw [length_contents]; omega)
      rw [drainable, none]
      exact ⟨rfl, .refl layout nothing⟩
  | succ limit hypothesis =>
      have waiting : ring.read < ring.head := by omega
      have first := drained_passed layout nothing waiting
      have split : ring.contents =
          (ring.slotAt ring.read).shown :: ring.passed.contents := by
        have inside : 0 < ring.contents.length := by
          rw [length_contents]
          omega
        have entry := @getElem?_contents ring 0
        rw [Nat.add_zero, if_pos (by omega), List.getElem?_eq_getElem inside,
          ← nothing] at entry
        rw [first.contents_eq, ← Option.some.inj entry,
          ← List.drop_eq_getElem_cons inside, List.drop_zero]
      cases ready : ring.isDrained with
      | true =>
          have writing :
              (ring.slotAt ring.read).shown.2 ≠ .committed := by
            intro committed
            have := (isDrained_eq_false_iff layout.toArranged).mpr
              ⟨waiting, committed⟩
            rw [ready] at this
            exact Bool.noConfusion this
          have empty : ring.drainable = [] := by
            rw [drainable, split, List.takeWhile_cons,
              decide_eq_false writing]
            rfl
          rw [empty, drain, pop_eq, if_pos ready]
          exact ⟨rfl, .refl layout nothing⟩
      | false =>
          have committed : (ring.slotAt ring.read).shown.2 = .committed :=
            ((isDrained_eq_false_iff layout.toArranged).mp ready).2
          have entries : ring.drainable =
              (ring.slotAt ring.read).shown :: ring.passed.drainable := by
            rw [drainable, split, List.takeWhile_cons,
              decide_eq_true committed]
            rfl
          obtain ⟨values, rest⟩ := hypothesis first.layout first.read_eq
            (by rw [first.read_eq, first.head_eq, first.tail_eq]; omega)
          rw [entries, drain_succ layout limit ready, List.length_cons,
            Nat.add_comm]
          exact ⟨by rw [List.map_cons, values]; rfl, first.trans rest⟩

end PacketRing
end Ring
end VirtualAdapter

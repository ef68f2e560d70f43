import VirtualAdapter.Proofs.Ring.Run

/-!
# The history of a ring

The calls of a run and their answers tell which allocations were made, what was
written to each of them before it was committed, and which were delivered and
freed.  The ring delivers the allocations in order, each one when it is
committed, and keeps its content until it is freed.
-/

namespace VirtualAdapter
namespace Ring

/-- What calls and answers tell of one allocation. -/
structure Allocation where
  /-- The handle that was given out. -/
  handle : SlotHandle
  /-- The length that was asked for. -/
  length : Nat
  /-- What was written before the commit, first writes first. -/
  writes : List Bytes := []
  /-- It was committed. -/
  committed : Bool := false
  /-- It was given back. -/
  freed : Bool := false

namespace Allocation

/-- Zeros of the length asked for, overwritten by every write from the start. -/
def content (allocation : Allocation) : Bytes :=
  allocation.writes.foldl
    (fun written new => Bytes.overwrite 0 new written)
    (Bytes.zeros allocation.length)

/-- Note a write, unless the allocation was committed before. -/
def write (new : Bytes) (allocation : Allocation) : Allocation :=
  if allocation.committed then allocation
  else { allocation with writes := allocation.writes ++ [new] }

/-- Note a commit. -/
def commit (allocation : Allocation) : Allocation :=
  { allocation with committed := true }

/-- Note that the allocation was given back. -/
def free (allocation : Allocation) : Allocation :=
  { allocation with freed := true }

end Allocation

/-- What calls and answers tell of a ring. -/
structure History where
  /-- Every allocation, first ones first. -/
  allocations : List Allocation := []
  /-- Every handle that was delivered, first ones first. -/
  delivered : List SlotHandle := []

namespace History

/-- Change what is known of the allocations of a slot. -/
def onSlot
    (history : History)
    (index : UInt32)
    (change : Allocation → Allocation) : History :=
  { history with
    allocations := history.allocations.map fun allocation =>
      if allocation.handle.index = index then change allocation
      else allocation }

/-- What is known of an allocation after a change was known before but for the
change. -/
theorem exists_of_onSlot
    {history : History}
    {index : UInt32}
    {change : Allocation → Allocation}
    {position : Nat}
    {allocation : Allocation}
    (found : (history.onSlot index change).allocations[position]? =
      some allocation) :
    ∃ earlier, history.allocations[position]? = some earlier ∧
      allocation = if earlier.handle.index = index then change earlier
        else earlier := by
  rw [onSlot, List.getElem?_map] at found
  obtain ⟨earlier, present, same⟩ := Option.map_eq_some_iff.mp found
  exact ⟨earlier, present, same.symm⟩

/-- Note a call with its answer. -/
def note (history : History) : Call × Answer → History
  | (.alloc length, .handle handle) =>
      { history with
        allocations := history.allocations ++ [{ handle, length }] }
  | (.write handle content, .done) =>
      history.onSlot handle.index (·.write content)
  | (.commit handle, .done) => history.onSlot handle.index (·.commit)
  | (.pop, .handle handle) =>
      { history with delivered := history.delivered ++ [handle] }
  | (.release handle, .done) => history.onSlot handle.index (·.free)
  | _ => history

/-- The history that calls and answers tell. -/
def ofLog (log : List (Call × Answer)) : History := log.foldl note {}

/-- The allocation that is to be delivered next. -/
def next? (history : History) : Option Allocation :=
  history.allocations[history.delivered.length]?

end History

namespace PacketRing

/-- An allocation is the present one of a slot. -/
structure Describes (allocation : Allocation) (slot : Slot) : Prop where
  /-- The slot was not allocated since. -/
  generation_eq : allocation.handle.generation = slot.generation
  /-- The slot holds what was written. -/
  content_eq : allocation.content = slot.buffer
  /-- Only an allocated slot was not committed. -/
  committed_iff : allocation.committed = true ↔ slot.state ≠ .allocated
  /-- Only a free slot was given back. -/
  freed_iff : allocation.freed = true ↔ slot.state = .free

/-- A history fits a ring: positions number its allocations. -/
structure Records (ring : PacketRing) (history : History) : Prop where
  /-- The head counts the allocations. -/
  length_eq : history.allocations.length = ring.head
  /-- The allocations before the read position were delivered. -/
  delivered_eq : history.delivered =
    (history.allocations.take ring.read).map (·.handle)
  /-- Allocations take the slots in turn. -/
  place_eq : ∀ position allocation,
    history.allocations[position]? = some allocation →
      ring.place position = allocation.handle.index.toNat
  /-- What the tail has passed was committed and given back. -/
  past : ∀ position allocation, position < ring.tail →
    history.allocations[position]? = some allocation →
      allocation.committed = true ∧ allocation.freed = true
  /-- The other allocations are the present ones of their slots. -/
  present : ∀ position allocation, ring.tail ≤ position →
    history.allocations[position]? = some allocation →
      Describes allocation (ring.slotAt position)

variable {ring : PacketRing} {history : History}

/-- A new ring has an empty history. -/
theorem records_ofCapacity (capacity : UInt32) :
    Records (ofCapacity capacity) {} where
  length_eq := rfl
  delivered_eq := rfl
  place_eq := fun _ _ present => by simp at present
  past := fun _ _ _ present => by simp at present
  present := fun _ _ _ present => by simp at present

namespace Records

/-- Allocations are numbered by the positions before the head. -/
theorem lt_head
    (records : Records ring history)
    {position : Nat}
    {allocation : Allocation}
    (found : history.allocations[position]? = some allocation) :
    position < ring.head := by
  rw [← records.length_eq]
  exact (List.getElem?_eq_some_iff.mp found).1

/-- Only the allocation that a handle names has its slot at present. -/
theorem index_eq_iff
    (records : Records ring history)
    (arranged : Arranged ring)
    {handle : SlotHandle}
    {position other : Nat}
    (names : ring.Names handle position)
    (tail_le : ring.tail ≤ other)
    {allocation : Allocation}
    (found : history.allocations[other]? = some allocation) :
    allocation.handle.index = handle.index ↔ other = position := by
  have head_le := arranged.head_le
  rw [← UInt32.toNat_inj, ← records.place_eq other allocation found,
    ← names.place_eq]
  exact place_inj tail_le (Nat.lt_of_lt_of_le (records.lt_head found) head_le)
    names.tail_le (Nat.lt_of_lt_of_le names.lt_head head_le)

/-- Changing the slot that a handle names goes with changing what is known of
the allocations of that slot. -/
theorem onSlot
    (records : Records ring history)
    (arranged : Arranged ring)
    {handle : SlotHandle}
    {position : Nat}
    (names : ring.Names handle position)
    {change : Allocation → Allocation}
    {alter : Slot → Slot}
    (keeps : ∀ allocation, (change allocation).handle = allocation.handle)
    (settled : ∀ allocation,
      allocation.committed = true → allocation.freed = true →
        (change allocation).committed = true ∧
          (change allocation).freed = true)
    (describes : ∀ allocation,
      Describes allocation (ring.slotAt position) →
        Describes (change allocation) (alter (ring.slotAt position))) :
    Records (ring.changedAt position alter)
      (history.onSlot handle.index change) := by
  have head_le := arranged.head_le
  have keeps_if : ∀ allocation : Allocation,
      (if allocation.handle.index = handle.index then change allocation
        else allocation).handle = allocation.handle := by
    intro allocation
    split <;> simp [keeps]
  constructor
  case length_eq =>
    rw [History.onSlot, List.length_map]
    exact records.length_eq
  case delivered_eq =>
    change history.delivered = _
    rw [records.delivered_eq, History.onSlot, List.map_take, List.map_take,
      List.map_map]
    congr 1
    exact List.map_congr_left fun allocation _ => (keeps_if allocation).symm
  case place_eq =>
    intro other allocation found
    obtain ⟨earlier, present, rfl⟩ := History.exists_of_onSlot found
    rw [place_changedAt, keeps_if]
    exact records.place_eq other earlier present
  case past =>
    intro other allocation before found
    obtain ⟨earlier, present, rfl⟩ := History.exists_of_onSlot found
    obtain ⟨committed, freed⟩ := records.past other earlier before present
    split
    · exact settled earlier committed freed
    · exact ⟨committed, freed⟩
  case present =>
    intro other allocation tail_le found
    change ring.tail ≤ other at tail_le
    obtain ⟨earlier, present, rfl⟩ := History.exists_of_onSlot found
    have lt_head := records.lt_head present
    have same := records.index_eq_iff arranged names tail_le present
    have described := records.present other earlier tail_le present
    rw [slotAt_changedAt alter names.tail_le
      (Nat.lt_of_lt_of_le names.lt_head head_le) tail_le
      (Nat.lt_of_lt_of_le lt_head head_le)]
    by_cases equal : other = position
    · rw [if_pos equal, if_pos (same.mpr equal)]
      exact describes earlier (equal ▸ described)
    · rw [if_neg equal, if_neg (fun index => equal (same.mp index))]
      exact described

/-- What the tail passes over was committed and given back. -/
theorem reclaim (records : Records ring history) :
    Records ring.reclaim history where
  length_eq := records.length_eq
  delivered_eq := records.delivered_eq
  place_eq := records.place_eq
  past := fun position allocation before found => by
    rcases Nat.lt_or_ge position ring.tail with already | tail_le
    · exact records.past position allocation already found
    · change position < ring.tail +
        ring.reclaimable ring.tail (ring.read - ring.tail) at before
      have freed := @state_of_lt_reclaimable ring ring.tail
        (ring.read - ring.tail) (position - ring.tail) (by omega)
      rw [Nat.add_sub_cancel' tail_le] at freed
      have described := records.present position allocation tail_le found
      exact ⟨described.committed_iff.mpr (by simp [freed]),
        described.freed_iff.mpr freed⟩
  present := fun position allocation tail_le found =>
    records.present position allocation
      (Nat.le_trans (Nat.le_add_right _ _) tail_le) found

/-- An allocation that is noted behind all others is at the head. -/
theorem next_cases
    (records : Records ring history)
    {next : Allocation}
    {position : Nat}
    {allocation : Allocation}
    (found : (history.allocations ++ [next])[position]? = some allocation) :
    (history.allocations[position]? = some allocation ∧ position < ring.head) ∨
      (position = ring.head ∧ allocation = next) := by
  rw [List.getElem?_append] at found
  split at found
  case isTrue before =>
    exact .inl ⟨found, records.length_eq ▸ before⟩
  case isFalse beyond =>
    rw [List.getElem?_singleton] at found
    split at found
    case isTrue last =>
      rw [records.length_eq] at beyond last
      exact .inr ⟨by omega, (Option.some.inj found).symm⟩
    case isFalse => simp at found

/-- An allocation is noted behind all others. -/
theorem grown
    (records : Records ring history)
    (arranged : Arranged ring)
    (room : ring.head < ring.tail + ring.capacity)
    (length : Nat) :
    Records (ring.grown length)
      { history with
        allocations := history.allocations ++
          [{ handle := (ring.grown length).handleAt ring.head, length }] } := by
  have tail_le := arranged.tail_le_read
  have read_le := arranged.read_le_head
  constructor
  case length_eq =>
    simp only [List.length_append, List.length_singleton, records.length_eq]
    rfl
  case delivered_eq =>
    change history.delivered =
      ((history.allocations ++ _).take ring.read).map _
    rw [List.take_append_of_le_length (by rw [records.length_eq]; exact read_le)]
    exact records.delivered_eq
  case place_eq =>
    intro position allocation found
    rw [place_grown]
    rcases records.next_cases found with ⟨earlier, _⟩ | ⟨rfl, rfl⟩
    · exact records.place_eq position allocation earlier
    · rw [handleAt, place_grown]
      exact (toNat_ofNat_place arranged.nonempty arranged.addressable
        ring.head).symm
  case past =>
    intro position allocation before found
    change position < ring.tail at before
    rcases records.next_cases found with ⟨earlier, _⟩ | ⟨rfl, rfl⟩
    · exact records.past position allocation before earlier
    · omega
  case present =>
    intro position allocation beyond found
    change ring.tail ≤ position at beyond
    rcases records.next_cases found with ⟨earlier, lt_head⟩ | ⟨rfl, rfl⟩
    · rw [slotAt_grown arranged room length beyond (by omega),
        if_neg (by omega)]
      exact records.present position allocation beyond earlier
    · have shown := slotAt_grown arranged room length beyond room
      rw [if_pos rfl] at shown
      constructor
      case generation_eq => rfl
      case content_eq => rw [shown]; rfl
      case committed_iff => rw [shown]; simp
      case freed_iff => rw [shown]; simp

/-- The handle of an allocation that the tail has not passed is still that of
its position. -/
theorem names
    (records : Records ring history)
    {position : Nat}
    {allocation : Allocation}
    (tail_le : ring.tail ≤ position)
    (found : history.allocations[position]? = some allocation) :
    ring.Names allocation.handle position :=
  ⟨tail_le, records.lt_head found, records.place_eq position allocation found,
    (records.present position allocation tail_le found).generation_eq.symm⟩

/-- A delivery is noted behind all others. -/
theorem delivering
    (records : Records ring history)
    (arranged : Arranged ring)
    (waiting : ring.read < ring.head)
    (state : (ring.slotAt ring.read).state = .committed) :
    Records ring.delivering
      { history with
        delivered := history.delivered ++ [ring.handleAt ring.read] } := by
  have tail_le := arranged.tail_le_read
  have head_le := arranged.head_le
  constructor
  case length_eq => exact records.length_eq
  case delivered_eq =>
    have inside : ring.read < history.allocations.length :=
      records.length_eq ▸ waiting
    have names := records.names tail_le
      (List.getElem?_eq_getElem inside)
    change history.delivered ++ [ring.handleAt ring.read] =
      (history.allocations.take (ring.read + 1)).map (·.handle)
    rw [List.take_succ_eq_append_getElem inside, List.map_append,
      ← records.delivered_eq, List.map_singleton,
      names.eq_handleAt arranged]
  case place_eq =>
    intro position allocation found
    rw [place_delivering]
    exact records.place_eq position allocation found
  case past => exact records.past
  case present =>
    intro position allocation beyond found
    change ring.tail ≤ position at beyond
    have lt_head := records.lt_head found
    have described := records.present position allocation beyond found
    rw [slotAt_delivering arranged waiting beyond (by omega)]
    split
    case isFalse => exact described
    case isTrue same =>
      subst same
      have := described.committed_iff
      have := described.freed_iff
      exact ⟨described.generation_eq, described.content_eq, by simp_all,
        by simp_all⟩

/-! ## Runs -/

/-- Noting a call with its answer keeps the fit. -/
theorem perform
    (records : Records ring history)
    (arranged : Arranged ring)
    (call : Call) :
    Records (ring.perform call).2
      (history.note (call, (ring.perform call).1)) := by
  have done := performed arranged call
  generalize (ring.perform call).1 = answer at done ⊢
  generalize (ring.perform call).2 = next at done ⊢
  cases done with
  | alloc length room => exact records.grown arranged room length
  | write content names state =>
      refine records.onSlot arranged names (fun allocation => ?_)
        (fun allocation committed freed => ?_) fun allocation described => ?_
      · rw [Allocation.write]
        split <;> rfl
      · rw [Allocation.write, if_pos committed]
        exact ⟨committed, freed⟩
      · have open_ : allocation.committed ≠ true := by
          rw [Ne, described.committed_iff, not_not]
          exact state
        rw [Allocation.write, if_neg open_]
        refine ⟨described.generation_eq, ?_, described.committed_iff,
          described.freed_iff⟩
        rw [← described.content_eq, Allocation.content, List.foldl_append]
        rfl
  | commit names state =>
      refine records.onSlot arranged names (fun _ => rfl)
        (fun _ _ freed => ⟨rfl, freed⟩) fun allocation described => ?_
      have kept := described.freed_iff
      exact ⟨described.generation_eq, described.content_eq,
        by simp [Allocation.commit], by simp_all [Allocation.commit]⟩
  | pop waiting state => exact records.delivering arranged waiting state
  | @release handle position names state =>
      have freed : Records
          (ring.changedAt position fun slot => { slot with state := .free })
          (history.onSlot handle.index (·.free)) := by
        refine records.onSlot arranged names (fun _ => rfl)
          (fun _ committed _ => ⟨committed, rfl⟩) fun allocation described => ?_
        have kept := described.committed_iff
        exact ⟨described.generation_eq, described.content_eq,
          by simp_all [Allocation.free], by simp [Allocation.free]⟩
      exact freed.reclaim
  | refused call => cases call <;> exact records
  | nothing | bytes | bufferPointer | resolve => exact records

/-- The history that a whole run tells fits the ring that it leaves. -/
theorem run
    (records : Records ring history)
    (layout : Layout ring)
    (calls : List Call) :
    Records (ring.run calls).2 ((ring.run calls).1.foldl .note history) := by
  induction calls generalizing ring history with
  | nil => exact records
  | cons call rest hypothesis =>
      exact hypothesis (records.perform layout.toArranged call)
        (layout.perform call)

/-! ## What a fit tells -/

/-- Deliveries come in the order of the allocations, without gaps. -/
theorem delivered_prefix (records : Records ring history) :
    history.delivered <+: history.allocations.map (·.handle) := by
  rw [records.delivered_eq, List.map_take]
  exact List.take_prefix _ _

/-- The read position counts the deliveries. -/
theorem length_delivered
    (records : Records ring history)
    (arranged : Arranged ring) : history.delivered.length = ring.read := by
  rw [records.delivered_eq, List.length_map, List.length_take,
    records.length_eq]
  exact Nat.min_eq_left arranged.read_le_head

/-- There is nothing to deliver until the next allocation is made and
committed. -/
theorem pop_eq_none_iff
    (records : Records ring history)
    (arranged : Arranged ring) :
    ring.pop = none ↔
      ∀ allocation, history.next? = some allocation →
        allocation.committed = false := by
  have drained : ring.pop = none ↔ ring.isDrained ≠ false := by
    rw [pop_eq]
    cases ring.isDrained <;> simp
  rw [drained, Ne, isDrained_eq_false_iff arranged, History.next?,
    records.length_delivered arranged]
  constructor
  · intro idle allocation found
    have waiting := records.lt_head found
    have described :=
      records.present ring.read allocation arranged.tail_le_read found
    rcases arranged.pending ring.read (Nat.le_refl _) waiting with
      state | state
    · have := described.committed_iff
      simp_all
    · exact absurd ⟨waiting, state⟩ idle
  · rintro uncommitted ⟨waiting, state⟩
    have inside : ring.read < history.allocations.length :=
      records.length_eq ▸ waiting
    have found := List.getElem?_eq_getElem inside
    have described := records.present ring.read _ arranged.tail_le_read found
    have := uncommitted _ found
    have := described.committed_iff
    simp_all

/-- A delivered packet can be read until it is freed, and holds what was
written to it. -/
theorem bytes_eq
    (records : Records ring history)
    (arranged : Arranged ring)
    {position : Nat}
    {allocation : Allocation}
    (found : history.allocations[position]? = some allocation)
    (held : allocation.freed = false) :
    ring.bytes allocation.handle = .ok allocation.content := by
  have tail_le : ring.tail ≤ position := by
    refine Nat.le_of_not_lt fun before => ?_
    have := (records.past position allocation before found).2
    simp [held] at this
  have described := records.present position allocation tail_le found
  have names := records.names tail_le found
  have used : (ring.slotAt position).state ≠ .free := by
    rw [Ne, ← described.freed_iff, held]
    simp
  rw [bytes, names.validate arranged]
  simp only [if_neg used, described.content_eq]

end Records

/-- After any calls on a new ring, the handles were delivered in the order of
their allocations, each one when it was committed, and a packet that was
delivered and not freed since has the zeros of its length, overwritten by what
was written to its slot between its allocation and its commit. -/
theorem delivers_in_order
    (capacity : UInt32)
    (power : isPowerOfTwo capacity = true)
    (calls : List Call) :
    let ring := ((ofCapacity capacity).run calls).2
    let history := History.ofLog ((ofCapacity capacity).run calls).1
    history.delivered <+: history.allocations.map (·.handle) ∧
    (ring.pop = none ↔
      ∀ allocation, history.next? = some allocation →
        allocation.committed = false) ∧
    ∀ count allocation, count < history.delivered.length →
      history.allocations[count]? = some allocation →
      allocation.freed = false →
        ring.bytes allocation.handle = .ok allocation.content := by
  intro ring history
  have fresh : Layout (ofCapacity capacity) :=
    layout_ofCapacity (Nat.pos_of_isPowerOfTwo (toNat_isPowerOfTwo power))
  have records : Records ring history :=
    (records_ofCapacity capacity).run fresh calls
  have arranged : Arranged ring := (fresh.run calls).1.toArranged
  exact ⟨records.delivered_prefix, records.pop_eq_none_iff arranged,
    fun _ _ _ found held => records.bytes_eq arranged found held⟩

/-- A ring of two slots: a stale handle and one that was never given out are
refused, a write after the commit is too, and the slot of the first packet is
allocated anew. -/
theorem delivers_in_order_of_two :
    let calls : List Call :=
      [.alloc 3, .write ⟨0, 1⟩ [1, 2], .write ⟨0, 7⟩ [9], .alloc 2,
        .commit ⟨0, 1⟩, .write ⟨0, 1⟩ [8], .pop, .release ⟨0, 1⟩, .alloc 2,
        .write ⟨0, 2⟩ [4, 5, 6], .commit ⟨0, 2⟩, .commit ⟨1, 1⟩, .pop, .pop]
    let ring := ((ofCapacity 2).run calls).2
    let history := History.ofLog ((ofCapacity 2).run calls).1
    isPowerOfTwo 2 = true ∧
    history.delivered = [⟨0, 1⟩, ⟨1, 1⟩, ⟨0, 2⟩] ∧
    history.delivered <+: history.allocations.map (·.handle) ∧
    ring.pop = none ∧
    ring.bytes ⟨0, 2⟩ = .ok [4, 5] := by
  intro calls ring history
  obtain ⟨ordered, idle, kept⟩ := delivers_in_order 2 (by decide) calls
  have exhausted : history.next? = none := rfl
  exact ⟨by decide, rfl, ordered,
    idle.mpr fun _ found => (nomatch exhausted.symm.trans found),
    kept 2 _ (by decide) rfl rfl⟩

end PacketRing
end Ring
end VirtualAdapter

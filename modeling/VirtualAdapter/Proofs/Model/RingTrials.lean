import VirtualAdapter.Model.RingTrial
import VirtualAdapter.Proofs.Model.Passing
import VirtualAdapter.Proofs.Ring.Issued

/-!
# Ring trials pass

The queue of a trial lists the slots in use from the tail to the head, with the
handles that were given out at these positions.  Every operation keeps this, and
while handles do not come round both sides answer alike.
-/

namespace VirtualAdapter
namespace Model

open VirtualAdapter.Ring (PacketRing RingError Slot SlotHandle SlotState)
open VirtualAdapter.Ring.PacketRing (Arranged Counted Layout)

namespace QueueEntry

/-- An entry as its slot shows it. -/
def shown (entry : QueueEntry) : Bytes × SlotState :=
  (entry.content, entry.state)

@[simp]
theorem length_content (entry : QueueEntry) :
    entry.content.length = entry.length :=
  List.length_replicate

end QueueEntry

namespace RingQueue

/-- The queue lists the slots of a ring that are in use, and knows which were
given back. -/
structure Tracks (queue : RingQueue) (ring : PacketRing) : Prop where
  /-- The slots are in order. -/
  layout : Layout ring
  /-- Generations count allocations. -/
  counted : Counted ring
  /-- Both sides have as many slots. -/
  capacity_eq : queue.capacity = ring.capacity
  /-- Both sides have delivered as much. -/
  read_eq : ring.read = ring.tail + queue.read
  /-- The entries are the slots in use. -/
  contents_eq : ring.contents = queue.entries.map QueueEntry.shown
  /-- The handles are those of the positions. -/
  handle_eq : ∀ index entry, queue.entries[index]? = some entry →
    entry.handle = ring.issued (ring.tail + index)
  /-- What was given back is free, or the tail has passed it. -/
  released : ∀ handle ∈ queue.released, ∃ position,
    position < ring.read ∧ handle = ring.issued position ∧
      (ring.tail ≤ position → (ring.slotAt position).state = .free)

namespace Tracks

variable {queue : RingQueue} {ring : PacketRing} {index : Nat}
  {entry : QueueEntry}

/-! ## What both sides show -/

theorem head_eq (tracks : queue.Tracks ring) :
    ring.head = ring.tail + queue.entries.length := by
  have lengths := congrArg List.length tracks.contents_eq
  have tail_le := tracks.layout.tail_le_read.trans tracks.layout.read_le_head
  rw [PacketRing.length_contents, List.length_map] at lengths
  omega

/-- An entry is the slot at its position. -/
theorem slotAt_eq
    (tracks : queue.Tracks ring)
    (found : queue.entries[index]? = some entry) :
    ring.tail + index < ring.head ∧
      (ring.slotAt (ring.tail + index)).buffer = entry.content ∧
      (ring.slotAt (ring.tail + index)).state = entry.state := by
  have shows := @PacketRing.getElem?_contents ring index
  rw [tracks.contents_eq, List.getElem?_map, found] at shows
  split at shows
  case isTrue inside =>
    have same := Option.some.inj shows
    exact ⟨inside, (congrArg (·.1) same).symm, (congrArg (·.2) same).symm⟩
  case isFalse => cases shows

/-- The handle of an entry names its slot. -/
theorem names
    (tracks : queue.Tracks ring)
    (found : queue.entries[index]? = some entry) :
    ring.Names entry.handle (ring.tail + index) := by
  have lt_head := (tracks.slotAt_eq found).1
  have tail_le := Nat.le_add_right ring.tail index
  rw [tracks.handle_eq index entry found, ← tracks.counted.handleAt_eq_issued
    tracks.layout.toArranged tail_le lt_head]
  exact PacketRing.names_handleAt tracks.layout.toArranged tail_le lt_head

theorem inUse_eq (tracks : queue.Tracks ring) :
    ring.inUse = queue.entries.length := by
  rw [PacketRing.inUse, tracks.head_eq, Nat.add_sub_cancel_left]

theorem isFull_eq (tracks : queue.Tracks ring) :
    ring.isFull = queue.isFull := by
  rw [PacketRing.isFull, tracks.inUse_eq, isFull, tracks.capacity_eq]

/-- Slots in a state are as many as entries in it. -/
theorem count_eq
    (tracks : queue.Tracks ring)
    {state : SlotState}
    (used : state ≠ .free) : ring.count state = queue.count state := by
  have shows : (ring.between ring.tail ring.head).countP (·.state = state) =
      ring.contents.countP fun entry => entry.2 = state := by
    rw [PacketRing.contents, List.countP_map]
    rfl
  rw [tracks.layout.count_eq_countP_between used, shows, tracks.contents_eq,
    List.countP_map]
  rfl

/-- The ring has something to deliver just when the queue has. -/
theorem isDrained_eq_false_iff (tracks : queue.Tracks ring) :
    ring.isDrained = false ↔ ∃ entry, queue.next? = some entry := by
  have head_eq := tracks.head_eq
  have read_eq := tracks.read_eq
  rw [PacketRing.isDrained_eq_false_iff tracks.layout.toArranged]
  unfold next?
  simp only [Option.filter_eq_some_iff, decide_eq_true_eq]
  constructor
  · rintro ⟨waiting, committed⟩
    have found := List.getElem?_eq_getElem
      (show queue.read < queue.entries.length by omega)
    refine ⟨_, found, ?_⟩
    rw [← (tracks.slotAt_eq found).2.2, ← read_eq, committed]
  · rintro ⟨entry, found, committed⟩
    obtain ⟨waiting, _, state⟩ := tracks.slotAt_eq found
    rw [← read_eq] at waiting state
    exact ⟨waiting, state.trans committed⟩

/-- The ring delivers what is next in the queue. -/
theorem pop_eq (tracks : queue.Tracks ring) :
    ring.pop = queue.next?.map fun entry => (entry.handle, ring.delivering) := by
  rw [PacketRing.pop_eq]
  cases next : queue.next? with
  | none =>
      have drained : ring.isDrained = true := by
        rw [← Bool.not_eq_false, tracks.isDrained_eq_false_iff, next]
        simp
      rw [if_pos drained]
      rfl
  | some entry =>
      have ready := tracks.isDrained_eq_false_iff.mpr ⟨entry, next⟩
      obtain ⟨found, _⟩ := Option.filter_eq_some_iff.mp next
      have names := (tracks.names found).eq_handleAt tracks.layout.toArranged
      rw [← tracks.read_eq] at names
      rw [ready, if_neg Bool.false_ne_true, Option.map_some, names]

/-- What is delivered has the content of the queue's entry. -/
theorem bytes_eq
    (tracks : queue.Tracks ring)
    (next : queue.next? = some entry) :
    ring.delivering.bytes entry.handle = .ok entry.content := by
  obtain ⟨found, _⟩ := Option.filter_eq_some_iff.mp next
  obtain ⟨waiting, buffer, _⟩ := tracks.slotAt_eq found
  have names := (tracks.names found).eq_handleAt tracks.layout.toArranged
  rw [← tracks.read_eq] at names waiting buffer
  rw [names, PacketRing.bytes_delivering tracks.layout waiting, buffer]

/-- What was given back once is refused. -/
theorem release_released
    (tracks : queue.Tracks ring)
    (young : ring.head < 2 ^ 32)
    {handle : SlotHandle}
    (member : handle ∈ queue.released) :
    ring.release handle = .error .staleGeneration ∨
      ∃ found, ring.release handle = .error (.invalidState .delivered found) := by
  obtain ⟨position, lt_read, rfl, freed⟩ := tracks.released handle member
  exact tracks.counted.release_issued tracks.layout.toArranged young
    (lt_read.trans_le tracks.layout.read_le_head) freed

/-! ## A slot that changes -/

/-- An entry that changes its state keeps its handle, and so do the others. -/
theorem handle_setState
    (tracks : queue.Tracks ring)
    {state : SlotState}
    {place : Nat}
    (found : (queue.setState index state).entries[place]? = some entry) :
    entry.handle = ring.issued (ring.tail + place) := by
  rw [setState, List.getElem?_modify] at found
  obtain ⟨before, known, rfl⟩ := Option.map_eq_some_iff.mp found
  have same := tracks.handle_eq place before known
  split <;> exact same

section Changed

variable
  (tracks : queue.Tracks ring)
  (found : queue.entries[index]? = some entry)
  (change : Slot → Slot)

include tracks found

/-- A slot and its entry change together. -/
theorem contents_changedAt
    {state : SlotState}
    (shows : (change (ring.slotAt (ring.tail + index))).shown =
      (entry.content, state)) :
    (ring.changedAt (ring.tail + index) change).contents =
      (queue.setState index state).entries.map QueueEntry.shown := by
  have lt_head := (tracks.slotAt_eq found).1
  rw [PacketRing.contents_changedAt change (Nat.le_add_right _ _) lt_head
    tracks.layout.head_le, shows, Nat.add_sub_cancel_left, tracks.contents_eq,
    setState, modify_eq_set found, List.map_set]
  rfl

/-- A slot that is in use, or is given back, leaves free what was given back
before. -/
theorem released_changedAt
    (stays : entry.state = .free →
      (change (ring.slotAt (ring.tail + index))).state = .free) :
    ∀ handle ∈ queue.released, ∃ position,
      position < ring.read ∧ handle = ring.issued position ∧
      (ring.tail ≤ position →
        ((ring.changedAt (ring.tail + index) change).slotAt position).state =
          .free) := by
  intro handle member
  obtain ⟨lt_head, _, state⟩ := tracks.slotAt_eq found
  have head_le := tracks.layout.head_le
  have read_le := tracks.layout.read_le_head
  obtain ⟨position, lt_read, same, freed⟩ := tracks.released handle member
  refine ⟨position, lt_read, same, fun tail_le => ?_⟩
  rw [PacketRing.slotAt_changedAt change (Nat.le_add_right _ _) (by omega)
    tail_le (by omega)]
  split
  case isTrue here =>
    subst here
    exact stays (state.symm.trans (freed tail_le))
  case isFalse => exact freed tail_le

end Changed

/-! ## Every operation -/

/-- A slot is allocated and filled at the head. -/
theorem allocated
    (tracks : queue.Tracks ring)
    (room : ring.head < ring.tail + ring.capacity)
    (length : Nat)
    (fill : UInt8) :
    let content := List.replicate length fill
    let handle := (ring.grown length).handleAt ring.head
    Tracks { queue with entries := queue.entries ++
      [{ handle, length, fill, state := .allocated }] }
        (ring.written content) := by
  intro content handle
  have layout := tracks.layout
  have tail_le := layout.tail_le_read.trans layout.read_le_head
  have same : content.length = length := List.length_replicate
  have written := layout.written room content
  have counted : Counted (ring.written content) :=
    (tracks.counted.grown content.length).of_coeval (.changedAt rfl)
  have capacity := @PacketRing.capacity_written ring content
  constructor
  case layout => exact written
  case counted => exact counted
  case capacity_eq => exact tracks.capacity_eq.trans capacity.symm
  case read_eq => exact tracks.read_eq
  case contents_eq =>
    rw [PacketRing.contents_written layout room, tracks.contents_eq,
      List.map_append]
    rfl
  case handle_eq =>
    intro index entry found
    rw [PacketRing.issued_eq_of_capacity_eq capacity]
    change entry.handle = ring.issued (ring.tail + index)
    rw [List.getElem?_append] at found
    split at found
    case isTrue => exact tracks.handle_eq index entry found
    case isFalse beyond =>
      obtain ⟨last, rfl⟩ := List.getElem?_eq_some_iff.mp found
      rw [List.length_singleton] at last
      have here : ring.tail + index = ring.head := by
        rw [tracks.head_eq]
        omega
      rw [here, ← PacketRing.issued_eq_of_capacity_eq capacity,
        ← counted.handleAt_eq_issued written.toArranged tail_le
          (Nat.lt_succ_self _),
        PacketRing.handleAt_written_head layout room, same]
      simp only [List.getElem_singleton]
      rfl
  case released =>
    intro known member
    obtain ⟨position, lt_read, rfl, freed⟩ := tracks.released known member
    refine ⟨position, lt_read,
      (PacketRing.issued_eq_of_capacity_eq capacity position).symm,
      fun beyond => ?_⟩
    rw [PacketRing.slotAt_written_of_lt layout room content beyond
      (lt_read.trans_le layout.read_le_head)]
    exact freed beyond

/-- An allocated slot is committed. -/
theorem committed
    (tracks : queue.Tracks ring)
    (found : queue.entries[index]? = some entry)
    (writing : entry.state = .allocated) :
    (queue.setState index .committed).Tracks
      (ring.changedAt (ring.tail + index) fun slot =>
        { slot with state := .committed }) := by
  obtain ⟨lt_head, buffer, state⟩ := tracks.slotAt_eq found
  have capacity := @PacketRing.capacity_changedAt ring (ring.tail + index)
    fun slot => { slot with state := .committed }
  have read_le := tracks.layout.read_le_of_pending (Nat.le_add_right _ _)
    (.inl (state.trans writing))
  constructor
  case layout => exact tracks.layout.changedAt read_le lt_head (.inr rfl)
  case counted => exact tracks.counted.of_coeval (.changedAt rfl)
  case capacity_eq => exact tracks.capacity_eq.trans capacity.symm
  case read_eq => exact tracks.read_eq
  case contents_eq =>
    exact tracks.contents_changedAt found _ (Prod.ext buffer rfl)
  case handle_eq =>
    intro place other foundThere
    rw [PacketRing.issued_eq_of_capacity_eq capacity]
    exact tracks.handle_setState foundThere
  case released =>
    intro handle member
    obtain ⟨position, lt_read, rfl, freed⟩ :=
      tracks.released_changedAt found
        (fun slot => { slot with state := .committed })
        (fun free => by rw [writing] at free; cases free) handle member
    exact ⟨position, lt_read,
      (PacketRing.issued_eq_of_capacity_eq capacity position).symm, freed⟩

/-- The next slot is delivered. -/
theorem delivered
    (tracks : queue.Tracks ring)
    (next : queue.next? = some entry) :
    Tracks { queue.setState queue.read .delivered with
      read := queue.read + 1 } ring.delivering := by
  obtain ⟨found, waits⟩ := Option.filter_eq_some_iff.mp next
  have committed : entry.state = .committed := of_decide_eq_true waits
  obtain ⟨waiting, buffer, _⟩ := tracks.slotAt_eq found
  have read_eq := tracks.read_eq
  have capacity := @PacketRing.capacity_delivering ring
  have contents := tracks.contents_changedAt found
    (fun slot => { slot with state := .delivered }) (Prod.ext buffer rfl)
  have released := tracks.released_changedAt found
    (fun slot => { slot with state := .delivered })
    (fun free => by rw [committed] at free; cases free)
  rw [← read_eq] at waiting contents released
  constructor
  case layout => exact tracks.layout.delivering waiting
  case counted => exact tracks.counted.of_coeval (.delivering ring)
  case capacity_eq => exact tracks.capacity_eq.trans capacity.symm
  case read_eq => exact congrArg (· + 1) read_eq
  case contents_eq => exact contents
  case handle_eq =>
    intro place other foundThere
    rw [PacketRing.issued_eq_of_capacity_eq capacity]
    exact tracks.handle_setState foundThere
  case released =>
    intro handle member
    obtain ⟨position, lt_read, rfl, freed⟩ := released handle member
    exact ⟨position, Nat.lt_succ_of_lt lt_read,
      (PacketRing.issued_eq_of_capacity_eq capacity position).symm, freed⟩

/-- Both sides can forget the same. -/
theorem reclaimable_eq
    {entries : List QueueEntry}
    (limit : Nat)
    {position : Nat}
    (states : ∀ index, index < limit → ∃ entry, entries[index]? = some entry ∧
      (ring.slotAt (position + index)).state = entry.state) :
    reclaimable limit entries = ring.reclaimable position limit := by
  induction limit generalizing entries position with
  | zero => cases entries <;> rfl
  | succ limit hypothesis =>
      obtain ⟨entry, found, state⟩ := states 0 (Nat.zero_lt_succ _)
      cases entries with
      | nil => cases found
      | cons first rest =>
          obtain rfl := Option.some.inj found
          have rest_eq := @hypothesis rest (position + 1) fun index lt => by
            obtain ⟨entry, found, state⟩ := states (index + 1)
              (Nat.succ_lt_succ lt)
            rw [← Nat.add_assoc, Nat.add_right_comm] at state
            exact ⟨entry, found, state⟩
          rw [Nat.add_zero] at state
          rw [reclaimable, PacketRing.reclaimable, rest_eq, state]

section GivenBack

variable
  (tracks : queue.Tracks ring)
  (found : queue.entries[index]? = some entry)

include tracks found

theorem contents_freed :
    (ring.changedAt (ring.tail + index) fun slot =>
      { slot with state := .free }).contents =
      (queue.setState index .free).entries.map QueueEntry.shown :=
  tracks.contents_changedAt found _
    (Prod.ext (tracks.slotAt_eq found).2.1 rfl)

/-- Both sides forget the same after a slot was freed. -/
theorem reclaimable_freed :
    (ring.changedAt (ring.tail + index) fun slot =>
      { slot with state := .free }).reclaimable ring.tail
        (ring.read - ring.tail) =
      reclaimable queue.read (queue.setState index .free).entries := by
  have read_le := tracks.layout.read_le_head
  have read_eq := tracks.read_eq
  rw [read_eq, Nat.add_sub_cancel_left]
  refine (reclaimable_eq queue.read fun place lt => ?_).symm
  have inside : ring.tail + place < ring.head := by omega
  have shows := (@PacketRing.getElem?_contents
    (ring.changedAt (ring.tail + index) fun slot =>
      { slot with state := .free }) place).trans (if_pos inside)
  rw [tracks.contents_freed found, List.getElem?_map] at shows
  obtain ⟨other, present, shown⟩ := Option.map_eq_some_iff.mp shows
  exact ⟨other, present, (congrArg Prod.snd shown).symm⟩

/-- What was given back is free, now that the slot is. -/
theorem released_freed (lt_read : ring.tail + index < ring.read) :
    ∀ handle ∈ queue.released ++ [entry.handle], ∃ position,
      position < ring.read ∧ handle = ring.issued position ∧
      (ring.tail ≤ position →
        ((ring.changedAt (ring.tail + index) fun slot =>
          { slot with state := .free }).slotAt position).state = .free) := by
  intro handle member
  rcases List.mem_append.mp member with earlier | last
  · exact tracks.released_changedAt found _ (fun _ => rfl) handle earlier
  · obtain rfl := List.mem_singleton.mp last
    refine ⟨_, lt_read, tracks.handle_eq index entry found, fun tail_le => ?_⟩
    have lt_end := (tracks.slotAt_eq found).1.trans_le tracks.layout.head_le
    rw [PacketRing.slotAt_changedAt _ tail_le lt_end tail_le lt_end, if_pos rfl]

/-- A delivered slot is given back, and both sides forget what they can. -/
theorem givenBack (holding : entry.state = .delivered) :
    Tracks { queue.setState index .free with
        released := queue.released ++ [entry.handle] }.reclaim
      (ring.changedAt (ring.tail + index) fun slot =>
        { slot with state := .free }).reclaim := by
  obtain ⟨lt_head, _, state⟩ := tracks.slotAt_eq found
  have lt_read := tracks.layout.lt_read_of_delivered lt_head
    (state.trans holding)
  have count_eq := tracks.reclaimable_freed found
  let freed := ring.changedAt (ring.tail + index) fun slot =>
    { slot with state := .free }
  have capacity : freed.capacity = ring.capacity :=
    PacketRing.capacity_changedAt _ _
  have issued := @PacketRing.issued_eq_of_capacity_eq ring freed.reclaim capacity
  let count := reclaimable queue.read (queue.setState index .free).entries
  have tail_eq : freed.reclaim.tail = ring.tail + count :=
    congrArg (ring.tail + ·) count_eq
  have count_le : count ≤ queue.read := calc
    count = freed.reclaimable ring.tail (ring.read - ring.tail) := count_eq.symm
    _ ≤ ring.read - ring.tail := PacketRing.reclaimable_le _ _
    _ = queue.read := by rw [tracks.read_eq, Nat.add_sub_cancel_left]
  constructor
  case layout =>
    exact tracks.layout.reclaim_changedAt (Nat.le_add_right _ _) lt_read rfl
  case counted =>
    exact tracks.counted.of_coeval ((PacketRing.Coeval.changedAt rfl).trans
      (.reclaim _))
  case capacity_eq => exact tracks.capacity_eq.trans capacity.symm
  case read_eq =>
    change ring.read = freed.reclaim.tail + (queue.read - count)
    rw [tail_eq, tracks.read_eq]
    omega
  case contents_eq =>
    change freed.reclaim.contents = List.map _ (List.drop count _)
    rw [PacketRing.contents_reclaim, tracks.contents_freed found, List.map_drop]
    exact congrArg (List.drop · _) count_eq
  case handle_eq =>
    intro place other foundThere
    change (List.drop count _)[place]? = _ at foundThere
    rw [List.getElem?_drop] at foundThere
    rw [issued, tail_eq, Nat.add_assoc]
    exact tracks.handle_setState foundThere
  case released =>
    intro handle member
    obtain ⟨position, lt_read, rfl, free⟩ :=
      tracks.released_freed found lt_read handle member
    refine ⟨position, lt_read, (issued position).symm, fun beyond => ?_⟩
    exact free ((Nat.le_add_right _ _).trans (tail_eq ▸ beyond))

end GivenBack

end Tracks

theorem of_pick?
    {queue : RingQueue}
    {state : SlotState}
    {pick : UInt8}
    {place : Nat}
    {entry : QueueEntry}
    (picked : queue.pick? state pick = some (place, entry)) :
    queue.entries[place]? = some entry ∧ entry.state = state := by
  unfold pick? at picked
  simp only [Option.bind_eq_bind, Option.bind_eq_some_iff, Option.pure_def,
    Option.some.injEq, Prod.mk.injEq] at picked
  obtain ⟨place, chosen, entry, found, rfl, rfl⟩ := picked
  refine ⟨found, ?_⟩
  have member : place ∈ queue.eligible state := List.mem_of_getElem? chosen
  have eligible := (List.mem_filter.mp member).2
  rw [found] at eligible
  exact of_decide_eq_true eligible

end RingQueue

namespace RingTrial

variable {trial : RingTrial}

/-- Both sides of a trial answer alike. -/
structure Agrees (trial : RingTrial) : Prop where
  /-- An allocation is refused just when the queue is full. -/
  refused : ∀ length,
    trial.ring.alloc length = .error .full ↔ trial.queue.isFull = true
  /-- For no other reason is it refused. -/
  granted : ∀ length error,
    trial.ring.alloc length = .error error → error = .full
  /-- A delivery gives handle and content of the queue's next entry. -/
  popped : (trial.ring.pop.map fun (handle, ring) => (handle, ring.bytes handle)) =
    trial.queue.next?.map fun entry => (entry.handle, .ok entry.content)
  /-- As many slots are in use. -/
  inUse : trial.ring.inUse = trial.queue.entries.length
  /-- As many slots are in every state but free. -/
  count : ∀ state, state ≠ .free →
    trial.ring.count state = trial.queue.count state
  /-- Both are full or neither is. -/
  isFull : trial.ring.isFull = trial.queue.isFull
  /-- What was given back once is refused. -/
  rejected : ∀ handle ∈ trial.queue.released,
    trial.ring.release handle = .error .staleGeneration ∨
      ∃ found, trial.ring.release handle =
        .error (.invalidState .delivered found)

/-- A queue that tracks a ring answers alike. -/
theorem agrees_of_tracks
    (tracks : trial.queue.Tracks trial.ring)
    (young : trial.ring.head < 2 ^ 32) : trial.Agrees where
  refused := fun length => by
    rw [PacketRing.alloc_eq tracks.layout.toArranged, tracks.isFull_eq]
    split <;> simp_all
  granted := fun length error refused => by
    rw [PacketRing.alloc_eq tracks.layout.toArranged] at refused
    split at refused
    · exact (Except.error.inj refused).symm
    · cases refused
  popped := by
    rw [tracks.pop_eq, Option.map_map]
    refine Option.map_congr fun entry next => ?_
    exact congrArg (Prod.mk entry.handle) (tracks.bytes_eq next)
  inUse := tracks.inUse_eq
  count := fun _ used => tracks.count_eq used
  isFull := tracks.isFull_eq
  rejected := fun _ member => tracks.release_released young member

/-- The comparison finds no difference. -/
theorem compare_eq_ok
    (tracks : trial.queue.Tracks trial.ring) : trial.compare = .ok () := by
  have same : ∀ what count, expectCount what count count = .ok () :=
    fun _ _ => if_pos rfl
  have allocated : trial.ring.count .allocated = trial.queue.count .allocated :=
    tracks.count_eq (by simp)
  have committed : trial.ring.count .committed = trial.queue.count .committed :=
    tracks.count_eq (by simp)
  have delivered : trial.ring.count .delivered = trial.queue.count .delivered :=
    tracks.count_eq (by simp)
  simp only [compare, tracks.inUse_eq, tracks.isFull_eq, allocated, committed,
    delivered, same, ne_eq, not_true_eq_false, if_false]
  rfl

/-! ## Every operation -/

/-- An operation leaves a queue that tracks the ring, which has grown by one
slot at most. -/
def Advances (trial next : RingTrial) : Prop :=
  next.queue.Tracks next.ring ∧ next.ring.head ≤ trial.ring.head + 1

/-- Allocating passes, with or without room. -/
theorem alloc_eq_ok
    (tracks : trial.queue.Tracks trial.ring)
    (length : UInt16)
    (fill : UInt8) :
    ∃ next, apply (.alloc length fill) trial = .ok next ∧
      Advances trial next := by
  have answer := PacketRing.alloc_eq tracks.layout.toArranged
    (packetLength length)
  unfold apply
  dsimp only
  rw [← tracks.isFull_eq]
  cases full : trial.ring.isFull with
  | true =>
      rw [full, if_pos rfl] at answer
      refine ⟨trial, ?_, tracks, Nat.le_succ _⟩
      rw [if_pos rfl, allocFull, answer]
  | false =>
      rw [full, if_neg Bool.false_ne_true] at answer
      have room := PacketRing.lt_of_isFull_eq_false tracks.layout.toArranged full
      have written := PacketRing.write_grown tracks.layout room
        (List.replicate (packetLength length) fill)
      rw [List.length_replicate] at written
      refine ⟨⟨_, _⟩, ?_, tracks.allocated room (packetLength length) fill,
        Nat.le_refl _⟩
      rw [if_neg Bool.false_ne_true, alloc, answer]
      simp only [required, QueueEntry.content, bind, Except.bind, written]
      rfl

/-- Committing passes. -/
theorem commit_eq_ok
    (tracks : trial.queue.Tracks trial.ring)
    (pick : UInt8) :
    ∃ next, apply (.commit pick) trial = .ok next ∧ Advances trial next := by
  change ∃ next, trial.commit pick = _ ∧ _
  unfold commit
  cases picked : trial.queue.pick? .allocated pick with
  | none => exact ⟨trial, rfl, tracks, Nat.le_succ _⟩
  | some chosen =>
      obtain ⟨place, entry⟩ := chosen
      obtain ⟨found, state⟩ := RingQueue.of_pick? picked
      have accepted := (PacketRing.commit_eq_ok_iff tracks.layout.toArranged).mpr
        ⟨_, tracks.names found, (tracks.slotAt_eq found).2.2.trans state, rfl⟩
      refine ⟨⟨_, _⟩, ?_, tracks.committed found state, Nat.le_succ _⟩
      simp only [accepted, required, bind, Except.bind]
      rfl

/-- Taking the next slot passes. -/
theorem pop_eq_ok (tracks : trial.queue.Tracks trial.ring) :
    ∃ next, apply .pop trial = .ok next ∧ Advances trial next := by
  change ∃ next, trial.pop = _ ∧ _
  unfold pop
  rw [tracks.pop_eq]
  cases next : trial.queue.next? with
  | none => exact ⟨trial, rfl, tracks, Nat.le_succ _⟩
  | some entry =>
      refine ⟨⟨_, _⟩, ?_, tracks.delivered next, Nat.le_succ _⟩
      simp only [Option.map_some, tracks.bytes_eq next, required, bind,
        Except.bind, ne_eq, not_true_eq_false, if_false]
      rfl

/-- Giving a slot back passes. -/
theorem release_eq_ok
    (tracks : trial.queue.Tracks trial.ring)
    (pick : UInt8) :
    ∃ next, apply (.release pick) trial = .ok next ∧ Advances trial next := by
  change ∃ next, trial.release pick = _ ∧ _
  unfold release
  cases picked : trial.queue.pick? .delivered pick with
  | none => exact ⟨trial, rfl, tracks, Nat.le_succ _⟩
  | some chosen =>
      obtain ⟨place, entry⟩ := chosen
      obtain ⟨found, state⟩ := RingQueue.of_pick? picked
      have accepted :=
        (PacketRing.release_eq_ok_iff tracks.layout.toArranged).mpr
          ⟨_, tracks.names found, (tracks.slotAt_eq found).2.2.trans state, rfl⟩
      refine ⟨⟨_, _⟩, ?_, tracks.givenBack found state, Nat.le_succ _⟩
      simp only [accepted, required, bind, Except.bind]
      rfl

/-- A second release passes, for it is refused. -/
theorem releaseAgain_eq_ok
    (tracks : trial.queue.Tracks trial.ring)
    (young : trial.ring.head < 2 ^ 32)
    (pick : UInt8) :
    ∃ next, apply (.releaseAgain pick) trial = .ok next ∧
      Advances trial next := by
  refine ⟨trial, ?_, tracks, Nat.le_succ _⟩
  change trial.releaseAgain pick = _
  unfold releaseAgain
  cases chosen : choose pick trial.queue.released with
  | none => rfl
  | some handle =>
      have member : handle ∈ trial.queue.released := List.mem_of_getElem? chosen
      rcases tracks.release_released young member with stale | ⟨found, other⟩
      · simp only [stale]
      · simp only [other]

/-- An operation passes, and so does the comparison after it. -/
theorem step_eq_ok
    (tracks : trial.queue.Tracks trial.ring)
    (young : trial.ring.head < 2 ^ 32)
    (operation : RingOperation) :
    ∃ next, step operation trial = .ok next ∧ Advances trial next := by
  obtain ⟨next, applied, advances⟩ : ∃ next,
      apply operation trial = .ok next ∧ Advances trial next := by
    cases operation with
    | alloc length fill => exact alloc_eq_ok tracks length fill
    | commit pick => exact commit_eq_ok tracks pick
    | pop => exact pop_eq_ok tracks
    | release pick => exact release_eq_ok tracks pick
    | releaseAgain pick => exact releaseAgain_eq_ok tracks young pick
  refine ⟨next, ?_, advances⟩
  simp only [step, applied, bind, Except.bind, compare_eq_ok advances.1]
  rfl

/-- Operations pass one after the other. -/
theorem runAll_eq_ok
    (tracks : trial.queue.Tracks trial.ring)
    (operations : List RingOperation)
    (young : trial.ring.head + operations.length < 2 ^ 32)
    (number : Nat) :
    ∃ next, runAll step number operations trial = .ok next ∧
      next.queue.Tracks next.ring ∧
      next.ring.head ≤ trial.ring.head + operations.length := by
  induction operations generalizing trial number with
  | nil => exact ⟨trial, rfl, tracks, Nat.le_refl _⟩
  | cons operation rest hypothesis =>
      rw [List.length_cons] at young
      obtain ⟨middle, first, kept, grown⟩ :=
        step_eq_ok tracks (by omega) operation
      obtain ⟨next, others, tracked, bound⟩ :=
        hypothesis kept (by omega) (number + 1)
      refine ⟨next, ?_, tracked, ?_⟩
      · rw [runAll, first]
        exact others
      · rw [List.length_cons]
        omega

/-- A new queue tracks a new ring. -/
theorem tracks_ofCapacity
    {capacity : UInt32}
    (positive : 0 < capacity.toNat) :
    (ofCapacity capacity).queue.Tracks (ofCapacity capacity).ring where
  layout := PacketRing.layout_ofCapacity positive
  counted := PacketRing.counted_ofCapacity capacity
  capacity_eq := by
    simp [ofCapacity, PacketRing.capacity, PacketRing.ofCapacity]
  read_eq := rfl
  contents_eq := rfl
  handle_eq := fun _ _ found => by cases found
  released := fun _ member => by cases member

end RingTrial

/-- A trial of any operations finds no difference, as long as handles cannot come
round: both sides answer alike after every operation, and a handle that was given
back at any time is refused. -/
theorem tryRing_eq_ok
    (asked : UInt32)
    (operations : List RingOperation)
    (countable : operations.length < 2 ^ 32) :
    tryRing asked operations = .ok () ∧
      ∀ done, done <+: operations → ∃ trial,
        runAll RingTrial.step 0 done (.ofCapacity (capacityFor asked)) =
          .ok trial ∧
        trial.Agrees := by
  have start := RingTrial.tracks_ofCapacity (capacityFor_pos asked)
  have passes : ∀ done, done <+: operations → ∃ trial,
      runAll RingTrial.step 0 done (.ofCapacity (capacityFor asked)) =
        .ok trial ∧ trial.Agrees := by
    intro done earlier
    have fewer := earlier.length_le
    have empty : (RingTrial.ofCapacity (capacityFor asked)).ring.head = 0 := rfl
    obtain ⟨trial, passed, tracks, bound⟩ :=
      RingTrial.runAll_eq_ok start done (by omega) 0
    exact ⟨trial, passed, RingTrial.agrees_of_tracks tracks (by omega)⟩
  obtain ⟨trial, passed, _⟩ := passes operations (List.prefix_refl _)
  refine ⟨?_, passes⟩
  rw [tryRing, passed]
  rfl

/-- A trial in which a handle is given back twice after its slot was allocated
anew. -/
theorem tryRing_eq_ok_of_second_release :
    [RingOperation.alloc 9 1, .commit 0, .pop, .release 0, .alloc 1 2, .alloc 1 3,
      .alloc 1 4, .alloc 1 5, .alloc 1 6, .releaseAgain 0].length < 2 ^ 32 ∧
    tryRing 3
      [.alloc 9 1, .commit 0, .pop, .release 0, .alloc 1 2, .alloc 1 3,
        .alloc 1 4, .alloc 1 5, .alloc 1 6, .releaseAgain 0] = .ok () :=
  ⟨by decide, (tryRing_eq_ok 3 _ (by decide)).1⟩

end Model
end VirtualAdapter

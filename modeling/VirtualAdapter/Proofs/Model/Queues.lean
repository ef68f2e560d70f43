import VirtualAdapter.Proofs.Model.Traffic
import VirtualAdapter.Proofs.Ring.Contents

/-!
# Queues beside rings

A queue mirrors a ring when its entries are what the slots in use show, oldest
first, and when the host holds the packets of the entries that say so.
-/

namespace VirtualAdapter
namespace Model

open Host (HeldPacket PacketId)
open Memory.MemoryDriver (packetAt)
open VirtualAdapter.Ring (PacketRing Slot SlotState)
open VirtualAdapter.Ring.PacketRing (Arranged Layout)

/-- Where a packet is, as its slot and the held packets show it. -/
class Stage (Value : Type) where
  /-- The state of its slot. -/
  state : Value → SlotState
  /-- The number under which the host holds it. -/
  packet? : Value → Option PacketId

instance : Stage Arrival where
  state
    | .queued => .committed
    | .held _ => .delivered
    | .released => .free
  packet?
    | .held id => some id
    | _ => none

instance : Stage Departure where
  state
    | .held _ => .allocated
    | .committed => .committed
  packet?
    | .held id => some id
    | .committed => none

variable {Value : Type} [Stage Value]

/-- An entry as its slot shows it. -/
def shown (entry : Bytes × Value) : Bytes × SlotState :=
  (entry.1, Stage.state entry.2)

/-- The number under which the host holds an entry. -/
def packet? (entry : Bytes × Value) : Option PacketId := Stage.packet? entry.2

/-- The packets in a queue that the host holds. -/
def heldIn (queue : List (Bytes × Value)) : List PacketId :=
  queue.filterMap packet?

/-- A queue shows what a ring has in use. -/
structure Mirrors
    (direction : Direction)
    (packets : Table PacketId HeldPacket)
    (ring : PacketRing)
    (queue : List (Bytes × Value)) : Prop where
  /-- The entries are the slots in use. -/
  contents_eq : ring.contents = queue.map shown
  /-- The host holds what the entries say. -/
  lent : ∀ index entry id, queue[index]? = some entry →
    packet? entry = some id →
      packets.get? id = some (heldAt direction ring (ring.tail + index))

variable
  {direction : Direction}
  {packets : Table PacketId HeldPacket}
  {ring next : PacketRing}
  {queue : List (Bytes × Value)}

/-- Rings that agree on a slot lend the same packet there. -/
theorem heldAt_congr
    {position : Nat}
    (capacity : next.capacity = ring.capacity)
    (slot : next.slotAt position = ring.slotAt position) :
    heldAt direction next position = heldAt direction ring position :=
  congrArg (fun raw => (⟨trialSession, direction, raw⟩ : HeldPacket))
    (Memory.MemoryDriver.packetAt_congr direction capacity (by rw [slot])
      (by rw [slot]))

namespace Mirrors

/-- The queue is as long as the slots in use are many. -/
theorem head_eq
    (mirrors : Mirrors direction packets ring queue)
    (arranged : Arranged ring) : ring.head = ring.tail + queue.length := by
  have lengths := congrArg List.length mirrors.contents_eq
  have tail_le := arranged.tail_le_read.trans arranged.read_le_head
  rw [PacketRing.length_contents, List.length_map] at lengths
  omega

/-- An entry is the slot at its position. -/
theorem slotAt_eq
    (mirrors : Mirrors direction packets ring queue)
    {index : Nat}
    {entry : Bytes × Value}
    (found : queue[index]? = some entry) :
    ring.tail + index < ring.head ∧
      (ring.slotAt (ring.tail + index)).buffer = entry.1 ∧
      (ring.slotAt (ring.tail + index)).state = Stage.state entry.2 := by
  have shows := @PacketRing.getElem?_contents ring index
  rw [mirrors.contents_eq, List.getElem?_map, found] at shows
  split at shows
  case isTrue inside =>
    have same := Option.some.inj shows
    exact ⟨inside, (congrArg (·.1) same).symm, (congrArg (·.2) same).symm⟩
  case isFalse => cases shows

/-- The host holds every packet once. -/
theorem index_eq
    (mirrors : Mirrors direction packets ring queue)
    (arranged : Arranged ring)
    {first second : Nat}
    {entry other : Bytes × Value}
    {id : PacketId}
    (found : queue[first]? = some entry)
    (again : queue[second]? = some other)
    (held : packet? entry = some id)
    (heldAgain : packet? other = some id) : first = second := by
  have same := Option.some.inj
    ((mirrors.lent first entry id found held).symm.trans
      (mirrors.lent second other id again heldAgain))
  have positions := Memory.MemoryDriver.eq_of_packetAt_eq arranged
    (Nat.le_add_right _ _) (mirrors.slotAt_eq found).1 (Nat.le_add_right _ _)
    (mirrors.slotAt_eq again).1 (congrArg (·.raw) same)
  omega

/-- The held packets may change where no entry says otherwise. -/
theorem of_packets
    (mirrors : Mirrors direction packets ring queue)
    {others : Table PacketId HeldPacket}
    (kept : ∀ entry id position, entry ∈ queue → packet? entry = some id →
      packets.get? id = some (heldAt direction ring position) →
        others.get? id = some (heldAt direction ring position)) :
    Mirrors direction others ring queue where
  contents_eq := mirrors.contents_eq
  lent := fun index entry id found held =>
    kept entry id _ (List.mem_of_getElem? found) held
      (mirrors.lent index entry id found held)

/-- A slot is taken at the head. -/
theorem append
    (mirrors : Mirrors direction packets ring queue)
    (arranged : Arranged ring)
    {entry : Bytes × Value}
    (capacity : next.capacity = ring.capacity)
    (tail : next.tail = ring.tail)
    (contents : next.contents = ring.contents ++ [shown entry])
    (kept : ∀ position, ring.tail ≤ position → position < ring.head →
      next.slotAt position = ring.slotAt position)
    (lent : ∀ id, packet? entry = some id →
      packets.get? id = some (heldAt direction next ring.head)) :
    Mirrors direction packets next (queue ++ [entry]) where
  contents_eq := by
    rw [contents, mirrors.contents_eq, List.map_append, List.map_singleton]
  lent := by
    intro index other id found held
    rw [tail]
    rw [List.getElem?_append] at found
    split at found
    case isTrue =>
      have inside := (mirrors.slotAt_eq found).1
      rw [heldAt_congr capacity (kept _ (Nat.le_add_right _ _) inside)]
      exact mirrors.lent index other id found held
    case isFalse beyond =>
      obtain ⟨last, rfl⟩ := List.getElem?_eq_some_iff.mp found
      rw [List.length_singleton] at last
      have here : ring.tail + index = ring.head := by
        rw [mirrors.head_eq arranged]
        omega
      rw [here]
      exact lent id (by simpa using held)

/-- A slot in use changes. -/
theorem changedAt
    (mirrors : Mirrors direction packets ring queue)
    (arranged : Arranged ring)
    {index : Nat}
    {entry new : Bytes × Value}
    (found : queue[index]? = some entry)
    {change : Slot → Slot}
    (shows : (change (ring.slotAt (ring.tail + index))).shown = shown new)
    (lent : ∀ id, packet? new = some id →
      packets.get? id = some (heldAt direction
        (ring.changedAt (ring.tail + index) change) (ring.tail + index))) :
    Mirrors direction packets (ring.changedAt (ring.tail + index) change)
      (queue.set index new) := by
  have lt_head := (mirrors.slotAt_eq found).1
  have tail_le := Nat.le_add_right ring.tail index
  have head_le := arranged.head_le
  constructor
  case contents_eq =>
    rw [PacketRing.contents_changedAt change tail_le lt_head head_le, shows,
      Nat.add_sub_cancel_left, mirrors.contents_eq, List.map_set]
  case lent =>
    intro place other id foundThere held
    have kept : ∀ position, ring.tail ≤ position → position < ring.head →
        position ≠ ring.tail + index →
        (ring.changedAt (ring.tail + index) change).slotAt position =
          ring.slotAt position := by
      intro position beyond before different
      rw [PacketRing.slotAt_changedAt change tail_le
        (lt_head.trans_le head_le) beyond (before.trans_le head_le),
        if_neg different]
    change packets.get? id = some (heldAt direction
      (ring.changedAt (ring.tail + index) change) (ring.tail + place))
    rw [List.getElem?_set] at foundThere
    split at foundThere
    case isTrue same =>
      subst same
      split at foundThere
      case isTrue =>
        obtain rfl := Option.some.inj foundThere
        exact lent id held
      case isFalse => cases foundThere
    case isFalse =>
      have inside := (mirrors.slotAt_eq foundThere).1
      rw [heldAt_congr (PacketRing.capacity_changedAt _ _)
        (kept (ring.tail + place) (Nat.le_add_right _ _) inside (by omega))]
      exact mirrors.lent place other id foundThere held

/-- Slots are given back at the tail. -/
theorem drop
    (mirrors : Mirrors direction packets ring queue)
    {count : Nat}
    (capacity : next.capacity = ring.capacity)
    (tail : next.tail = ring.tail + count)
    (contents : next.contents = ring.contents.drop count)
    (kept : ∀ position, next.tail ≤ position → position < ring.head →
      next.slotAt position = ring.slotAt position) :
    Mirrors direction packets next (queue.drop count) where
  contents_eq := by rw [contents, mirrors.contents_eq, List.map_drop]
  lent := by
    intro index entry id found held
    rw [List.getElem?_drop] at found
    have inside := (mirrors.slotAt_eq found).1
    rw [← Nat.add_assoc, ← tail] at inside
    have lent := mirrors.lent _ entry id found held
    rw [← Nat.add_assoc, ← tail] at lent
    rw [heldAt_congr capacity (kept _ (Nat.le_add_right _ _) inside)]
    exact lent

/-- What of a ring was freed is what of the queue was released. -/
theorem reclaimable_eq
    {queue : List (Bytes × Arrival)}
    (limit : Nat)
    {position : Nat}
    (states : ∀ index, index < limit → ∃ entry, queue[index]? = some entry ∧
      (ring.slotAt (position + index)).state = Stage.state entry.2) :
    SessionQueues.reclaimable limit queue = ring.reclaimable position limit := by
  induction limit generalizing queue position with
  | zero => cases queue <;> rfl
  | succ limit hypothesis =>
      obtain ⟨entry, found, state⟩ := states 0 (Nat.zero_lt_succ _)
      cases queue with
      | nil => cases found
      | cons first rest =>
          obtain rfl := Option.some.inj found
          obtain ⟨content, arrival⟩ := first
          have rest_eq := @hypothesis rest (position + 1) fun index lt => by
            obtain ⟨entry, found, state⟩ := states (index + 1)
              (Nat.succ_lt_succ lt)
            rw [← Nat.add_assoc, Nat.add_right_comm] at state
            exact ⟨entry, found, state⟩
          have freed : (ring.slotAt position).state = .free ↔
              arrival = .released := by
            rw [Nat.add_zero] at state
            rw [state]
            cases arrival <;> simp [Stage.state]
          rw [SessionQueues.reclaimable, PacketRing.reclaimable, rest_eq]
          simp only [freed]

/-- What can be drained of a queue is what can be drained of the ring. -/
theorem drainable_eq
    {queue : List (Bytes × Departure)}
    (mirrors : Mirrors direction packets ring queue) :
    ring.drainable =
      (queue.takeWhile fun entry => entry.2 = .committed).map shown := by
  have same : (fun entry : Bytes × Departure =>
      decide (entry.2 = .committed)) =
        (fun entry => decide (entry.2 = SlotState.committed)) ∘ shown := by
    funext ⟨content, departure⟩
    cases departure <;> simp [shown, Stage.state]
  rw [PacketRing.drainable, mirrors.contents_eq, List.takeWhile_map, same]

/-- A ring is full when the queue is as long as it has slots. -/
theorem isFull_eq
    (mirrors : Mirrors direction packets ring queue)
    (arranged : Arranged ring) :
    ring.isFull = decide (ring.capacity ≤ queue.length) := by
  have head_eq := mirrors.head_eq arranged
  rw [PacketRing.isFull, PacketRing.inUse, head_eq, Nat.add_sub_cancel_left]

/-- Where a state means that a packet is held, the slots in that state are as
many as the held packets. -/
theorem count_eq
    (mirrors : Mirrors direction packets ring queue)
    (arranged : Arranged ring)
    {state : SlotState}
    (used : state ≠ .free)
    (held : ∀ value : Value,
      Stage.state value = state ↔ (Stage.packet? value).isSome) :
    ring.count state = (heldIn queue).length := by
  have shows : (ring.between ring.tail ring.head).countP (·.state = state) =
      ring.contents.countP fun entry => entry.2 = state := by
    rw [PacketRing.contents, List.countP_map]
    rfl
  rw [arranged.count_eq_countP_between used, shows, mirrors.contents_eq,
    List.countP_map, heldIn, List.length_filterMap_eq_countP]
  refine List.countP_congr fun entry _ => ?_
  exact decide_eq_true_iff.trans (held entry.2)

end Mirrors

/-! ## Changes of queues -/

theorem modify_eq_set
    {Entry : Type}
    {list : List Entry}
    {index : Nat}
    {entry : Entry}
    (found : list[index]? = some entry)
    (change : Entry → Entry) :
    list.modify index change = list.set index (change entry) := by
  refine List.ext_getElem? fun place => ?_
  rw [List.getElem?_modify, List.getElem?_set']
  by_cases same : index = place
  · subst same
    simp [found]
  · simp [same]

/-- A change that concerns one entry only. -/
theorem map_eq_set
    {Entry : Type}
    {list : List Entry}
    {index : Nat}
    {entry : Entry}
    {change : Entry → Entry}
    (found : list[index]? = some entry)
    (others : ∀ place other, list[place]? = some other → place ≠ index →
      change other = other) :
    list.map change = list.set index (change entry) := by
  refine List.ext_getElem? fun place => ?_
  rw [List.getElem?_map, List.getElem?_set']
  by_cases same : index = place
  · subst same
    simp [found]
  · rw [if_neg same]
    cases there : list[place]? with
    | none => rfl
    | some other =>
        exact congrArg some (others place other there (Ne.symm same))

/-- Entries that are not held can go from the front. -/
theorem heldIn_drop
    {count : Nat}
    (front : ∀ entry ∈ queue.take count, packet? entry = none) :
    heldIn (queue.drop count) = heldIn queue := by
  have none := List.filterMap_eq_nil_iff.mpr front
  have whole := congrArg heldIn (List.take_append_drop count queue)
  rwa [heldIn, List.filterMap_append, none, List.nil_append] at whole

/-- An entry begins to be held behind all others. -/
theorem heldIn_set
    {index : Nat}
    {entry new : Bytes × Value}
    {id : PacketId}
    (found : queue[index]? = some entry)
    (before : packet? entry = none)
    (after : packet? new = some id)
    (behind : ∀ place other, queue[place]? = some other → index < place →
      packet? other = none) :
    heldIn (queue.set index new) = heldIn queue ++ [id] := by
  obtain ⟨inside, here⟩ := List.getElem?_eq_some_iff.mp found
  have rest : (queue.drop (index + 1)).filterMap packet? = [] := by
    refine List.filterMap_eq_nil_iff.mpr fun other member => ?_
    obtain ⟨place, there⟩ := List.mem_iff_getElem?.mp member
    rw [List.getElem?_drop] at there
    exact behind _ other there (by omega)
  have whole : heldIn queue = (queue.take index).filterMap packet? := by
    have split := List.take_append_drop index queue
    rw [List.drop_eq_getElem_cons inside, here] at split
    rw [heldIn, ← split, List.filterMap_append, List.filterMap_cons, before,
      rest, List.append_nil, split]
  rw [whole, heldIn, List.set_eq_take_append_cons_drop, if_pos inside,
    List.filterMap_append, List.filterMap_cons, after, rest]

/-- A change of entries that lets go of one held packet. -/
structure Settles
    (id : PacketId)
    (step : Bytes × Value → Bytes × Value) : Prop where
  /-- Other entries are kept. -/
  others : ∀ entry, packet? entry ≠ some id → step entry = entry
  /-- The packet is not held any more. -/
  settled : ∀ entry, packet? entry = some id → packet? (step entry) = none

namespace Settles

variable {id : PacketId} {step : Bytes × Value → Bytes × Value}

/-- Every other packet is still held. -/
theorem packet?_eq (settles : Settles id step) (entry : Bytes × Value) :
    packet? (step entry) = (packet? entry).filter (· ≠ id) := by
  by_cases held : packet? entry = some id
  · rw [settles.settled entry held, held]
    simp [Option.filter]
  · rw [settles.others entry held]
    cases there : packet? entry with
    | none => rfl
    | some other =>
        have apart : other ≠ id := fun same => held (same ▸ there)
        simp [Option.filter, apart]

theorem heldIn_map (settles : Settles id step) :
    heldIn (queue.map step) = (heldIn queue).filter (· ≠ id) := by
  rw [heldIn, heldIn, List.filterMap_map, List.filter_filterMap]
  exact congrArg (List.filterMap · queue) (funext settles.packet?_eq)

/-- Letting go of a packet is a change at its position. -/
theorem mirrors
    (settles : Settles id step)
    (before : Mirrors direction packets ring queue)
    (arranged : Arranged ring)
    {index : Nat}
    {entry : Bytes × Value}
    (found : queue[index]? = some entry)
    (held : packet? entry = some id)
    {change : Slot → Slot}
    (shows : (change (ring.slotAt (ring.tail + index))).shown =
      shown (step entry)) :
    Mirrors direction (packets.erase id)
      (ring.changedAt (ring.tail + index) change) (queue.map step) := by
  have set : queue.map step = queue.set index (step entry) :=
    map_eq_set found fun place other there different =>
      settles.others other fun again => different
        (before.index_eq arranged there found again held)
  have changed := before.changedAt arranged found shows fun other lent => by
    rw [settles.settled entry held] at lent
    cases lent
  rw [← set] at changed
  refine changed.of_packets fun entry other position member lent present => ?_
  obtain ⟨earlier, _, rfl⟩ := List.mem_map.mp member
  rw [settles.packet?_eq, Option.filter_eq_some_iff] at lent
  rw [Table.get?_erase, if_neg (by simpa using lent.2), present]

end Settles

namespace SessionQueues

/-- An entry after the host has let go of a received packet. -/
def releaseEntry (id : PacketId) (entry : Bytes × Arrival) : Bytes × Arrival :=
  (entry.1, if entry.2 = .held id then .released else entry.2)

/-- An entry after the host has let go of a buffer. -/
def commitEntry
    (id : PacketId)
    (change : Bytes → Bytes)
    (entry : Bytes × Departure) : Bytes × Departure :=
  if entry.2 = .held id then (change entry.1, .committed) else entry

theorem settles_release (id : PacketId) : Settles id (releaseEntry id) where
  others := by
    rintro ⟨content, arrival⟩ other
    have apart : arrival ≠ .held id := by
      rintro rfl
      exact other rfl
    simp [releaseEntry, apart]
  settled := by
    rintro ⟨content, arrival⟩ held
    cases arrival with
    | queued => cases held
    | held other =>
        obtain rfl := Option.some.inj held
        simp [releaseEntry, packet?, Stage.packet?]
    | released => cases held

theorem settles_commit (id : PacketId) (change : Bytes → Bytes) :
    Settles id (commitEntry id change) where
  others := by
    rintro ⟨content, departure⟩ other
    have apart : departure ≠ .held id := by
      rintro rfl
      exact other rfl
    simp [commitEntry, apart]
  settled := by
    rintro ⟨content, departure⟩ held
    cases departure with
    | held other =>
        obtain rfl := Option.some.inj held
        simp [commitEntry, packet?, Stage.packet?]
    | committed => cases held

theorem reclaimable_le (read : Nat) (queue : List (Bytes × Arrival)) :
    reclaimable read queue ≤ read := by
  fun_induction reclaimable read queue with
  | case1 => omega
  | case2 => omega
  | case3 => omega

/-- Only entries that were given back are forgotten. -/
theorem released_of_mem_take
    {read : Nat}
    {queue : List (Bytes × Arrival)}
    {entry : Bytes × Arrival}
    (member : entry ∈ queue.take (reclaimable read queue)) :
    entry.2 = .released := by
  fun_induction reclaimable read queue with
  | case1 read content rest hypothesis =>
      rw [List.take_succ_cons, List.mem_cons] at member
      rcases member with rfl | member
      · rfl
      · exact hypothesis member
  | case2 => simp at member
  | case3 => simp at member

end SessionQueues

end Model
end VirtualAdapter

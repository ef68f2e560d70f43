import VirtualAdapter.Proofs.Memory.Turns

/-!
# Packets go back once, to where they came from

The books of a session say which of its packets are out.  A packet that is
handed back is taken exactly if it is one of these: every other one, whatever
its tag and address, is noted as one violation.  The tag counts how often the
slot was lent, in 32 bits, so that an old packet can only be mistaken for a new
one when its slot has been lent that often in between.
-/

namespace VirtualAdapter

/-- What a list has that one entry was put behind. -/
theorem cases_of_getElem?_concat
    {Value : Type}
    {list : List Value}
    {last value : Value}
    {position : Nat}
    (found : (list ++ [last])[position]? = some value) :
    list[position]? = some value ∧ position < list.length ∨
      position = list.length ∧ value = last := by
  rw [List.getElem?_append] at found
  split at found
  case isTrue before => exact .inl ⟨found, before⟩
  case isFalse beyond =>
    obtain ⟨inside, same⟩ := List.getElem?_eq_some_iff.mp found
    rw [List.length_singleton] at inside
    exact .inr ⟨by omega, (List.getElem_singleton inside).symm.trans same |>.symm⟩

namespace Memory
namespace MemoryDriver

open VirtualAdapter.Ring (PacketRing Slot SlotHandle SlotState)
open VirtualAdapter.Ring.PacketRing (Arranged Coeval Counted Layout)

/-- The number of packets that a ring has lent. -/
def lentCount : Direction → PacketRing → Nat
  | .inbound, ring => ring.read
  | .outbound, ring => ring.head

/-- The packets that were lent fit the ring that lent them: positions number
them. -/
structure Tallies
    (number : Nat)
    (direction : Direction)
    (ring : PacketRing)
    (lents : List Lent) : Prop where
  /-- Every packet that was lent is noted. -/
  length_eq : lents.length = lentCount direction ring
  /-- The address is that of the slot, the tag counts how often it was lent. -/
  marked : ∀ position lent, lents[position]? = some lent →
    lent.packet.address =
        ⟨.slot number direction (ring.place position), 0⟩ ∧
      lent.packet.tag = (SlotHandle.mk (UInt32.ofNat (ring.place position))
        (UInt32.ofNat (ring.takings (ring.place position)
          (position + 1)))).toTag
  /-- What the tail has passed is not out. -/
  past : ∀ position lent, position < ring.tail →
    lents[position]? = some lent → lent.isOut = false
  /-- The others are the packets of their slots, and out while these are
  lent. -/
  present : ∀ position lent, ring.tail ≤ position →
    lents[position]? = some lent →
      lent.packet = packetAt ⟨number⟩ direction ring position ∧
        (lent.isOut = true ↔
          (ring.slotAt position).state = lentState direction)

/-- A ring shows the same packet at a position as another one, lent in both or
in neither. -/
structure Unchanged
    (number : Nat)
    (direction : Direction)
    (ring next : PacketRing)
    (position : Nat) : Prop where
  /-- The packet has the same place, generation and length. -/
  packet_eq : packetAt ⟨number⟩ direction next position =
    packetAt ⟨number⟩ direction ring position
  /-- It is lent, or not, as before. -/
  lent_iff : (next.slotAt position).state = lentState direction ↔
    (ring.slotAt position).state = lentState direction

variable
  {driver : MemoryDriver}
  {number : Nat}
  {direction : Direction}
  {ring next : PacketRing}
  {lents : List Lent}
  {packet : RawPacket}

theorem lentCount_le_head (arranged : Arranged ring) :
    lentCount direction ring ≤ ring.head := by
  cases direction with
  | inbound => exact arranged.read_le_head
  | outbound => exact Nat.le_refl _

theorem tail_le_lentCount (arranged : Arranged ring) :
    ring.tail ≤ lentCount direction ring := by
  cases direction with
  | inbound => exact arranged.tail_le_read
  | outbound => exact arranged.tail_le_read.trans arranged.read_le_head

/-- Nothing was lent by a new ring. -/
theorem tallies_ofCapacity (capacity : UInt32) :
    Tallies number direction (.ofCapacity capacity) [] where
  length_eq := by cases direction <;> rfl
  marked := fun _ _ present => by simp at present
  past := fun _ _ _ present => by simp at present
  present := fun _ _ _ present => by simp at present

/-- A slot that stays as it is shows the same packet. -/
theorem unchanged_of_slotAt_eq
    (capacity_eq : next.capacity = ring.capacity)
    {position : Nat}
    (same : next.slotAt position = ring.slotAt position) :
    Unchanged number direction ring next position :=
  ⟨packetAt_congr direction capacity_eq (by rw [same]) (by rw [same]),
    by rw [same]⟩

namespace Tallies

theorem lt_lentCount
    (tallies : Tallies number direction ring lents)
    {position : Nat}
    {lent : Lent}
    (found : lents[position]? = some lent) :
    position < lentCount direction ring := by
  rw [← tallies.length_eq]
  exact (List.getElem?_eq_some_iff.mp found).1

/-! ## Changes that lend nothing -/

/-- Packets that were lent stay so in a ring that lends nothing and passes no
slot that is out. -/
theorem of_same
    (tallies : Tallies number direction ring lents)
    (capacity_eq : next.capacity = ring.capacity)
    (count_eq : lentCount direction next = lentCount direction ring)
    (passed : ∀ position, ring.tail ≤ position → position < next.tail →
      (ring.slotAt position).state ≠ lentState direction)
    (tail_le : ring.tail ≤ next.tail)
    (kept : ∀ position, next.tail ≤ position →
      position < lentCount direction ring →
        Unchanged number direction ring next position) :
    Tallies number direction next lents where
  length_eq := tallies.length_eq.trans count_eq.symm
  marked := fun position lent found => by
    rw [PacketRing.place_eq_of_capacity_eq capacity_eq,
      PacketRing.takings_eq_of_capacity_eq capacity_eq]
    exact tallies.marked position lent found
  past := fun position lent before found => by
    rcases Nat.lt_or_ge position ring.tail with already | beyond
    · exact tallies.past position lent already found
    · have out := (tallies.present position lent beyond found).2
      have other := passed position beyond before
      exact Bool.eq_false_iff.mpr fun isOut => other (out.mp isOut)
  present := fun position lent beyond found => by
    obtain ⟨packet, out⟩ :=
      tallies.present position lent (tail_le.trans beyond) found
    obtain ⟨same, state⟩ :=
      kept position beyond (tallies.lt_lentCount found)
    exact ⟨packet.trans same.symm, out.trans state.symm⟩

/-- Overwriting the bytes of a slot shows in no packet. -/
theorem poke
    (tallies : Tallies number direction ring lents)
    (index : Nat)
    {bytes : Bytes}
    (length : bytes.length = (ring.peek index).length) :
    Tallies number direction (ring.poke index bytes) lents := by
  have coeval := Coeval.poke ring index bytes
  have count_eq : lentCount direction (ring.poke index bytes) =
      lentCount direction ring := by
    cases direction <;> rfl
  refine tallies.of_same coeval.capacity_eq count_eq
    (fun position beyond before => absurd before beyond.not_gt)
    (Nat.le_refl _) fun position _ _ => ⟨packetAt_congr direction
      coeval.capacity_eq ?_ ?_, ?_⟩
  · have place := PacketRing.place_eq_of_capacity_eq coeval.capacity_eq position
    rw [PacketRing.slotAt, place]
    exact coeval.generation_eq _
  · unfold PacketRing.poke PacketRing.slotAt
    rw [PacketRing.place_setSlot, PacketRing.slot_setSlot]
    split
    case isTrue here => rw [here.1]; exact length
    case isFalse => rfl
  · rw [PacketRing.state_slotAt_poke]

/-! ## Lending -/

/-- A packet that is lent is noted behind all others. -/
theorem lend
    (tallies : Tallies number direction ring lents)
    (capacity_eq : next.capacity = ring.capacity)
    (tail_eq : next.tail = ring.tail)
    (count_eq : lentCount direction next = lentCount direction ring + 1)
    (arranged : Arranged next)
    (counted : Counted next)
    (lent_state : (next.slotAt (lentCount direction ring)).state =
      lentState direction)
    (tail_le : ring.tail ≤ lentCount direction ring)
    (kept : ∀ position, ring.tail ≤ position →
      position < lentCount direction ring →
        Unchanged number direction ring next position)
    (content : Bytes) :
    Tallies number direction next
      (lents ++
        [{ packet := packetAt ⟨number⟩ direction next (lentCount direction ring)
           content }]) := by
  constructor
  case length_eq =>
    rw [List.length_append, tallies.length_eq, count_eq]
    rfl
  case marked =>
    intro position lent found
    rcases cases_of_getElem?_concat found with ⟨earlier, _⟩ | ⟨last, rfl⟩
    · rw [PacketRing.place_eq_of_capacity_eq capacity_eq,
        PacketRing.takings_eq_of_capacity_eq capacity_eq]
      exact tallies.marked position lent earlier
    · rw [tallies.length_eq] at last
      subst last
      have before : lentCount direction next ≤ next.head :=
        lentCount_le_head arranged
      refine ⟨?_, ?_⟩
      · simp only [packetAt, toNat_index_handleAt arranged]
      · simp only [packetAt, PacketRing.handleAt]
        rw [counted.generation_slotAt arranged (tail_eq ▸ tail_le) (by omega)]
  case past =>
    intro position lent before found
    rw [tail_eq] at before
    rcases cases_of_getElem?_concat found with ⟨earlier, _⟩ | ⟨last, rfl⟩
    · exact tallies.past position lent before earlier
    · rw [tallies.length_eq] at last
      omega
  case present =>
    intro position lent beyond found
    rw [tail_eq] at beyond
    rcases cases_of_getElem?_concat found with ⟨earlier, inside⟩ | ⟨last, rfl⟩
    · obtain ⟨packet, out⟩ := tallies.present position lent beyond earlier
      obtain ⟨same, state⟩ :=
        kept position beyond (tallies.length_eq ▸ inside)
      exact ⟨packet.trans same.symm, out.trans state.symm⟩
    · rw [tallies.length_eq] at last
      subst last
      exact ⟨rfl, iff_of_true rfl lent_state⟩

/-! ## Going back -/

/-- Of the packets that were lent, a packet names exactly the one whose slot it
stands for. -/
theorem isNamedBy_iff
    (tallies : Tallies number direction ring lents)
    (arranged : Arranged ring)
    {position : Nat}
    {lent : Lent}
    (found : lents[position]? = some lent) :
    lent.isNamedBy packet = true ↔
      StandsFor ⟨number⟩ direction ring packet position := by
  have lt_head := (tallies.lt_lentCount found).trans_le
    (lentCount_le_head arranged)
  rw [Lent.isNamedBy_iff]
  rcases Nat.lt_or_ge position ring.tail with before | tail_le
  · have back := tallies.past position lent before found
    constructor
    · rintro ⟨out, _⟩
      cases back.symm.trans out
    · intro stands
      exact absurd before stands.tail_le.not_gt
  · obtain ⟨same, out⟩ := tallies.present position lent tail_le found
    have address : lent.packet.address = _ :=
      (tallies.marked position lent found).1
    constructor
    · rintro ⟨isOut, tag, place⟩
      refine ⟨tail_le, lt_head, out.mp isOut, ?_, place ▸ address⟩
      rw [← tag, same]
      rfl
    · intro stands
      refine ⟨out.mpr stands.lent, ?_, address.trans stands.address_eq.symm⟩
      rw [stands.tag_eq, same]
      rfl

/-- The slot for which a packet stands was lent. -/
theorem lt_length_of_standsFor
    (tallies : Tallies number direction ring lents)
    (arranged : Arranged ring)
    {position : Nat}
    (stands : StandsFor ⟨number⟩ direction ring packet position) :
    position < lents.length := by
  rw [tallies.length_eq]
  cases direction with
  | inbound => exact arranged.lt_read_of_delivered stands.lt_head stands.lent
  | outbound => exact stands.lt_head

/-- Some packet that is out is named exactly if the packet stands for a
slot. -/
theorem exists_isNamedBy_iff
    (tallies : Tallies number direction ring lents)
    (arranged : Arranged ring) :
    (∃ lent ∈ lents, lent.isNamedBy packet = true) ↔
      ∃ position, StandsFor ⟨number⟩ direction ring packet position := by
  constructor
  · rintro ⟨lent, member, named⟩
    obtain ⟨position, found⟩ := List.getElem?_of_mem member
    exact ⟨position, (tallies.isNamedBy_iff arranged found).mp named⟩
  · rintro ⟨position, stands⟩
    have inside := tallies.lt_length_of_standsFor arranged stands
    have found := List.getElem?_eq_getElem inside
    exact ⟨_, List.getElem_mem inside,
      (tallies.isNamedBy_iff arranged found).mpr stands⟩

/-- A packet that stands for no slot gives nothing back. -/
theorem giveBack_of_stray
    (tallies : Tallies number direction ring lents)
    (arranged : Arranged ring)
    (stray : ∀ position, ¬ StandsFor ⟨number⟩ direction ring packet position) :
    giveBack driver direction packet lents = lents := by
  have unnamed := (not_congr (tallies.exists_isNamedBy_iff arranged)).mpr
    (not_exists.mpr stray)
  refine (List.map_congr_left fun lent member => ?_).trans (List.map_id lents)
  exact if_neg fun named => unnamed ⟨lent, member, named⟩

/-- A packet that stands for a slot names what was lent at its position, and
nothing else. -/
theorem isNamedBy_iff_eq
    (tallies : Tallies number direction ring lents)
    (arranged : Arranged ring)
    {position other : Nat}
    (stands : StandsFor ⟨number⟩ direction ring packet position)
    {lent : Lent}
    (found : lents[other]? = some lent) :
    lent.isNamedBy packet = true ↔ other = position := by
  rw [tallies.isNamedBy_iff arranged found]
  constructor
  · intro stands_other
    have places := stands.address_eq.symm.trans stands_other.address_eq
    have head_le := arranged.head_le
    simp only [Address.mk.injEq, Buffer.slot.injEq, true_and,
      and_true] at places
    exact ((PacketRing.place_inj stands.tail_le
      (stands.lt_head.trans_le head_le) stands_other.tail_le
      (stands_other.lt_head.trans_le head_le)).mp places).symm
  · rintro rfl
    exact stands

/-- What was lent at the other positions stays as it was. -/
theorem getElem?_giveBack
    (tallies : Tallies number direction ring lents)
    (arranged : Arranged ring)
    {position other : Nat}
    (stands : StandsFor ⟨number⟩ direction ring packet position)
    {lent : Lent}
    (found : (giveBack driver direction packet lents)[other]? = some lent) :
    ∃ earlier, lents[other]? = some earlier ∧
      lent = if other = position then earlier.close driver direction
        else earlier := by
  rw [giveBack, List.getElem?_map] at found
  obtain ⟨earlier, present, rfl⟩ := Option.map_eq_some_iff.mp found
  refine ⟨earlier, present, ?_⟩
  simp only [tallies.isNamedBy_iff_eq arranged stands present]

/-- A packet whose slot it stands for goes back. -/
theorem changedAt
    (tallies : Tallies number direction ring lents)
    (arranged : Arranged ring)
    {position : Nat}
    (stands : StandsFor ⟨number⟩ direction ring packet position)
    {state : SlotState}
    (returned : state ≠ lentState direction) :
    Tallies number direction
      (ring.changedAt position fun slot => { slot with state })
      (giveBack driver direction packet lents) := by
  have head_le := arranged.head_le
  have count_eq : lentCount direction
      (ring.changedAt position fun slot => { slot with state }) =
        lentCount direction ring := by
    cases direction <;> rfl
  constructor
  case length_eq =>
    rw [giveBack, List.length_map, tallies.length_eq, count_eq]
  case marked =>
    intro other lent found
    obtain ⟨earlier, present, rfl⟩ :=
      tallies.getElem?_giveBack arranged stands found
    have marked := tallies.marked other earlier present
    rw [PacketRing.place_changedAt, PacketRing.takings_eq_of_capacity_eq
      (PacketRing.capacity_changedAt _ _)]
    split
    · rw [Lent.packet_close]
      exact marked
    · exact marked
  case past =>
    intro other lent before found
    obtain ⟨earlier, present, rfl⟩ :=
      tallies.getElem?_giveBack arranged stands found
    split
    · exact Lent.isOut_close _ _ _
    · exact tallies.past other earlier before present
  case present =>
    intro other lent tail_le found
    obtain ⟨earlier, present, rfl⟩ :=
      tallies.getElem?_giveBack arranged stands found
    change ring.tail ≤ other at tail_le
    have lt_head := (tallies.lt_lentCount present).trans_le
      (lentCount_le_head arranged)
    have lt := lt_head.trans_le head_le
    have position_lt := stands.lt_head.trans_le head_le
    obtain ⟨same, out⟩ := tallies.present other earlier tail_le present
    have kept := @packetAt_changedAt ⟨number⟩ ring position direction
      (fun slot => { slot with state }) other
      stands.tail_le position_lt tail_le lt rfl rfl
    rw [kept, PacketRing.slotAt_changedAt _ stands.tail_le position_lt tail_le
      lt]
    split
    case isTrue =>
      rw [Lent.packet_close, Lent.isOut_close]
      exact ⟨same, iff_of_false Bool.false_ne_true returned⟩
    case isFalse => exact ⟨same, out⟩

/-- Reclaiming passes over slots that are not out. -/
theorem reclaim
    (tallies : Tallies number direction ring lents)
    (other : lentState direction ≠ .free) :
    Tallies number direction ring.reclaim lents := by
  have count_eq : lentCount direction ring.reclaim =
      lentCount direction ring := by
    cases direction <;> rfl
  refine tallies.of_same rfl count_eq (fun position beyond before => ?_)
    (Nat.le_add_right _ _) fun position _ _ => ⟨rfl, Iff.rfl⟩
  change position < ring.tail +
    ring.reclaimable ring.tail (ring.read - ring.tail) at before
  have freed := @PacketRing.state_of_lt_reclaimable ring ring.tail
    (ring.read - ring.tail) (position - ring.tail) (by omega)
  rw [Nat.add_sub_cancel' beyond] at freed
  exact freed ▸ Ne.symm other

theorem takenBack
    (tallies : Tallies number direction ring lents)
    (arranged : Arranged ring)
    {position : Nat}
    (stands : StandsFor ⟨number⟩ direction ring packet position) :
    Tallies number direction (takenBack direction ring position)
      (giveBack driver direction packet lents) := by
  cases direction with
  | inbound => exact (tallies.changedAt arranged stands (by decide)).reclaim (by decide)
  | outbound => exact tallies.changedAt arranged stands (by decide)

end Tallies

/-! ## A session with its books -/

/-- The rings of a session are in order and fit its books. -/
structure Accounts
    (number : Nat)
    (entry : RunningSession)
    (books : Books) : Prop where
  /-- The rings are in order. -/
  sound : Sound entry
  /-- What was lent is noted. -/
  tallies : ∀ direction,
    Tallies number direction (MemoryDriver.ring entry direction)
      (books.lents direction)

namespace Accounts

variable
  {entry changed : RunningSession}
  {books after : Books}
  {request : Request}

/-- A session that was just started has lent nothing. -/
theorem started
    {capacity : UInt32}
    (positive : 0 < capacity.toNat)
    (inbound : entry.inbound = .ofCapacity capacity)
    (outbound : entry.outbound = .ofCapacity capacity) :
    Accounts number entry {} where
  sound := .started positive inbound outbound
  tallies := fun direction => by
    cases direction with
    | inbound =>
        change Tallies number .inbound entry.inbound []
        exact inbound ▸ tallies_ofCapacity capacity
    | outbound =>
        change Tallies number .outbound entry.outbound []
        exact outbound ▸ tallies_ofCapacity capacity

/-- A change of one ring leaves what the other one has lent. -/
theorem tallies_with
    (accounts : Accounts number entry books)
    {lents : List Lent}
    (tallies : Tallies number direction ring lents)
    (other : Direction) :
    Tallies number other
      (MemoryDriver.ring (withRing entry direction ring) other)
      ((books.withLents direction lents).lents other) := by
  by_cases same : other = direction
  · subst same
    rwa [ring_withRing, Books.lents_withLents]
  · rw [ring_withRing_of_ne same, Books.lents_withLents_of_ne same]
    exact accounts.tallies other

/-- A packet that is put in is not lent yet. -/
theorem tallies_filled
    (accounts : Accounts number entry books)
    (room : entry.inbound.head < entry.inbound.tail + entry.inbound.capacity)
    (content : Bytes) :
    Tallies number .inbound (entry.inbound.filled content) books.received := by
  have layout := accounts.sound.inbound.toLayout
  refine (accounts.tallies .inbound).of_same
    (PacketRing.capacity_filled content) rfl
    (fun position beyond before => absurd before beyond.not_gt)
    (Nat.le_refl _) fun position tail_le before =>
      unchanged_of_slotAt_eq (PacketRing.capacity_filled content) ?_
  exact PacketRing.slotAt_filled_of_lt layout room content tail_le
    (before.trans_le layout.read_le_head)

/-- A packet that is received is lent. -/
theorem tallies_delivering
    (accounts : Accounts number entry books)
    (waiting : entry.inbound.read < entry.inbound.head)
    (content : Bytes) :
    Tallies number .inbound entry.inbound.delivering
      (books.received ++
        [{ packet := packetAt ⟨number⟩ .inbound entry.inbound.delivering
            entry.inbound.read
           content }]) := by
  have ready := accounts.sound.inbound
  have shows := fun position => @PacketRing.slotAt_delivering _
    ready.toArranged waiting position
  have head_le := ready.head_le
  have read_le := ready.tail_le_read
  refine (accounts.tallies .inbound).lend PacketRing.capacity_delivering rfl rfl
    (ready.delivering waiting).toArranged
    ((accounts.sound.counted .inbound).of_coeval (.delivering _)) ?_ read_le
    (fun position tail_le before =>
      unchanged_of_slotAt_eq PacketRing.capacity_delivering ?_) content
  · exact congrArg Slot.state ((shows entry.inbound.read read_le
      (waiting.trans_le head_le)).trans (if_pos rfl))
  · change position < entry.inbound.read at before
    exact (shows position tail_le ((before.trans waiting).trans_le
      head_le)).trans (if_neg before.ne)

/-- A buffer that is allocated is lent. -/
theorem tallies_grown
    (accounts : Accounts number entry books)
    (room : entry.outbound.head < entry.outbound.tail + entry.outbound.capacity)
    (size : Nat)
    (content : Bytes) :
    Tallies number .outbound (entry.outbound.grown size)
      (books.allocated ++
        [{ packet := packetAt ⟨number⟩ .outbound (entry.outbound.grown size)
            entry.outbound.head
           content }]) := by
  have layout := accounts.sound.outbound
  have shows := fun position => @PacketRing.slotAt_grown _ layout.toArranged
    room size position
  have tail_le_head := layout.tail_le_read.trans layout.read_le_head
  refine (accounts.tallies .outbound).lend (PacketRing.capacity_grown size) rfl
    rfl (layout.grown room size).toArranged
    ((accounts.sound.counted .outbound).grown size) ?_ tail_le_head
    (fun position tail_le before =>
      unchanged_of_slotAt_eq (PacketRing.capacity_grown size) ?_) content
  · exact congrArg Slot.state ((shows entry.outbound.head tail_le_head
      room).trans (if_pos rfl))
  · change position < entry.outbound.head at before
    exact (shows position tail_le (before.trans room)).trans (if_neg before.ne)

/-- What is taken out had been sent. -/
theorem tallies_drain (accounts : Accounts number entry books) :
    Tallies number .outbound
      (entry.outbound.drain (entry.outbound.head - entry.outbound.read)).2
      books.allocated := by
  have layout := accounts.sound.outbound
  have taken := (PacketRing.drain_eq layout accounts.sound.passed rfl).2
  refine (accounts.tallies .outbound).of_same taken.capacity_eq taken.head_eq
    (fun position beyond before => ?_)
    (Nat.le.intro taken.tail_eq.symm) fun position tail_le before =>
      unchanged_of_slotAt_eq taken.capacity_eq
        (taken.slotAt_eq position tail_le (before.trans_eq taken.head_eq.symm))
  change entry.outbound.tail ≤ position at beyond
  rw [taken.tail_eq] at before
  have inside : position - entry.outbound.tail <
    entry.outbound.drainable.length := by omega
  have committed := (PacketRing.getElem?_drainable inside).2
  rw [Nat.add_sub_cancel' beyond] at committed
  change (entry.outbound.slotAt position).state ≠ .allocated
  rw [committed]
  decide

/-- Every turn keeps rings and books together. -/
theorem turn
    (accounts : Accounts number entry books)
    (turn : Turn driver number entry books request changed after) :
    Accounts number changed after := by
  refine ⟨accounts.sound.turn turn, ?_⟩
  cases turn with
  | kept => exact accounts.tallies
  | injected room => exact accounts.tallies_with (accounts.tallies_filled room _)
  | received waiting =>
      exact accounts.tallies_with (accounts.tallies_delivering waiting _)
  | allocated room =>
      exact accounts.tallies_with (accounts.tallies_grown room _ _)
  | @takenBack direction _ _ stands =>
      exact accounts.tallies_with ((accounts.tallies direction).takenBack
        (accounts.sound.arranged direction) stands)
  | @refused direction packet stray =>
      have kept := accounts.tallies_with (accounts.tallies direction)
      rwa [withRing_ring, ← (accounts.tallies direction).giveBack_of_stray
        (accounts.sound.arranged direction) stray] at kept
  | drained => exact accounts.tallies_with accounts.tallies_drain
  | @written _ _ index _ bytes direction _ length =>
      have kept := accounts.tallies_with
        ((accounts.tallies direction).poke index length)
      rwa [Books.withLents_lents] at kept

end Accounts

/-! ## Whole runs -/

/-- From its start on, a session has rings and books that fit. -/
theorem life_accounts
    (version : DriverVersion)
    (slotBudget : Option Nat)
    (requests : List Request)
    (number : Nat) :
    Life (Accounts number) ((fresh version slotBudget).serveAll requests) number
      (Books.ofRun version slotBudget requests number) :=
  Life.ofRun
    (fun _ _ accounts => accounts.sound)
    (fun _ _ positive inbound outbound => .started positive inbound outbound)
    (fun _ _ _ _ _ _ (_ : True) _ accounts turn => accounts.turn turn)
    version slotBudget requests fun _ _ _ _ => trivial

/-- A packet that is handed back is taken: nothing is noted against it. -/
def Accepts
    (driver : MemoryDriver)
    (direction : Direction)
    (session : SessionHandle)
    (packet : RawPacket) : Prop :=
  (driver.serve (.handBack direction session packet)).violations =
    driver.violations

instance (driver : MemoryDriver) (direction : Direction)
    (session : SessionHandle) (packet : RawPacket) :
    Decidable (Accepts driver direction session packet) :=
  inferInstanceAs (Decidable (_ = _))

/-- A session takes exactly the packets that its ring does; every other one is
noted as one violation. -/
theorem accepts_iff
    (driver : MemoryDriver)
    (direction : Direction)
    (session : SessionHandle)
    (packet : RawPacket) :
    (Accepts driver direction session packet ↔
      ∃ entry changed, driver.sessions.get? session.number = some entry ∧
        accept direction session packet entry = .ok changed) ∧
    (¬ Accepts driver direction session packet →
      ∃ detail, driver.serve (.handBack direction session packet) =
        { driver with
          violations :=
            driver.violations ++ [⟨handBackName direction, detail⟩] }) := by
  by_cases taken : ∃ entry changed,
      driver.sessions.get? session.number = some entry ∧
        accept direction session packet entry = .ok changed
  · obtain ⟨entry, changed, found, accepted⟩ := taken
    have accepts : Accepts driver direction session packet := by
      rw [Accepts, serve_handBack_of_accepted found accepted]
      rfl
    exact ⟨iff_of_true accepts ⟨entry, changed, found, accepted⟩,
      fun refused => absurd accepts refused⟩
  · obtain ⟨detail, noted⟩ := @serve_handBack_of_refused driver session direction
      packet fun entry changed found accepted =>
        taken ⟨entry, changed, found, accepted⟩
    have refused : ¬ Accepts driver direction session packet := by
      rw [Accepts, noted]
      simp
    exact ⟨iff_of_false refused taken, fun _ => ⟨detail, noted⟩⟩

/-- After any requests to a new driver, a session takes exactly the packets
that it has lent and that are out. -/
theorem accepts_iff_isNamedBy
    (version : DriverVersion)
    (slotBudget : Option Nat)
    (requests : List Request)
    (direction : Direction)
    (session : SessionHandle)
    (packet : RawPacket) :
    Accepts ((fresh version slotBudget).serveAll requests) direction session
        packet ↔
      (((fresh version slotBudget).serveAll requests).sessions.get?
          session.number).isSome ∧
        ∃ lent ∈ (Books.ofRun version slotBudget requests
            session.number).lents direction,
          lent.isNamedBy packet = true := by
  have life := life_accounts version slotBudget requests session.number
  rw [(accepts_iff _ direction session packet).1]
  constructor
  · rintro ⟨entry, changed, found, accepted⟩
    have accounts := life.of_running found
    have arranged := accounts.sound.arranged direction
    obtain ⟨position, stands, _⟩ := (accept_eq_ok_iff arranged).mp accepted
    exact ⟨Option.isSome_iff_exists.mpr ⟨entry, found⟩,
      ((accounts.tallies direction).exists_isNamedBy_iff arranged).mpr
        ⟨position, stands⟩⟩
  · rintro ⟨runs, named⟩
    obtain ⟨entry, found⟩ := Option.isSome_iff_exists.mp runs
    have accounts := life.of_running found
    have arranged := accounts.sound.arranged direction
    obtain ⟨position, stands⟩ :=
      ((accounts.tallies direction).exists_isNamedBy_iff arranged).mp named
    exact ⟨entry, _, found, (accept_eq_ok_iff arranged).mpr
      ⟨position, stands, rfl⟩⟩

/-! ## Mistaking an old packet for a new one -/

namespace Tallies

/-- A slot was lent as often as its address was given out. -/
theorem countP_take_eq
    (tallies : Tallies number direction ring lents)
    (index : Nat)
    {stop : Nat}
    (inside : stop ≤ lents.length) :
    (lents.take stop).countP (fun lent =>
        lent.packet.address = ⟨.slot number direction index, 0⟩) =
      ring.takings index stop := by
  induction stop with
  | zero => simp
  | succ stop hypothesis =>
      have found := List.getElem?_eq_getElem (Nat.lt_of_succ_le inside)
      have address := (tallies.marked stop _ found).1
      rw [List.take_add_one, found, List.countP_append,
        hypothesis (Nat.le_of_succ_le inside), PacketRing.takings_succ]
      simp [address]

/-- When two packets bear one tag and one address, the slot was lent anew often
enough for the tag to come round. -/
theorem le_countP_of_same
    (tallies : Tallies number direction ring lents)
    {first start second : Nat}
    {former latter : Lent}
    (found_first : lents[first]? = some former)
    (found_second : lents[second]? = some latter)
    (tag : former.packet.tag = latter.packet.tag)
    (address : former.packet.address = latter.packet.address)
    (after : first < start)
    (before : start ≤ second)
    (apart : ∀ other lent, first < other → other < start →
      lents[other]? = some lent →
        lent.packet.address ≠ former.packet.address) :
    2 ^ 32 ≤ (lents.drop start).countP fun lent =>
      lent.packet.address = former.packet.address := by
  obtain ⟨place_first, tag_first⟩ := tallies.marked first former found_first
  obtain ⟨place_second, tag_second⟩ :=
    tallies.marked second latter found_second
  have inside := (List.getElem?_eq_some_iff.mp found_second).1
  have places : ring.place second = ring.place first := by
    have := place_second.symm.trans (address.symm.trans place_first)
    simpa using this
  let lendings := ring.takings (ring.place first)
  -- Equal tags mean that both numbers are the same in 32 bits.
  have generations : UInt32.ofNat (lendings (first + 1)) =
      UInt32.ofNat (lendings (second + 1)) := by
    have tags := congrArg SlotHandle.ofTag
      (tag_first.symm.trans (tag.trans tag_second))
    rw [SlotHandle.ofTag_toTag, SlotHandle.ofTag_toTag, places] at tags
    exact congrArg SlotHandle.generation tags
  have unused : lendings start = lendings (first + 1) := by
    refine PacketRing.takings_eq_of_ne after fun other beyond earlier same => ?_
    have found := List.getElem?_eq_getElem (earlier.trans_le before |>.trans inside)
    refine apart other _ beyond earlier found ?_
    rw [(tallies.marked other _ found).1, same, place_first]
  have later : lendings (second + 1) = lendings second + 1 := by
    change ring.takings _ _ = _
    rw [PacketRing.takings_succ, if_pos places]
  have grown : lendings start ≤ lendings second :=
    PacketRing.takings_mono _ before
  have round : 2 ^ 32 ≤ lendings (second + 1) - lendings start := by
    have remainders := congrArg UInt32.toNat generations
    rw [UInt32.toNat_ofNat', UInt32.toNat_ofNat', ← unused] at remainders
    omega
  have total : lendings (second + 1) ≤ lendings lents.length :=
    PacketRing.takings_mono _ inside
  have whole : _ = lendings lents.length :=
    tallies.countP_take_eq (ring.place first) (Nat.le_refl _)
  have part : _ = lendings start :=
    tallies.countP_take_eq (ring.place first) (before.trans inside.le)
  rw [List.take_length, ← List.take_append_drop start lents,
    List.countP_append, part, List.take_append_drop] at whole
  rw [place_first]
  omega

/-- Among the packets of a ring, one that is out shares its address with none
that was lent later. -/
theorem address_ne_of_lt
    (tallies : Tallies number direction ring lents)
    (arranged : Arranged ring)
    {position other : Nat}
    {lent beside : Lent}
    (found : lents[position]? = some lent)
    (out : lent.isOut = true)
    (found_other : lents[other]? = some beside)
    (after : position < other) :
    beside.packet.address ≠ lent.packet.address := by
  intro same
  rw [(tallies.marked other beside found_other).1,
    (tallies.marked position lent found).1] at same
  have tail_le : ring.tail ≤ position := by
    by_contra before
    have := tallies.past position lent (by omega) found
    cases out.symm.trans this
  have lt_head := (tallies.lt_lentCount found_other).trans_le
    (lentCount_le_head arranged)
  have head_le := arranged.head_le
  simp only [Address.mk.injEq, Buffer.slot.injEq, true_and, and_true] at same
  have := (@PacketRing.place_inj ring ring.tail _ _ (by omega) (by omega)
    tail_le (by omega)).mp same
  omega

end Tallies

/-- A session that takes a packet has lent it, in this direction. -/
theorem address_of_accepts
    {version : DriverVersion}
    {slotBudget : Option Nat}
    {requests : List Request}
    {session : SessionHandle}
    (accepts : Accepts ((fresh version slotBudget).serveAll requests) direction
      session packet) :
    ∃ index, packet.address = ⟨.slot session.number direction index, 0⟩ := by
  obtain ⟨entry, changed, found, accepted⟩ := (accepts_iff _ _ _ _).1.mp accepts
  have arranged := ((life_accounts version slotBudget requests
    session.number).of_running found).sound.arranged direction
  obtain ⟨position, stands, _⟩ := (accept_eq_ok_iff arranged).mp accepted
  exact ⟨_, stands.address_eq⟩

/-- A packet that a session took is taken again only by the same session, in
the same direction, and after its slot was lent `2 ^ 32` times. -/
theorem le_countP_of_accepts_again
    {version : DriverVersion}
    {slotBudget : Option Nat}
    {requests later : List Request}
    {session : SessionHandle}
    (first : Accepts ((fresh version slotBudget).serveAll requests) direction
      session packet)
    (again : Accepts ((fresh version slotBudget).serveAll
      (requests ++ .handBack direction session packet :: later)) direction
        session packet) :
    let lents (run : List Request) :=
      (Books.ofRun version slotBudget run session.number).lents direction
    2 ^ 32 ≤ ((lents (requests ++ .handBack direction session packet ::
        later)).drop (lents requests).length).countP fun lent =>
      lent.packet.address = packet.address := by
  intro lents
  have mark := accepts_iff_isNamedBy version slotBudget
  obtain ⟨runs, former, member, named⟩ :=
    (mark requests direction session packet).mp first
  obtain ⟨present, latter, member_latter, named_latter⟩ :=
    (mark _ direction session packet).mp again
  obtain ⟨position, found⟩ := List.getElem?_of_mem member
  obtain ⟨place, found_latter⟩ := List.getElem?_of_mem member_latter
  -- Nothing that was lent before the packet went back is named by it again.
  have extend := Books.extends_ofRun_handBack runs direction packet later
  have new : (lents requests).length ≤ place := by
    by_contra before
    obtain ⟨after, shown, _, unnamed⟩ :=
      extend.unnamed (List.getElem?_eq_getElem (Nat.lt_of_not_le before))
    obtain rfl := Option.some.inj (found_latter.symm.trans shown)
    cases named_latter.symm.trans unnamed
  obtain ⟨after, shown, same, _⟩ := extend.unnamed found
  obtain ⟨out, tag, address⟩ := Lent.isNamedBy_iff.mp named
  obtain ⟨_, tag_latter, address_latter⟩ := Lent.isNamedBy_iff.mp named_latter
  obtain ⟨entry, running⟩ := Option.isSome_iff_exists.mp runs
  obtain ⟨entry_later, running_later⟩ := Option.isSome_iff_exists.mp present
  have accounts :=
    (life_accounts version slotBudget requests session.number).of_running running
  have tallies := ((life_accounts version slotBudget _
    session.number).of_running running_later).tallies direction
  have round := tallies.le_countP_of_same shown found_latter
    (by rw [same, tag, tag_latter]) (by rw [same, address, address_latter])
    (List.getElem?_eq_some_iff.mp found).1 new
    fun other lent beyond before known => by
      have earlier := List.getElem?_eq_getElem before
      obtain ⟨still, shown, kept, _⟩ := extend.unnamed earlier
      obtain rfl := Option.some.inj (known.symm.trans shown)
      rw [kept, same]
      exact (accounts.tallies direction).address_ne_of_lt
        (accounts.sound.arranged direction) found out earlier beyond
  rwa [same, address] at round

/-- After any requests to a new driver, a packet of any kind that is handed to
any session is taken exactly if this session has lent a packet with its tag and
its address, in this direction, that is still out; otherwise one violation is
noted and nothing else changes.  A packet that was taken is taken again only by
the same session and in the same direction, and only after its slot was lent
`2 ^ 32` times in between. -/
theorem takes_what_is_out
    (version : DriverVersion)
    (slotBudget : Option Nat)
    (requests : List Request)
    (direction : Direction)
    (session : SessionHandle)
    (packet : RawPacket) :
    let driver := (fresh version slotBudget).serveAll requests
    let handBack : Request := .handBack direction session packet
    let lents (run : List Request) :=
      (Books.ofRun version slotBudget run session.number).lents direction
    (Accepts driver direction session packet ↔
      (driver.sessions.get? session.number).isSome ∧
        ∃ lent ∈ lents requests, lent.isNamedBy packet = true) ∧
    (¬ Accepts driver direction session packet →
      ∃ detail, driver.serve handBack =
        { driver with
          violations :=
            driver.violations ++ [⟨handBackName direction, detail⟩] }) ∧
    (Accepts driver direction session packet →
      (∀ way other, Accepts driver way other packet →
        way = direction ∧ other = session) ∧
      ∀ later way other,
        Accepts ((fresh version slotBudget).serveAll
          (requests ++ handBack :: later)) way other packet →
          way = direction ∧ other = session ∧
            2 ^ 32 ≤ ((lents (requests ++ handBack :: later)).drop
              (lents requests).length).countP fun lent =>
                lent.packet.address = packet.address) := by
  intro driver handBack lents
  refine ⟨accepts_iff_isNamedBy version slotBudget requests direction session
    packet, (accepts_iff driver direction session packet).2, fun first => ?_⟩
  obtain ⟨index, here⟩ := address_of_accepts first
  -- An address lies in one ring of one session.
  have own : ∀ run way other,
      Accepts ((fresh version slotBudget).serveAll run) way other packet →
        way = direction ∧ other = session := by
    intro run way other again
    obtain ⟨place, there⟩ := address_of_accepts again
    rw [here, Address.mk.injEq, Buffer.slot.injEq] at there
    exact ⟨there.1.2.1.symm, congrArg SessionHandle.mk there.1.1.symm⟩
  refine ⟨own requests, fun later way other again => ?_⟩
  obtain ⟨rfl, rfl⟩ := own _ way other again
  exact ⟨rfl, rfl, le_countP_of_accepts_again first again⟩

/-- A packet is received from one of two sessions: it goes back to that one
only, as a received packet only, with its own tag only, and once. -/
theorem takes_what_is_out_of_two_sessions :
    let requests : List Request :=
      [.createAdapter "x" "t" none, .createAdapter "y" "t" none,
        .startSession ⟨2⟩ 4, .startSession ⟨4⟩ 4, .inject "X" [1, 2],
        .inject "y" [3, 4], .receivePacket ⟨5⟩, .receivePacket ⟨6⟩]
    let packet : RawPacket := ⟨⟨.slot 5 .inbound 0, 0⟩, 2, 0x100000000⟩
    let driver := (fresh defaultVersion none).serveAll requests
    let handBack : Request := .handBack .inbound ⟨5⟩ packet
    let last := driver.serve handBack
    Accepts driver .inbound ⟨5⟩ packet ∧
      ¬ Accepts driver .outbound ⟨5⟩ packet ∧
      ¬ Accepts driver .inbound ⟨6⟩ packet ∧
      ¬ Accepts driver .inbound ⟨5⟩ (packet.withTag 0) ∧
      ¬ Accepts last .inbound ⟨5⟩ packet ∧
      ∃ detail, last.serve handBack =
        { last with
          violations :=
            last.violations ++ [⟨"release_receive_packet", detail⟩] } := by
  intro requests packet driver handBack last
  obtain ⟨taken, _, once⟩ := takes_what_is_out defaultVersion none requests
    .inbound ⟨5⟩ packet
  have first : Accepts driver .inbound ⟨5⟩ packet :=
    taken.mpr ⟨by decide +kernel, by decide +kernel⟩
  obtain ⟨own, _⟩ := once first
  obtain ⟨_, refused, _⟩ := takes_what_is_out defaultVersion none
    (requests ++ [handBack]) .inbound ⟨5⟩ packet
  have again : ¬ Accepts last .inbound ⟨5⟩ packet := by decide +kernel
  refine ⟨first, fun accepts => ?_, fun accepts => ?_, by decide +kernel, again,
    refused again⟩
  · cases (own _ _ accepts).1
  · cases (own _ _ accepts).2

end MemoryDriver
end Memory
end VirtualAdapter

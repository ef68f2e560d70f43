import VirtualAdapter.Proofs.Memory.Loans

/-!
# What goes in comes out

What was put in for a session waits in its inbound ring until it is received,
and what was sent waits in its outbound ring until it is taken out.  Neither
names nor other sessions, failures, restarts or packets that are handed back
wrongly change what waits; only a write to the bytes of a waiting packet could.
-/

namespace VirtualAdapter
namespace Memory

/-- The contents of the allocated buffers up to the first one that was not
sent. -/
def Books.sent (books : Books) : List Bytes :=
  (books.allocated.takeWhile fun lent => !lent.isOut).map (·.content)

namespace MemoryDriver

open VirtualAdapter.Ring (PacketRing Slot SlotState)
open VirtualAdapter.Ring.PacketRing (Arranged Layout Ready)

/-- A request overwrites bytes of a packet that waits: it was put in or sent,
and nobody holds it. -/
def disturbs (driver : MemoryDriver) : Request → Bool
  | .writePacket packet _ _ =>
      match packet.address.buffer with
      | .numbered _ => false
      | .slot number direction index =>
          (driver.sessions.get? number).any fun entry =>
            ((ring entry direction).slot index).state = .committed
  | _ => false

/-- No request of a run overwrites bytes of a packet that waits. -/
def undisturbed (driver : MemoryDriver) : List Request → Bool
  | [] => true
  | request :: requests =>
      !driver.disturbs request && undisturbed (driver.serve request) requests

/-- What was put in for a session: the first contents were received, the others
stand in the ring. -/
structure Arrives
    (ring : PacketRing)
    (accepted : List Bytes)
    (received : List Lent) : Prop where
  /-- Every slot was allocated for a content. -/
  length_eq : accepted.length = ring.head
  /-- The contents that were not received are in their slots. -/
  waiting : ∀ (position : Nat) (content : Bytes), ring.read ≤ position →
    accepted[position]? = some content →
      (ring.slotAt position).buffer = content
  /-- The others were received as they were put in. -/
  received_eq : received.map (·.content) = accepted.take ring.read

/-- What was allocated on a session: the first buffers were taken out, the
others are in the ring. -/
structure Departs
    (ring : PacketRing)
    (allocated : List Lent)
    (drained : List Bytes) : Prop where
  /-- The first buffers were taken out as they were sent. -/
  drained_eq : drained = (allocated.take ring.tail).map (·.content)
  /-- Those that were sent and not taken out are in their slots. -/
  sent : ∀ (position : Nat) (lent : Lent), ring.tail ≤ position →
    allocated[position]? = some lent → lent.isOut = false →
      (ring.slotAt position).buffer = lent.content

variable
  {driver : MemoryDriver}
  {number : Nat}
  {ring next : PacketRing}
  {accepted : List Bytes}
  {received allocated : List Lent}
  {drained : List Bytes}
  {packet : RawPacket}

/-! ## Inbound -/

theorem arrives_ofCapacity (capacity : UInt32) :
    Arrives (.ofCapacity capacity) [] [] where
  length_eq := rfl
  waiting := fun _ _ _ present => by simp at present
  received_eq := rfl

/-- Packets do not change their contents by coming back as received ones. -/
theorem map_content_giveBack (received : List Lent) :
    (giveBack driver .inbound packet received).map (·.content) =
      received.map (·.content) := by
  rw [giveBack, List.map_map]
  refine List.map_congr_left fun lent _ => ?_
  dsimp only [Function.comp_apply]
  split <;> rfl

namespace Arrives

/-- Contents arrive as before in a ring where the waiting slots hold the
same. -/
theorem of_same
    (arrives : Arrives ring accepted received)
    (head_eq : next.head = ring.head)
    (read_eq : next.read = ring.read)
    (kept : ∀ position, ring.read ≤ position → position < ring.head →
      (next.slotAt position).buffer = (ring.slotAt position).buffer)
    {others : List Lent}
    (contents : others.map (·.content) = received.map (·.content)) :
    Arrives next accepted others where
  length_eq := arrives.length_eq.trans head_eq.symm
  waiting := fun position content beyond found => by
    rw [read_eq] at beyond
    have inside := (List.getElem?_eq_some_iff.mp found).1
    rw [kept position beyond (inside.trans_eq arrives.length_eq)]
    exact arrives.waiting position content beyond found
  received_eq := by
    rw [contents, read_eq]
    exact arrives.received_eq

theorem filled
    (arrives : Arrives ring accepted received)
    (layout : Layout ring)
    (room : ring.head < ring.tail + ring.capacity)
    (content : Bytes) :
    Arrives (ring.filled content) (accepted ++ [content]) received where
  length_eq := by
    rw [List.length_append, arrives.length_eq]
    rfl
  waiting := fun position found beyond present => by
    change ring.read ≤ position at beyond
    rcases cases_of_getElem?_concat present with
      ⟨earlier, inside⟩ | ⟨last, rfl⟩
    · rw [PacketRing.slotAt_filled_of_lt layout room content
        (layout.tail_le_read.trans beyond)
        (inside.trans_eq arrives.length_eq)]
      exact arrives.waiting position found beyond earlier
    · rw [last, arrives.length_eq]
      exact PacketRing.buffer_slotAt_filled_head layout room found
  received_eq := by
    have read_le : ring.read ≤ accepted.length :=
      arrives.length_eq ▸ layout.read_le_head
    change _ = (accepted ++ [content]).take ring.read
    rw [List.take_append_of_le_length read_le]
    exact arrives.received_eq

theorem delivering
    (arrives : Arrives ring accepted received)
    (arranged : Arranged ring)
    (waiting : ring.read < ring.head)
    (packet : RawPacket) :
    Arrives ring.delivering accepted
      (received ++
        [{ packet, content := (ring.slotAt ring.read).buffer }]) where
  length_eq := arrives.length_eq
  waiting := fun position content beyond found => by
    change ring.read + 1 ≤ position at beyond
    have inside := (List.getElem?_eq_some_iff.mp found).1
    have head_le := arranged.head_le
    have tail_le := arranged.tail_le_read
    rw [arrives.length_eq] at inside
    rw [PacketRing.slotAt_delivering arranged waiting (by omega) (by omega),
      if_neg (by omega)]
    exact arrives.waiting position content (by omega) found
  received_eq := by
    have inside : ring.read < accepted.length := arrives.length_eq ▸ waiting
    have found := List.getElem?_eq_getElem inside
    have held := arrives.waiting ring.read _ (Nat.le_refl _) found
    change _ = accepted.take (ring.read + 1)
    rw [List.map_append, arrives.received_eq, List.take_add_one, found, ← held]
    rfl

theorem takenBack
    (arrives : Arrives ring accepted received)
    (arranged : Arranged ring)
    {position : Nat}
    (stands : StandsFor ⟨number⟩ .inbound ring packet position) :
    Arrives (takenBack .inbound ring position) accepted
      (giveBack driver .inbound packet received) := by
  have before := arranged.lt_read_of_delivered stands.lt_head stands.lent
  have head_le := arranged.head_le
  have tail_le := arranged.tail_le_read
  have tail_le_position := stands.tail_le
  have head_eq : (MemoryDriver.takenBack .inbound ring position).head =
      ring.head := rfl
  refine arrives.of_same head_eq rfl (fun other beyond inside => ?_)
    (map_content_giveBack received)
  change ((ring.changedAt position fun slot =>
    { slot with state := .free }).slotAt other).buffer = _
  rw [PacketRing.slotAt_changedAt _ tail_le_position (by omega) (by omega)
    (by omega), if_neg (by omega)]

end Arrives

/-! ## Outbound -/

theorem departs_ofCapacity (capacity : UInt32) :
    Departs (.ofCapacity capacity) [] [] where
  drained_eq := rfl
  sent := fun _ _ _ present => by simp at present

namespace Departs

theorem grown
    (departs : Departs ring allocated drained)
    (tallies : Tallies number .outbound ring allocated)
    (arranged : Arranged ring)
    (room : ring.head < ring.tail + ring.capacity)
    (size : Nat)
    (packet : RawPacket)
    (content : Bytes) :
    Departs (ring.grown size) (allocated ++ [⟨packet, content, true⟩]) drained where
  drained_eq := by
    have tail_le : ring.tail ≤ allocated.length := by
      rw [tallies.length_eq]
      exact tail_le_lentCount arranged
    exact departs.drained_eq.trans
      (congrArg (List.map Lent.content)
        (List.take_append_of_le_length tail_le).symm)
  sent := fun position lent beyond found back => by
    rcases cases_of_getElem?_concat found with ⟨earlier, inside⟩ | ⟨_, rfl⟩
    · rw [tallies.length_eq] at inside
      change position < ring.head at inside
      rw [PacketRing.slotAt_grown arranged room size beyond (by omega),
        if_neg inside.ne]
      exact departs.sent position lent beyond earlier back
    · cases back

/-- A buffer that is sent holds what it held by then. -/
theorem takenBack
    (departs : Departs ring allocated drained)
    (tallies : Tallies number .outbound ring allocated)
    (arranged : Arranged ring)
    {position : Nat}
    (stands : StandsFor ⟨number⟩ .outbound ring packet position)
    (holds : readPacket (packetAt ⟨number⟩ .outbound ring position) driver =
      (ring.slotAt position).buffer) :
    Departs (takenBack .outbound ring position)
      (giveBack driver .outbound packet allocated) drained where
  drained_eq := by
    have kept : (giveBack driver .outbound packet allocated).take ring.tail =
        allocated.take ring.tail := by
      rw [giveBack, ← List.map_take]
      refine (List.map_congr_left fun lent member => ?_).trans (List.map_id _)
      obtain ⟨index, found⟩ := List.getElem?_of_mem member
      rw [List.getElem?_take] at found
      split at found
      case isFalse => cases found
      case isTrue before =>
        have back := tallies.past index lent before found
        exact if_neg (by simp [Lent.isNamedBy, back])
    change _ = ((giveBack driver .outbound packet allocated).take ring.tail).map _
    rw [kept]
    exact departs.drained_eq
  sent := fun other lent beyond found back => by
    change ring.tail ≤ other at beyond
    obtain ⟨earlier, present, rfl⟩ :=
      tallies.getElem?_giveBack arranged stands found
    have head_le := arranged.head_le
    have inside := tallies.lt_lentCount present
    change other < ring.head at inside
    have position_lt := stands.lt_head
    change ((ring.changedAt position fun slot =>
      { slot with state := .committed }).slotAt other).buffer = _
    rw [PacketRing.slotAt_changedAt _ stands.tail_le (by omega) beyond
      (by omega)]
    split
    case isTrue same =>
      subst same
      have packet_eq := (tallies.present other earlier beyond present).1
      rw [← holds, ← packet_eq]
      rfl
    case isFalse differs =>
      rw [if_neg differs] at back
      exact departs.sent other earlier beyond present back

/-- What is taken out was sent. -/
theorem drain
    (departs : Departs ring allocated drained)
    (tallies : Tallies number .outbound ring allocated)
    (layout : Layout ring)
    (passed : ring.read = ring.tail) :
    Departs (ring.drain (ring.head - ring.read)).2 allocated
      (drained ++ (ring.drain (ring.head - ring.read)).1) := by
  obtain ⟨values, taken⟩ := PacketRing.drain_eq layout passed rfl
  have entries : ∀ index, index < ring.drainable.length →
      ∃ lent, allocated[ring.tail + index]? = some lent ∧
        lent.isOut = false ∧
        ring.drainable[index]? = some (lent.content, .committed) := by
    intro index inside
    obtain ⟨shown, committed⟩ := PacketRing.getElem?_drainable inside
    have bound := taken.layout.tail_le_read.trans taken.layout.read_le_head
    rw [taken.tail_eq, taken.head_eq] at bound
    have allocated_before : ring.tail + index < allocated.length := by
      rw [tallies.length_eq]
      change _ < ring.head
      omega
    have found := List.getElem?_eq_getElem allocated_before
    have out := (tallies.present _ _ (Nat.le_add_right _ _) found).2
    have back : (allocated[ring.tail + index]).isOut = false := by
      rw [Bool.eq_false_iff, ne_eq, out, committed]
      decide
    refine ⟨_, found, back, ?_⟩
    rw [shown, Slot.shown, committed,
      departs.sent _ _ (Nat.le_add_right _ _) found back]
  constructor
  case drained_eq =>
    have more : ((allocated.drop ring.tail).take ring.drainable.length).map
        (·.content) = ring.drainable.map (·.1) := by
      refine List.ext_getElem? fun index => ?_
      rw [List.getElem?_map, List.getElem?_map, List.getElem?_take,
        List.getElem?_drop]
      split
      case isTrue inside =>
        obtain ⟨lent, found, _, shown⟩ := entries index inside
        rw [found, shown]
        rfl
      case isFalse outside =>
        rw [List.getElem?_eq_none (by omega)]
        rfl
    rw [taken.tail_eq, List.take_add, List.map_append, more, values,
      departs.drained_eq]
  case sent =>
    intro position lent beyond found back
    have inside := tallies.lt_lentCount found
    rw [taken.slotAt_eq position beyond (inside.trans_eq taken.head_eq.symm)]
    rw [taken.tail_eq] at beyond
    exact departs.sent position lent (by omega) found back

end Departs

/-! ## A session with what goes through it -/

/-- Rings and books fit, and what is under way stands in the rings. -/
structure Carries
    (number : Nat)
    (entry : RunningSession)
    (books : Books) : Prop extends Accounts number entry books where
  /-- What was put in and not received waits in the inbound ring. -/
  arrives : Arrives entry.inbound books.accepted books.received
  /-- What was sent and not taken out waits in the outbound ring. -/
  departs : Departs entry.outbound books.allocated books.drained

/-- A write shows in the slot at which it aims only. -/
theorem slotAt_poke_of_ne
    {index position : Nat}
    (elsewhere : ring.place position ≠ index)
    (bytes : Bytes) :
    (ring.poke index bytes).slotAt position = ring.slotAt position := by
  unfold PacketRing.poke PacketRing.slotAt
  rw [PacketRing.place_setSlot, PacketRing.slot_setSlot,
    if_neg fun here => elsewhere here.1]

/-- A write into a slot that does not wait shows at no position that does. -/
theorem slotAt_poke_of_waiting
    {index position : Nat}
    (idle : (ring.slot index).state ≠ .committed)
    (waits : (ring.slotAt position).state = .committed)
    (bytes : Bytes) :
    (ring.poke index bytes).slotAt position = ring.slotAt position := by
  refine slotAt_poke_of_ne (fun here => idle ?_) bytes
  rw [← here]
  exact waits

theorem Arrives.poke
    (arrives : Arrives ring accepted received)
    (ready : Ready ring)
    {index : Nat}
    (idle : (ring.slot index).state ≠ .committed)
    (bytes : Bytes) : Arrives (ring.poke index bytes) accepted received := by
  have head_eq : (ring.poke index bytes).head = ring.head := rfl
  refine arrives.of_same head_eq rfl (fun position beyond inside => ?_) rfl
  rw [slotAt_poke_of_waiting idle (ready.waiting position beyond inside)]

theorem Departs.poke
    (departs : Departs ring allocated drained)
    (tallies : Tallies number .outbound ring allocated)
    (arranged : Arranged ring)
    (passed : ring.read = ring.tail)
    {index : Nat}
    (idle : (ring.slot index).state ≠ .committed)
    (bytes : Bytes) : Departs (ring.poke index bytes) allocated drained where
  drained_eq := departs.drained_eq
  sent := fun position lent beyond found back => by
    change ring.tail ≤ position at beyond
    -- A buffer that was sent and not taken out is committed.
    have inside := tallies.lt_lentCount found
    have unlent : (ring.slotAt position).state ≠ .allocated := fun state => by
      have out := (tallies.present position lent beyond found).2.mpr state
      cases back.symm.trans out
    have waits := (arranged.pending position (passed ▸ beyond)
      inside).resolve_left unlent
    rw [slotAt_poke_of_waiting idle waits]
    exact departs.sent position lent beyond found back

namespace Carries

variable
  {entry changed : RunningSession}
  {books after : Books}
  {request : Request}

/-- Nothing is under way in a session that was just started. -/
theorem started
    {capacity : UInt32}
    (positive : 0 < capacity.toNat)
    (inbound : entry.inbound = .ofCapacity capacity)
    (outbound : entry.outbound = .ofCapacity capacity) :
    Carries number entry {} where
  toAccounts := .started positive inbound outbound
  arrives := inbound ▸ arrives_ofCapacity capacity
  departs := outbound ▸ departs_ofCapacity capacity

/-- Every turn keeps what is under way, unless it writes over it. -/
theorem turn
    (carries : Carries number entry books)
    (found : driver.sessions.get? number = some entry)
    (quiet : driver.disturbs request = false)
    (turn : Turn driver number entry books request changed after) :
    Carries number changed after := by
  have accounts := carries.toAccounts.turn turn
  have sound := carries.sound
  have arrives := carries.arrives
  have departs := carries.departs
  have tallies := carries.tallies .outbound
  cases turn with
  | kept => exact ⟨accounts, arrives, departs⟩
  | injected room =>
      exact ⟨accounts, arrives.filled sound.inbound.toLayout room _, departs⟩
  | received waiting =>
      exact ⟨accounts, arrives.delivering sound.inbound.toArranged waiting _,
        departs⟩
  | allocated room =>
      exact ⟨accounts, arrives,
        departs.grown tallies sound.outbound.toArranged room _ _ _⟩
  | @takenBack direction _ position stands =>
      cases direction with
      | inbound =>
          exact ⟨accounts, arrives.takenBack sound.inbound.toArranged stands,
            departs⟩
      | outbound =>
          have holds : readPacket (packetAt ⟨number⟩ .outbound entry.outbound
              position) driver = (entry.outbound.slotAt position).buffer :=
            readPacket_packetAt found (sound.arranged .outbound) position
          exact ⟨accounts, arrives,
            departs.takenBack tallies sound.outbound.toArranged stands holds⟩
  | @refused direction packet stray =>
      have same : giveBack driver direction packet (books.lents direction) =
          books.lents direction :=
        (carries.tallies direction).giveBack_of_stray (sound.arranged direction)
          stray
      rw [same, Books.withLents_lents]
      exact carries
  | drained =>
      exact ⟨accounts, arrives,
        departs.drain tallies sound.outbound sound.passed⟩
  | @written _ _ index _ bytes direction aimed =>
      simp only [disturbs, aimed, found, Option.any_some,
        decide_eq_false_iff_not] at quiet
      cases direction with
      | inbound =>
          exact ⟨accounts, arrives.poke sound.inbound quiet bytes, departs⟩
      | outbound =>
          exact ⟨accounts, arrives,
            departs.poke tallies sound.outbound.toArranged sound.passed quiet
              bytes⟩

/-- What was received was put in first. -/
theorem received_prefix (carries : Carries number entry books) :
    books.received.map (·.content) <+: books.accepted := by
  rw [carries.arrives.received_eq]
  exact List.take_prefix _ _

/-- What was taken out of the ring was sent. -/
theorem back_of_mem_take
    (carries : Carries number entry books)
    {lent : Lent}
    (member : lent ∈ books.allocated.take entry.outbound.tail) :
    (!lent.isOut) = true := by
  obtain ⟨index, found⟩ := List.getElem?_of_mem member
  rw [List.getElem?_take] at found
  split at found
  case isFalse => cases found
  case isTrue before =>
    rw [(carries.tallies .outbound).past index lent before found]
    rfl

/-- What was sent in a row starts with what was taken out. -/
theorem sent_eq (carries : Carries number entry books) :
    books.sent = books.drained ++
      ((books.allocated.drop entry.outbound.tail).takeWhile
        fun lent => !lent.isOut).map (·.content) := by
  rw [carries.departs.drained_eq, ← List.map_append,
    ← List.takeWhile_append_of_pos fun _ => carries.back_of_mem_take,
    List.take_append_drop]
  rfl

/-- What was taken out was sent first. -/
theorem drained_prefix (carries : Carries number entry books) :
    books.drained <+: books.sent := by
  rw [carries.sent_eq]
  exact List.prefix_append _ _

/-- Where the next packet to be taken out was not sent, all that was sent in a
row was taken out. -/
theorem drained_eq_sent
    (carries : Carries number entry books)
    (stopped : ∀ lent, books.allocated[entry.outbound.tail]? = some lent →
      lent.isOut = true) : books.drained = books.sent := by
  have none_left : (books.allocated.drop entry.outbound.tail).takeWhile
      (fun lent => !lent.isOut) = [] := by
    cases rest : books.allocated.drop entry.outbound.tail with
    | nil => rfl
    | cons lent others =>
        have found : books.allocated[entry.outbound.tail]? = some lent := by
          rw [← List.head?_drop, rest]
          rfl
        exact List.takeWhile_cons_of_neg (by simp [stopped lent found])
  rw [carries.sent_eq, none_left]
  exact (List.append_nil _).symm

/-- Taking out stops at the first buffer that was not sent, or at the end. -/
theorem drained_eq_sent_of_drain
    (carries : Carries number entry books)
    (drained : Carries number
      { entry with
        outbound := (entry.outbound.drain
          (entry.outbound.head - entry.outbound.read)).2 } after)
    (allocated_eq : after.allocated = books.allocated) :
    after.drained = after.sent := by
  have layout := carries.sound.outbound
  have passed := carries.sound.passed
  obtain ⟨-, taken⟩ := PacketRing.drain_eq layout passed rfl
  refine drained.drained_eq_sent fun lent found => ?_
  change after.allocated[(entry.outbound.drain _).2.tail]? = some lent at found
  rw [taken.tail_eq, allocated_eq] at found
  have tallies := carries.tallies .outbound
  have inside : entry.outbound.tail + entry.outbound.drainable.length <
    entry.outbound.head := tallies.lt_lentCount found
  -- The slot at which it stops is allocated, as it is not committed.
  have unsent := PacketRing.state_ne_of_drainable inside
  have beyond := Nat.le_add_right entry.outbound.tail
    entry.outbound.drainable.length
  have open_slot := (layout.pending _ (passed ▸ beyond) inside).resolve_right
    unsent
  exact (tallies.present _ lent beyond found).2.mpr open_slot

/-- A session has nothing to lend exactly when all that was put in was
received. -/
theorem isDrained_iff (carries : Carries number entry books) :
    entry.inbound.isDrained = true ↔
      books.received.map (·.content) = books.accepted := by
  have ready := carries.sound.inbound
  have whole := carries.arrives.length_eq
  rw [carries.arrives.received_eq, List.take_eq_self_iff, whole,
    ← Bool.not_eq_false, ready.isDrained_eq_false_iff, Nat.not_lt]

end Carries

/-! ## Whole runs -/

/-- In a run that disturbs nothing, no request disturbs what waits. -/
theorem disturbs_eq_false_of_undisturbed
    {earlier later : List Request}
    {request : Request}
    (quiet : driver.undisturbed (earlier ++ request :: later) = true) :
    (driver.serveAll earlier).disturbs request = false := by
  induction earlier generalizing driver with
  | nil =>
      rw [List.nil_append, undisturbed, Bool.and_eq_true] at quiet
      exact Bool.not_eq_true' _ ▸ quiet.1
  | cons first earlier hypothesis =>
      rw [List.cons_append, undisturbed, Bool.and_eq_true] at quiet
      exact hypothesis quiet.2

/-- As long as nothing that waits is overwritten, a session carries what its
books say. -/
theorem life_carries
    {version : DriverVersion}
    {slotBudget : Option Nat}
    {requests : List Request}
    (quiet : (fresh version slotBudget).undisturbed requests = true)
    (number : Nat) :
    Life (Carries number) ((fresh version slotBudget).serveAll requests) number
      (Books.ofRun version slotBudget requests number) := by
  have sound : ∀ entry books, Carries number entry books → Sound entry :=
    fun _ _ carries => carries.sound
  have starts : ∀ entry capacity, 0 < capacity.toNat →
      entry.inbound = .ofCapacity capacity →
      entry.outbound = .ofCapacity capacity → Carries number entry {} :=
    fun _ _ positive inbound outbound => .started positive inbound outbound
  refine Life.ofRun sound starts
    (fun driver entry books request changed next
      (allowed : driver.disturbs request = false) found carries turn =>
        carries.turn found allowed turn) version slotBudget requests ?_
  rintro earlier request later rfl
  exact disturbs_eq_false_of_undisturbed quiet

/-- A running session that did not fail has nothing to lend exactly when all
that was put in was received. -/
theorem receivePacket_cases
    {entry : RunningSession}
    {books : Books}
    (found : driver.sessions.get? number = some entry)
    (healthy : entry.failed = false)
    (carries : Carries number entry books) :
    let answer := (receivePacket ⟨number⟩ driver).value
    let received := books.received.map (·.content)
    received = books.accepted ∧ answer = refuse .wouldBlock ∨
      received ≠ books.accepted ∧ ∃ packet, answer = .ok packet := by
  intro answer received
  have drained := carries.isDrained_iff
  cases waiting : entry.inbound.isDrained with
  | true =>
      refine .inl ⟨drained.mp waiting, ?_⟩
      simp only [answer, receivePacket, found, healthy, PacketRing.pop_eq,
        waiting, Bool.false_eq_true, if_false, if_true]
  | false =>
      have lends := congrArg Reply.value
        (receivePacket_waiting found carries.sound.inbound healthy waiting)
      refine .inr ⟨fun all => ?_, _, lends⟩
      cases waiting.symm.trans (drained.mpr all)

/-- What a session takes out completes what was sent in a row. -/
theorem drained_append_drainOutbound
    {entry : RunningSession}
    {books : Books}
    (distinct : Distinct driver)
    (found : driver.sessions.get? number = some entry)
    (carries : Carries number entry books)
    {name : String}
    (under : driver.runsUnder number name = true) :
    books.drained ++ (drainOutbound name driver).value = books.sent := by
  have reply := drainOutbound_eq
    (distinct.sessionFor?_eq_some_iff.mpr ⟨found, under⟩)
  have later := carries.turn found rfl
    (.drained : Turn driver number entry books (.drainOutbound name) _ _)
  rw [reply]
  exact carries.drained_eq_sent_of_drain later rfl

/-- Nothing is put in and nothing is taken out under a name under which no
session runs. -/
theorem value_of_unnamed
    (distinct : Distinct driver)
    {name : String}
    (unnamed : ∀ number, driver.runsUnder number name = false) :
    (∀ content, (inject name content driver).value = false) ∧
      (drainOutbound name driver).value = [] := by
  have none : driver.sessionFor? name = none := by
    refine Option.eq_none_iff_forall_ne_some.mpr fun ⟨number, entry⟩ leads => ?_
    have under := (distinct.sessionFor?_eq_some_iff.mp leads).2
    cases (unnamed number).symm.trans under
  constructor
  · intro content
    unfold inject
    rw [none]
    cases validatePacketSize content.length <;> rfl
  · simp only [drainOutbound, none]

/-- After any requests to a new driver that overwrite no bytes of a waiting
packet, what was received from a session is what was put in for it under its
name, first things first: a session that runs and did not fail lends another
packet as long as something is left.  What was taken out is what was sent, in
the order of allocation, and taking out goes on to the first buffer that was
not sent.  Under a name under which no session runs nothing goes in or out. -/
theorem comes_out_as_put_in
    (version : DriverVersion)
    (slotBudget : Option Nat)
    (requests : List Request)
    (quiet : (fresh version slotBudget).undisturbed requests = true)
    (number : Nat) :
    let driver := (fresh version slotBudget).serveAll requests
    let books := Books.ofRun version slotBudget requests number
    let received := books.received.map (·.content)
    let answer := (receivePacket ⟨number⟩ driver).value
    received <+: books.accepted ∧
    (∀ entry, driver.sessions.get? number = some entry →
      entry.failed = false →
        received = books.accepted ∧ answer = refuse .wouldBlock ∨
          received ≠ books.accepted ∧ ∃ packet, answer = .ok packet) ∧
    books.drained <+: books.sent ∧
    (∀ name, driver.runsUnder number name = true →
      books.drained ++ (drainOutbound name driver).value = books.sent) ∧
    ∀ name, (∀ other, driver.runsUnder other name = false) →
      (∀ content, (inject name content driver).value = false) ∧
        (drainOutbound name driver).value = [] := by
  intro driver books received answer
  have life : Life (Carries number) driver number books :=
    life_carries quiet number
  have distinct : Distinct driver :=
    (distinct_fresh version slotBudget).serveAll requests
  have prefixes : received <+: books.accepted ∧
      books.drained <+: books.sent := by
    rcases life.cases_books with none | ⟨entry, carries⟩
    · dsimp only [received]
      rw [none]
      exact ⟨List.nil_prefix, List.nil_prefix⟩
    · exact ⟨carries.received_prefix, carries.drained_prefix⟩
  refine ⟨prefixes.1, fun entry found healthy => ?_, prefixes.2,
    fun name under => ?_, fun name unnamed => value_of_unnamed distinct unnamed⟩
  · exact receivePacket_cases found healthy (life.of_running found)
  · cases found : driver.sessions.get? number with
    | none => simp [runsUnder, found] at under
    | some entry =>
        exact drained_append_drainOutbound distinct found
          (life.of_running found) under

/-- A session is started anew on its adapter.  It receives nothing that was put
in for the earlier one, and a buffer that was not sent holds back a later one
that was. -/
theorem comes_out_as_put_in_after_restart :
    let first : RawPacket := ⟨⟨.slot 4 .outbound 0, 0⟩, 1, 0x100000000⟩
    let second : RawPacket := ⟨⟨.slot 4 .outbound 1, 0⟩, 1, 0x100000001⟩
    let requests : List Request :=
      [.createAdapter "x" "t" none, .startSession ⟨2⟩ 4, .inject "x" [7],
        .endSession ⟨3⟩, .startSession ⟨2⟩ 4, .inject "X" [1, 2],
        .inject "x" [3], .receivePacket ⟨4⟩, .allocateSend ⟨4⟩ 1,
        .allocateSend ⟨4⟩ 1, .writePacket second 0 [9], .sendPacket ⟨4⟩ second]
    let sent := requests ++ [.drainOutbound "x", .sendPacket ⟨4⟩ first]
    let driver := (fresh defaultVersion none).serveAll requests
    let last := (fresh defaultVersion none).serveAll sent
    let books := Books.ofRun defaultVersion none requests 4
    books.accepted = [[1, 2], [3]] ∧
      books.received.map (·.content) = [[1, 2]] ∧
      (∃ packet, (receivePacket ⟨4⟩ driver).value = .ok packet) ∧
      (drainOutbound "X" driver).value = [] ∧
      (drainOutbound "X" last).value = [[0], [9]] := by
  intro first second requests sent driver last books
  obtain ⟨_, lends, _, stops, _⟩ := comes_out_as_put_in defaultVersion none
    requests (by decide +kernel) 4
  obtain ⟨_, _, _, completes, _⟩ := comes_out_as_put_in defaultVersion none
    sent (by decide +kernel) 4
  have accepted : books.accepted = [[1, 2], [3]] := by decide +kernel
  have received : books.received.map (·.content) = [[1, 2]] := by decide +kernel
  have healthy : (driver.sessions.get? 4).any (!·.failed) = true := by
    decide +kernel
  have blocked : books.sent = [] := by decide +kernel
  have completed :
      (Books.ofRun defaultVersion none sent 4).drained = [] ∧
        (Books.ofRun defaultVersion none sent 4).sent = [[0], [9]] := by
    decide +kernel
  refine ⟨accepted, received, ?_, ?_, ?_⟩
  · rw [Option.any_eq_true] at healthy
    obtain ⟨entry, found, unfailed⟩ := healthy
    rcases lends entry found (by simpa using unfailed) with
      ⟨all, _⟩ | ⟨_, lent⟩
    · cases received.symm.trans (all.trans accepted)
    · exact lent
  · exact (List.append_eq_nil_iff.mp
      ((stops "X" (by decide +kernel)).trans blocked)).2
  · have whole := completes "X" (by decide +kernel)
    rw [completed.1, completed.2] at whole
    exact whole

end MemoryDriver
end Memory
end VirtualAdapter

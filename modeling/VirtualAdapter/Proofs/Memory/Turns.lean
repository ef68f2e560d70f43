import VirtualAdapter.Proofs.Memory.Books

/-!
# What a request does to one session

A request that concerns a running session turns its rings and its books
together: a packet is put in or received, a buffer is allocated, a packet goes
back or is refused, what was sent is taken out, or some bytes are overwritten.
Whatever every such turn keeps holds of the session from its start to its end,
whatever else is requested.
-/

namespace VirtualAdapter
namespace Memory
namespace MemoryDriver

open VirtualAdapter.Ring (PacketRing)
open VirtualAdapter.Ring.PacketRing
  (Arranged Coeval Counted Layout Ready lt_of_isFull_eq_false)

/-- The rings of a session are in order: nothing that was put in is unfinished,
what was taken out was given back at once, and generations count. -/
structure Sound (entry : RunningSession) : Prop where
  /-- What waits to be received is committed. -/
  inbound : Ready entry.inbound
  /-- The states of the outbound slots fit their positions. -/
  outbound : Layout entry.outbound
  /-- No outbound slot is delivered but not freed. -/
  passed : entry.outbound.read = entry.outbound.tail
  /-- Generations count allocations. -/
  counted : ∀ direction, Counted (ring entry direction)

/-- What a request does to a running session and its books. -/
inductive Turn
    (driver : MemoryDriver)
    (number : Nat)
    (entry : RunningSession)
    (books : Books) : Request → RunningSession → Books → Prop
  /-- It may fail, but keeps its packets. -/
  | kept {request : Request} (failed : Bool) :
      Turn driver number entry books request { entry with failed } books
  | injected {name : String} {content : Bytes}
      (room : entry.inbound.head <
        entry.inbound.tail + entry.inbound.capacity) :
      Turn driver number entry books (.inject name content)
        { entry with inbound := entry.inbound.filled content }
        { books with accepted := books.accepted ++ [content] }
  | received
      (waiting : entry.inbound.read < entry.inbound.head) :
      Turn driver number entry books (.receivePacket ⟨number⟩)
        { entry with inbound := entry.inbound.delivering }
        { books with
          received := books.received ++
            [{ packet := packetAt ⟨number⟩ .inbound entry.inbound.delivering
                entry.inbound.read
               content := (entry.inbound.slotAt entry.inbound.read).buffer }] }
  | allocated {size : Nat}
      (room : entry.outbound.head <
        entry.outbound.tail + entry.outbound.capacity) :
      Turn driver number entry books (.allocateSend ⟨number⟩ size)
        { entry with outbound := entry.outbound.grown size }
        { books with
          allocated := books.allocated ++
            [{ packet := packetAt ⟨number⟩ .outbound (entry.outbound.grown size)
                entry.outbound.head
               content := Bytes.zeros size }] }
  | takenBack {direction : Direction} {packet : RawPacket} {position : Nat}
      (stands : StandsFor ⟨number⟩ direction (ring entry direction) packet
        position) :
      Turn driver number entry books (.handBack direction ⟨number⟩ packet)
        (withRing entry direction
          (takenBack direction (ring entry direction) position))
        (books.withLents direction
          (giveBack driver direction packet (books.lents direction)))
  | refused {direction : Direction} {packet : RawPacket}
      (stray : ∀ position, ¬ StandsFor ⟨number⟩ direction (ring entry direction)
        packet position) :
      Turn driver number entry books (.handBack direction ⟨number⟩ packet) entry
        (books.withLents direction
          (giveBack driver direction packet (books.lents direction)))
  | drained {name : String} :
      Turn driver number entry books (.drainOutbound name)
        { entry with
          outbound := (entry.outbound.drain
            (entry.outbound.head - entry.outbound.read)).2 }
        { books with
          drained := books.drained ++
            (entry.outbound.drain
              (entry.outbound.head - entry.outbound.read)).1 }
  | written {packet : RawPacket} {start index : Nat} {content bytes : Bytes}
      {direction : Direction}
      (aimed : packet.address.buffer = .slot number direction index)
      (length : bytes.length = ((ring entry direction).peek index).length) :
      Turn driver number entry books (.writePacket packet start content)
        (withRing entry direction ((ring entry direction).poke index bytes))
        books

variable
  {driver : MemoryDriver}
  {number : Nat}
  {entry changed : RunningSession}
  {books next : Books}
  {request : Request}

/-! ## Rings stay in order -/

/-- A slot that goes back keeps its generation. -/
theorem coeval_takenBack
    (direction : Direction)
    (ring : PacketRing)
    (position : Nat) : Coeval ring (takenBack direction ring position) := by
  have changed : ∀ state, Coeval ring
      (ring.changedAt position fun slot => { slot with state }) :=
    fun _ => .changedAt rfl
  cases direction with
  | inbound => exact (changed .free).trans (.reclaim _)
  | outbound => exact changed .committed

namespace Sound

theorem arranged
    (sound : Sound entry)
    (direction : Direction) : Arranged (ring entry direction) := by
  cases direction with
  | inbound => exact sound.inbound.toArranged
  | outbound => exact sound.outbound.toArranged

/-- A new session has its rings in order. -/
theorem started
    {capacity : UInt32}
    (positive : 0 < capacity.toNat)
    (inbound : entry.inbound = .ofCapacity capacity)
    (outbound : entry.outbound = .ofCapacity capacity) : Sound entry where
  inbound := inbound ▸ PacketRing.ready_ofCapacity positive
  outbound := outbound ▸ PacketRing.layout_ofCapacity positive
  passed := by rw [outbound]; rfl
  counted := fun direction => by
    cases direction with
    | inbound =>
        change Counted entry.inbound
        exact inbound ▸ PacketRing.counted_ofCapacity capacity
    | outbound =>
        change Counted entry.outbound
        exact outbound ▸ PacketRing.counted_ofCapacity capacity

/-- A change of the inbound ring leaves the other one in order. -/
theorem withInbound
    (sound : Sound entry)
    {inbound : PacketRing}
    (ready : Ready inbound)
    (counted : Counted inbound) : Sound { entry with inbound } where
  inbound := ready
  outbound := sound.outbound
  passed := sound.passed
  counted := fun direction => by
    cases direction with
    | inbound => exact counted
    | outbound => exact sound.counted .outbound

/-- A change of the outbound ring leaves the other one in order. -/
theorem withOutbound
    (sound : Sound entry)
    {outbound : PacketRing}
    (layout : Layout outbound)
    (passed : outbound.read = outbound.tail)
    (counted : Counted outbound) : Sound { entry with outbound } where
  inbound := sound.inbound
  outbound := layout
  passed := passed
  counted := fun direction => by
    cases direction with
    | inbound => exact sound.counted .inbound
    | outbound => exact counted

/-- Every turn keeps the rings in order. -/
theorem turn
    (sound : Sound entry)
    (turn : Turn driver number entry books request changed next) :
    Sound changed := by
  have layout := sound.outbound
  cases turn with
  | kept => exact ⟨sound.inbound, layout, sound.passed, sound.counted⟩
  | refused => exact sound
  | @injected _ content room =>
      exact sound.withInbound (sound.inbound.filled room content)
        ((sound.counted .inbound).filled content)
  | received waiting =>
      exact sound.withInbound (sound.inbound.delivering waiting)
        ((sound.counted .inbound).of_coeval (.delivering _))
  | @allocated size room =>
      exact sound.withOutbound (layout.grown room size) sound.passed
        ((sound.counted .outbound).grown size)
  | @takenBack direction packet position stands =>
      have counted := (sound.counted direction).of_coeval
        (coeval_takenBack direction (ring entry direction) position)
      cases direction with
      | inbound =>
          have released : entry.inbound.release
              (entry.inbound.handleAt position) = .ok _ :=
            moveOn_handleAt sound.inbound.toArranged stands
          exact sound.withInbound (sound.inbound.release released).1 counted
      | outbound =>
          have read_le := layout.read_le_of_pending stands.tail_le
            (.inl stands.lent)
          have sent : Layout (entry.outbound.changedAt position fun slot =>
              { slot with state := .committed }) :=
            layout.changedAt read_le stands.lt_head (.inr rfl)
          exact sound.withOutbound sent sound.passed counted
  | drained =>
      have taken := (PacketRing.drain_eq layout sound.passed rfl).2
      exact sound.withOutbound taken.layout taken.read_eq
        ((sound.counted .outbound).of_coeval (.drain layout sound.passed _))
  | @written _ _ index _ bytes direction =>
      cases direction with
      | inbound =>
          exact sound.withInbound (sound.inbound.poke index bytes)
            ((sound.counted .inbound).of_coeval (.poke _ index bytes))
      | outbound =>
          exact sound.withOutbound (layout.poke index bytes) sound.passed
            ((sound.counted .outbound).of_coeval (.poke _ index bytes))

end Sound

/-! ## Requests to a running session -/

/-- A request leaves a session running, and turns it with its books. -/
def Turns
    (driver : MemoryDriver)
    (number : Nat)
    (entry : RunningSession)
    (books : Books)
    (request : Request) : Prop :=
  ∃ changed, (driver.serve request).sessions.get? number = some changed ∧
    Turn driver number entry books request changed
      (books.note driver number request)

/-- A request that leaves session and books alone is a turn. -/
theorem turns_of_same
    (sessions : (driver.serve request).sessions.get? number = some entry)
    (quiet : books.note driver number request = books) :
    Turns driver number entry books request :=
  ⟨entry, sessions, quiet.symm ▸ .kept entry.failed⟩

theorem get?_setSession
    (driver : MemoryDriver)
    (number other : Nat)
    (session : RunningSession) :
    (driver.setSession number session).sessions.get? other =
      if other = number then some session else driver.sessions.get? other :=
  Table.get?_insert _ _ _ _

section Running

variable (found : driver.sessions.get? number = some entry)

include found

/-- A session that has a packet lends the oldest one. -/
theorem receivePacket_waiting
    (ready : Ready entry.inbound)
    (healthy : entry.failed = false)
    (waiting : entry.inbound.isDrained = false) :
    receivePacket ⟨number⟩ driver =
      ⟨.ok (packetAt ⟨number⟩ .inbound entry.inbound.delivering
          entry.inbound.read),
        driver.placed number { entry with inbound := entry.inbound.delivering }
          (if entry.inbound.delivering.isDrained then
            driver.signals.reset entry.readEvent
          else driver.signals), []⟩ := by
  have behind := ready.isDrained_eq_false_iff.mp waiting
  have handle := PacketRing.handleAt_delivering ready.toArranged behind
    ready.tail_le_read (behind.trans_le ready.head_le)
  have lent := @lend_eq ⟨number⟩ _ _
    (ready.delivering behind).toArranged .inbound ready.tail_le_read behind
  rw [handle] at lent
  unfold receivePacket
  simp only [found, healthy, Bool.false_eq_true, if_false, PacketRing.pop_eq,
    waiting, lent]
  split <;> rfl

/-- A session that has failed is over. -/
theorem receivePacket_of_failed (failed : entry.failed = true) :
    receivePacket ⟨number⟩ driver = ⟨refuse .sessionEnded, driver, []⟩ := by
  simp only [receivePacket, found, failed, if_true]

/-- A session that has no packet resets its event. -/
theorem receivePacket_of_drained
    (healthy : entry.failed = false)
    (drained : entry.inbound.isDrained = true) :
    receivePacket ⟨number⟩ driver =
      ⟨refuse .wouldBlock, driver.resetSignal entry.readEvent, []⟩ := by
  simp only [receivePacket, found, healthy, Bool.false_eq_true, if_false,
    PacketRing.pop_eq, drained, if_true]

/-- A session that has no packet, or has failed, lends none. -/
theorem receivePacket_nothing
    (nothing : entry.failed = true ∨ entry.inbound.isDrained = true) :
    ∃ failure, (receivePacket ⟨number⟩ driver).value = .error failure ∧
      (receivePacket ⟨number⟩ driver).state.sessions = driver.sessions := by
  cases failed : entry.failed with
  | true =>
      rw [receivePacket_of_failed found failed]
      exact ⟨_, rfl, rfl⟩
  | false =>
      have drained := nothing.resolve_left (Bool.eq_false_iff.mp failed)
      rw [receivePacket_of_drained found failed drained]
      exact ⟨_, rfl, rfl⟩

/-- A buffer is allocated, or nothing happens. -/
theorem allocateSend_cases
    (layout : Layout entry.outbound)
    (size : Nat) :
    (∃ failure, allocateSend ⟨number⟩ size driver =
      ⟨.error failure, driver, []⟩) ∨
    entry.outbound.head < entry.outbound.tail + entry.outbound.capacity ∧
      allocateSend ⟨number⟩ size driver =
        ⟨.ok (packetAt ⟨number⟩ .outbound (entry.outbound.grown size)
            entry.outbound.head),
          driver.setSession number
            { entry with outbound := entry.outbound.grown size }, []⟩ := by
  unfold allocateSend validatePacketSize
  split
  case h_1 => exact .inl ⟨_, rfl⟩
  case h_2 granted valid =>
    obtain rfl : size = granted := by
      split at valid
      case isTrue => cases valid
      case isFalse => exact Except.ok.inj valid
    simp only [found, PacketRing.alloc_eq layout.toArranged]
    split
    case isTrue => exact .inl ⟨_, rfl⟩
    case isFalse =>
      cases full : entry.outbound.isFull with
      | true => exact .inl ⟨_, rfl⟩
      | false =>
          have room := lt_of_isFull_eq_false layout.toArranged full
          have lent := @lend_eq ⟨number⟩ _ _
            (layout.grown room size).toArranged .outbound
            (layout.tail_le_read.trans layout.read_le_head)
            (Nat.lt_succ_self _)
          refine .inr ⟨room, ?_⟩
          simp only [Bool.false_eq_true, if_false]
          rw [lent]

end Running

/-- A packet is put in for a session, or nothing happens. -/
theorem inject_cases
    (ready : Ready entry.inbound)
    {name : String}
    (content : Bytes)
    (leads : driver.sessionFor? name = some (number, entry)) :
    (inject name content driver).value = false ∧
      (inject name content driver).state = driver ∨
    entry.inbound.head < entry.inbound.tail + entry.inbound.capacity ∧
      (inject name content driver).value = true ∧
      (inject name content driver).state =
        driver.placed number
          { entry with inbound := entry.inbound.filled content }
          (driver.signals.set entry.readEvent) := by
  unfold inject
  simp only [leads]
  split
  case h_2 => exact .inl ⟨rfl, rfl⟩
  case h_1 same =>
    obtain ⟨rfl, rfl⟩ := Prod.mk.inj (Option.some.inj same)
    split
    case isTrue => exact .inl ⟨rfl, rfl⟩
    case isFalse =>
      split
      case h_1 => exact .inl ⟨rfl, rfl⟩
      case h_2 handle allocated accepted =>
        obtain ⟨room, filled⟩ := ready.fill_eq accepted
        simp only [filled]
        exact .inr ⟨room, trivial, rfl⟩

/-- What was sent on a session is taken out of its outbound ring. -/
theorem drainOutbound_eq
    {name : String}
    (leads : driver.sessionFor? name = some (number, entry)) :
    drainOutbound name driver =
      ⟨(entry.outbound.drain (entry.outbound.head - entry.outbound.read)).1,
        driver.setSession number { entry with
          outbound := (entry.outbound.drain
            (entry.outbound.head - entry.outbound.read)).2 }, []⟩ := by
  simp only [drainOutbound, leads]

/-! ## Every request is a turn -/

section Turns

variable (found : driver.sessions.get? number = some entry)

include found

theorem turns_receivePacket
    (sound : Sound entry)
    (session : SessionHandle) :
    Turns driver number entry books (.receivePacket session) := by
  obtain ⟨other⟩ := session
  by_cases same : other = number
  · subst same
    by_cases nothing : entry.failed = true ∨ entry.inbound.isDrained = true
    · obtain ⟨failure, refused, sessions⟩ := receivePacket_nothing found nothing
      refine turns_of_same ?_ ?_
      · change (receivePacket _ driver).state.sessions.get? _ = _
        rw [sessions, found]
      · rw [Books.note, if_pos rfl, Books.lend, refused]
    · rw [not_or, Bool.not_eq_true, Bool.not_eq_true] at nothing
      have ready := sound.inbound
      have reply := receivePacket_waiting found ready nothing.1 nothing.2
      have behind := ready.isDrained_eq_false_iff.mp nothing.2
      have runs : (receivePacket ⟨other⟩ driver).state.sessions.get? other =
          some { entry with inbound := entry.inbound.delivering } := by
        rw [reply]
        exact (get?_setSession driver _ _ _).trans (if_pos rfl)
      have shown := PacketRing.slotAt_delivering ready.toArranged behind
        ready.tail_le_read (behind.trans_le ready.head_le)
      rw [if_pos rfl] at shown
      have held := (@readPacket_packetAt ⟨other⟩ _ _ .inbound runs
        (ready.delivering behind).toArranged entry.inbound.read).trans
          (congrArg Ring.Slot.buffer shown)
      refine ⟨_, runs, ?_⟩
      rw [Books.note, if_pos rfl, Books.lend_of_ok (congrArg Reply.value reply) held]
      exact .received behind
  · refine turns_of_same ?_ (if_neg same)
    exact ((driver.touched_receivePacket ⟨other⟩).get?_of_ne
      fun aimed => same (Option.some.inj aimed)).trans found

theorem turns_allocateSend
    (sound : Sound entry)
    (session : SessionHandle)
    (size : Nat) :
    Turns driver number entry books (.allocateSend session size) := by
  obtain ⟨other⟩ := session
  by_cases same : other = number
  · subst same
    have layout := sound.outbound
    rcases allocateSend_cases found layout size with
      ⟨failure, reply⟩ | ⟨room, reply⟩
    · refine turns_of_same ?_ ?_
      · change (allocateSend _ _ driver).state.sessions.get? _ = _
        rw [reply, found]
      · rw [Books.note, if_pos rfl, Books.lend, reply]
    · have runs : (allocateSend ⟨other⟩ size driver).state.sessions.get? other =
          some { entry with outbound := entry.outbound.grown size } := by
        rw [reply]
        exact (get?_setSession driver _ _ _).trans (if_pos rfl)
      have held := (@readPacket_packetAt ⟨other⟩ _ _ .outbound runs
        (layout.grown room size).toArranged entry.outbound.head).trans (congrArg Ring.Slot.buffer
          (PacketRing.slotAt_grown_head layout.toArranged room size))
      refine ⟨_, runs, ?_⟩
      rw [Books.note, if_pos rfl, Books.lend_of_ok (congrArg Reply.value reply) held]
      exact .allocated room
  · refine turns_of_same ?_ (if_neg same)
    exact ((driver.touched_allocateSend ⟨other⟩ size).get?_of_ne
      fun aimed => same (Option.some.inj aimed)).trans found

theorem turns_handBack
    (sound : Sound entry)
    (direction : Direction)
    (session : SessionHandle)
    (packet : RawPacket) :
    Turns driver number entry books (.handBack direction session packet) := by
  obtain ⟨other⟩ := session
  by_cases same : other = number
  · subst same
    have noted := @Books.note_handBack driver ⟨other⟩
      (Option.isSome_iff_exists.mpr ⟨entry, found⟩) books direction packet
    unfold Turns
    rw [noted]
    by_cases stray : ∃ position, StandsFor ⟨other⟩ direction
        (ring entry direction) packet position
    · obtain ⟨position, stands⟩ := stray
      have accepted := (accept_eq_ok_iff (sound.arranged direction)).mpr
        ⟨position, stands, rfl⟩
      rw [serve_handBack_of_accepted found accepted]
      exact ⟨_, (get?_setSession driver _ _ _).trans (if_pos rfl),
        .takenBack stands⟩
    · obtain ⟨detail, refused⟩ := @serve_handBack_of_refused driver ⟨other⟩
        direction packet fun present changed runs accepted => by
          obtain rfl := Option.some.inj (found.symm.trans runs)
          obtain ⟨position, stands, _⟩ :=
            (accept_eq_ok_iff (sound.arranged direction)).mp accepted
          exact stray ⟨position, stands⟩
      rw [refused]
      exact ⟨entry, found, .refused (not_exists.mp stray)⟩
  · refine turns_of_same ?_ (by cases direction <;> exact if_neg same)
    have elsewhere : some other ≠ some number :=
      fun aimed => same (Option.some.inj aimed)
    cases direction with
    | inbound =>
        exact ((driver.touched_releaseReceived ⟨other⟩ packet).get?_of_ne
          elsewhere).trans found
    | outbound =>
        exact ((driver.touched_sendPacket ⟨other⟩ packet).get?_of_ne
          elsewhere).trans found

theorem turns_writePacket
    (packet : RawPacket)
    (start : Nat)
    (content : Bytes) :
    Turns driver number entry books (.writePacket packet start content) := by
  by_cases here : ∃ direction index,
      packet.address.buffer = .slot number direction index
  · obtain ⟨direction, index, aimed⟩ := here
    have runs : (writePacket packet start content driver).sessions.get? number =
        some (withRing entry direction ((ring entry direction).poke index
          (Bytes.overwrite (packet.address.offset.toNat + start)
            (content.take (packet.length - start))
            ((ring entry direction).peek index)))) := by
      simp only [writePacket, aimed, found]
      refine (get?_setSession driver _ _ _).trans ((if_pos rfl).trans ?_)
      cases direction <;> rfl
    exact ⟨_, runs, .written aimed (Bytes.length_overwrite _ _ _)⟩
  · refine turns_of_same ?_ rfl
    refine ((driver.touched_writePacket packet start content).get?_of_ne
      fun aimed => ?_).trans found
    simp only [target?] at aimed
    split at aimed
    case h_1 place =>
      obtain rfl := Option.some.inj aimed
      exact here ⟨_, _, place⟩
    case h_2 => cases aimed

variable (distinct : Distinct driver)

include distinct

theorem turns_inject
    (sound : Sound entry)
    (name : String)
    (content : Bytes) :
    Turns driver number entry books (.inject name content) := by
  have leads : driver.sessionFor? name = some (number, entry) ↔ _ :=
    distinct.sessionFor?_eq_some_iff
  by_cases under : driver.runsUnder number name = true
  · rcases inject_cases sound.inbound content (leads.mpr ⟨found, under⟩) with
      ⟨refused, same⟩ | ⟨room, accepted, state⟩
    · refine turns_of_same ?_ ?_
      · change (inject name content driver).state.sessions.get? _ = _
        rw [same, found]
      · rw [Books.note, if_neg (by simp [refused])]
    · refine ⟨{ entry with inbound := entry.inbound.filled content }, ?_, ?_⟩
      · change (inject name content driver).state.sessions.get? _ = _
        rw [state]
        exact (get?_setSession driver _ _ _).trans (if_pos rfl)
      · rw [Books.note, if_pos ⟨under, accepted⟩]
        exact .injected room
  · refine turns_of_same ?_ (if_neg fun both => under both.1)
    exact ((driver.touched_inject name content).get?_of_ne fun aimed =>
      under (distinct.runsUnder_of_leads aimed)).trans found

theorem turns_drainOutbound (name : String) :
    Turns driver number entry books (.drainOutbound name) := by
  by_cases under : driver.runsUnder number name = true
  · have leads := distinct.sessionFor?_eq_some_iff.mpr ⟨found, under⟩
    have reply := drainOutbound_eq leads
    refine ⟨{ entry with
      outbound := (entry.outbound.drain
        (entry.outbound.head - entry.outbound.read)).2 }, ?_, ?_⟩
    · change (drainOutbound name driver).state.sessions.get? _ = _
      rw [reply]
      exact (get?_setSession driver _ _ _).trans (if_pos rfl)
    · rw [Books.note, if_pos under, reply]
      exact .drained
  · refine turns_of_same ?_ (if_neg under)
    exact ((driver.touched_drainOutbound name).get?_of_ne fun aimed =>
      under (distinct.runsUnder_of_leads aimed)).trans found

theorem turns_failSession (name : String) :
    Turns driver number entry books (.failSession name) := by
  by_cases under : driver.runsUnder number name = true
  · have leads := distinct.sessionFor?_eq_some_iff.mpr ⟨found, under⟩
    refine ⟨{ entry with failed := true }, ?_, .kept true⟩
    change (failSession name driver).state.sessions.get? _ = _
    simp only [failSession, leads]
    exact (get?_setSession driver _ _ _).trans (if_pos rfl)
  · refine turns_of_same ?_ rfl
    exact ((driver.touched_failSession name).get?_of_ne fun aimed =>
      under (distinct.runsUnder_of_leads aimed)).trans found

/-- A request turns a running session and its books, unless it is the end of
the session. -/
theorem turns_or_ends
    (sound : Sound entry)
    (request : Request) :
    Turns driver number entry books request ∨
      (driver.serve request).sessions.get? number = none ∧
        books.note driver number request = books := by
  cases request with
  | createAdapter name tunnelType guid =>
      refine .inl (turns_of_same ?_ rfl)
      change (createAdapter name tunnelType guid driver).state.sessions.get? _ = _
      rcases createAdapter_cases driver name tunnelType guid with
          ⟨_, _, state⟩ | ⟨_, state⟩ <;>
        rw [state] <;> exact found
  | openAdapter name =>
      refine .inl (turns_of_same ?_ rfl)
      change (openAdapter name driver).state.sessions.get? _ = _
      rcases openAdapter_cases driver name with
          ⟨_, _, state⟩ | ⟨_, _, _, state⟩ <;>
        rw [state] <;> exact found
  | closeAdapter adapter =>
      refine .inl (turns_of_same ?_ rfl)
      change (closeAdapter adapter driver).state.sessions.get? _ = _
      cases opened : driver.adapters.get? adapter.number with
      | none =>
          simp only [closeAdapter, opened]
          exact found
      | some handle =>
          rw [state_closeAdapter opened]
          exact found
  | deleteDriver =>
      refine .inl (turns_of_same ?_ rfl)
      change (deleteDriver driver).state.sessions.get? _ = _
      simp only [deleteDriver]
      split
      case isTrue => exact found
      case isFalse => split <;> exact found
  | startSession adapter capacity =>
      refine .inl (turns_of_same ?_ rfl)
      change (startSession adapter capacity driver).state.sessions.get? _ = _
      rcases startSession_cases driver adapter capacity with
        ⟨_, _, state⟩ | ⟨handle, _, _, _, state⟩
      · rw [state, found]
      · have known := (distinct.session_le number entry found).1
        rw [state, get?_sessions_started, if_neg (by omega), found]
  | endSession session =>
      have ended : ∀ running,
          driver.sessions.get? session.number = some running →
            (driver.serve (.endSession session)).sessions.get? number =
              if number = session.number then none
              else driver.sessions.get? number := by
        intro running runs
        change (endSession session driver).state.sessions.get? _ = _
        rw [(alike_endSession runs).sessions]
        exact Table.get?_erase _ _ _
      by_cases same : number = session.number
      · subst same
        exact .inr ⟨(ended entry found).trans (if_pos rfl), rfl⟩
      · refine .inl (turns_of_same ?_ rfl)
        cases runs : driver.sessions.get? session.number with
        | none =>
            change (endSession session driver).state.sessions.get? _ = _
            simp only [endSession, runs]
            exact found
        | some running =>
            rw [ended running runs, if_neg same, found]
  | readWaitEvent session =>
      refine .inl (turns_of_same ?_ rfl)
      change (readWaitEvent session driver).state.sessions.get? _ = _
      unfold readWaitEvent
      split <;> exact found
  | runningVersion =>
      refine .inl (turns_of_same ?_ rfl)
      change (runningVersion driver).state.sessions.get? _ = _
      unfold runningVersion
      split <;> exact found
  | beginWait own cancel interrupt timeout now =>
      rcases driver.serve_beginWait own cancel interrupt timeout now with
        begun | broken
      · refine .inl (turns_of_same ?_ rfl)
        rw [begun]
        exact found
      · refine .inl (turns_of_same ?_ rfl)
        rw [broken]
        exact found
  | adapterLuid | setSink | newEvent | setEvent | resetEvent | isEventSet
  | dropEvent | stepWait =>
      exact .inl (turns_of_same found rfl)
  | receivePacket session => exact .inl (turns_receivePacket found sound session)
  | releaseReceived session packet =>
      exact .inl (turns_handBack found sound .inbound session packet)
  | allocateSend session size =>
      exact .inl (turns_allocateSend found sound session size)
  | sendPacket session packet =>
      exact .inl (turns_handBack found sound .outbound session packet)
  | writePacket packet start content =>
      exact .inl (turns_writePacket found packet start content)
  | inject name content =>
      exact .inl (turns_inject found distinct sound name content)
  | drainOutbound name => exact .inl (turns_drainOutbound found distinct name)
  | failSession name => exact .inl (turns_failSession found distinct name)

end Turns

/-! ## From the start to the end -/

/-- A session is started with rings that have slots. -/
theorem pos_of_startSession
    {handle : AdapterHandle}
    {capacity : UInt32}
    {session : SessionHandle}
    (granted : (startSession handle capacity driver).value = .ok session) :
    0 < capacity.toNat := by
  unfold startSession at granted
  split at granted
  case h_1 => cases granted
  case h_2 valid =>
    exact Nat.pos_of_isPowerOfTwo
      (Ring.toNat_isPowerOfTwo (isPowerOfTwo_of_validate valid))

/-- A property of rings and books holds of the session of a number from its
start on; before that the books are empty. -/
inductive Life
    (holds : RunningSession → Books → Prop)
    (driver : MemoryDriver)
    (number : Nat) : Books → Prop
  /-- No session has had the number. -/
  | before
      (gone : driver.sessions.get? number = none) :
      Life holds driver number {}
  | running {entry : RunningSession} {books : Books}
      (found : driver.sessions.get? number = some entry)
      (fits : holds entry books) :
      Life holds driver number books
  /-- The session has ended, with these books. -/
  | ended {entry : RunningSession} {books : Books}
      (gone : driver.sessions.get? number = none)
      (numbered : number ≤ driver.lastNumber)
      (fits : holds entry books) :
      Life holds driver number books

namespace Life

variable {holds : RunningSession → Books → Prop}

/-- What a running session and its books keep. -/
theorem of_running
    (life : Life holds driver number books)
    (found : driver.sessions.get? number = some entry) : holds entry books := by
  cases life with
  | before gone => cases found.symm.trans gone
  | running present fits =>
      obtain rfl := Option.some.inj (found.symm.trans present)
      exact fits
  | ended gone => cases found.symm.trans gone

/-- What the books of a session are like. -/
theorem cases_books (life : Life holds driver number books) :
    books = {} ∨ ∃ entry, holds entry books := by
  cases life with
  | before => exact .inl rfl
  | running _ fits => exact .inr ⟨_, fits⟩
  | ended _ _ fits => exact .inr ⟨_, fits⟩

variable
  (sound : ∀ entry books, holds entry books → Sound entry)
  (starts : ∀ entry capacity, 0 < capacity.toNat →
    entry.inbound = .ofCapacity capacity →
    entry.outbound = .ofCapacity capacity → holds entry {})

include sound starts

/-- What every turn keeps, every request keeps. -/
theorem serve
    (distinct : Distinct driver)
    (life : Life holds driver number books)
    (request : Request)
    (turns : ∀ entry changed next,
      driver.sessions.get? number = some entry → holds entry books →
        Turn driver number entry books request changed next →
          holds changed next) :
    Life holds (driver.serve request) number
      (books.note driver number request) := by
  have grows := driver.lastNumber_le_serve request
  cases life with
  | running found fits =>
      rcases turns_or_ends found distinct (sound _ _ fits) request with
        ⟨changed, runs, turn⟩ | ⟨gone, same⟩
      · exact .running runs (turns _ _ _ found fits turn)
      · rw [same]
        refine .ended gone ?_ fits
        exact (distinct.session_le number _ found).1.trans grows
  | ended gone numbered fits =>
      rw [Books.note_of_gone gone]
      refine .ended ?_ (numbered.trans grows) fits
      by_contra runs
      obtain ⟨running, found⟩ := Option.ne_none_iff_exists'.mp runs
      rcases session_serve_cases found with
        ⟨_, known, _⟩ | ⟨_, _, _, _, _, _, _, new, _⟩
      · cases gone.symm.trans known
      · omega
  | before gone =>
      rw [Books.note_of_gone gone]
      cases found : (driver.serve request).sessions.get? number with
      | none => exact .before found
      | some running =>
          refine .running found ?_
          rcases session_serve_cases found with
            ⟨_, known, _⟩ | ⟨handle, capacity, _, rfl, _, granted, state, new, _⟩
          · cases gone.symm.trans known
          · rw [state, get?_sessions_started, if_pos new] at found
            obtain rfl := Option.some.inj found
            exact starts _ capacity (pos_of_startSession granted) rfl rfl

/-- From a new driver on, what every turn keeps holds of a session as long as
it runs. -/
theorem ofRun
    {allowed : MemoryDriver → Request → Prop}
    (turns : ∀ driver entry books request changed next,
      allowed driver request →
      driver.sessions.get? number = some entry → holds entry books →
        Turn driver number entry books request changed next →
          holds changed next)
    (version : DriverVersion)
    (slotBudget : Option Nat)
    (requests : List Request)
    (all : ∀ earlier request later, requests = earlier ++ request :: later →
      allowed ((fresh version slotBudget).serveAll earlier) request) :
    Life holds ((fresh version slotBudget).serveAll requests) number
      (Books.ofRun version slotBudget requests number) := by
  induction requests using List.reverseRecOn with
  | nil => exact .before rfl
  | append_singleton requests request hypothesis =>
      have distinct :=
        (distinct_fresh version slotBudget).serveAll requests
      have earlier := hypothesis fun first other rest equal =>
        all first other (rest ++ [request]) (by simp [equal])
      rw [serveAll_concat, Books.ofRun_concat]
      exact earlier.serve sound starts distinct request
        fun entry changed next => turns _ entry _ request changed next
          (all requests request [] rfl)

end Life

end MemoryDriver
end Memory
end VirtualAdapter

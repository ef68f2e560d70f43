import VirtualAdapter.Proofs.Memory.Loans

/-!
# What a session leaves behind

The driver counts the packets that are out by looking at its slots.  Whatever
callers do, this is the number of the packets that were lent less the number of
those that were taken back, for each session and in either direction.  So the
end of a session notes exactly what its callers still owe.
-/

namespace VirtualAdapter

/-- In a list where one place alone passes a test, one entry does. -/
theorem countP_eq_one_of_getElem?
    {Value : Type}
    {list : List Value}
    {test : Value → Bool}
    {place : Nat}
    (inside : place < list.length)
    (alone : ∀ other value, list[other]? = some value →
      (test value = true ↔ other = place)) : list.countP test = 1 := by
  have before : (list.take place).countP test = 0 := by
    rw [List.countP_eq_zero]
    intro value member passes
    obtain ⟨other, bound, rfl⟩ := List.mem_take_iff_getElem.mp member
    have := (alone other _ (List.getElem?_eq_getElem (by omega))).mp passes
    omega
  have behind : (list.drop (place + 1)).countP test = 0 := by
    rw [List.countP_eq_zero]
    intro value member passes
    obtain ⟨other, found⟩ := List.getElem?_of_mem member
    rw [List.getElem?_drop] at found
    have := (alone _ value found).mp passes
    omega
  have here := (alone place _ (List.getElem?_eq_getElem inside)).mpr rfl
  rw [← List.take_append_drop place list, List.countP_append, before,
    List.drop_eq_getElem_cons inside, List.countP_cons_of_pos here, behind]

namespace Memory
namespace MemoryDriver

open VirtualAdapter.Ring (PacketRing)
open VirtualAdapter.Ring.PacketRing (Arranged)

/-! ## Counting along a run -/

/-- How many requests of a run are of a kind, each one with the driver that it
meets. -/
def tally
    (kind : MemoryDriver → Request → Bool) :
    MemoryDriver → List Request → Nat
  | _, [] => 0
  | driver, request :: requests =>
      (if kind driver request then 1 else 0) +
        tally kind (driver.serve request) requests

/-- A packet of a session is lent: one is received, or a buffer is
allocated. -/
def lends
    (direction : Direction)
    (number : Nat)
    (driver : MemoryDriver)
    (request : Request) : Bool :=
  match direction, request with
  | .inbound, .receivePacket session =>
      session.number = number && (receivePacket session driver).value.isOk
  | .outbound, .allocateSend session size =>
      session.number = number && (allocateSend session size driver).value.isOk
  | _, _ => false

/-- A packet of a session is taken back: a received one is released, or an
allocated one is sent, and nothing is noted against it. -/
def regains
    (direction : Direction)
    (number : Nat)
    (driver : MemoryDriver)
    (request : Request) : Bool :=
  match direction, request with
  | .inbound, .releaseReceived session packet =>
      session.number = number && decide (Accepts driver .inbound session packet)
  | .outbound, .sendPacket session packet =>
      session.number = number && decide (Accepts driver .outbound session packet)
  | _, _ => false

/-- What is noted at the end of a session about packets that are out, if any
are. -/
def leftover (name : String) (count : Nat) (what : String) : List Violation :=
  if count = 0 then []
  else [⟨"end_session", s!"{name}: ended with {count} {what} packet(s)"⟩]

variable
  {driver : MemoryDriver}
  {number : Nat}
  {direction : Direction}
  {ring : PacketRing}
  {lents : List Lent}
  {packet : RawPacket}
  {entry : RunningSession}
  {books : Books}

theorem tally_concat
    (kind : MemoryDriver → Request → Bool)
    (driver : MemoryDriver)
    (requests : List Request)
    (request : Request) :
    tally kind driver (requests ++ [request]) =
      tally kind driver requests +
        if kind (driver.serveAll requests) request then 1 else 0 := by
  induction requests generalizing driver with
  | nil => rw [List.nil_append, tally, tally, tally, Nat.add_comm]; rfl
  | cons first rest hypothesis =>
      rw [List.cons_append, tally, tally, hypothesis, Nat.add_assoc]
      rfl

/-- A session that does not run takes nothing back. -/
theorem regains_of_gone
    (gone : driver.sessions.get? number = none)
    (request : Request) : driver.regains direction number request = false := by
  have refuses : ∀ way session packet, session.number = number →
      ¬ Accepts driver way session packet := by
    rintro way session packet rfl accepts
    obtain ⟨entry, _, found, _⟩ := (accepts_iff _ _ _ _).1.mp accepts
    cases gone.symm.trans found
  cases direction <;> cases request <;> try rfl
  case inbound.releaseReceived session packet =>
    simpa [regains] using refuses .inbound session packet
  case outbound.sendPacket session packet =>
    simpa [regains] using refuses .outbound session packet

/-! ## Books and counts -/

/-- Exactly one entry is noted for a packet that is lent. -/
theorem length_lend
    (books : Books)
    (direction other : Direction)
    (reply : Reply MemoryDriver (Outcome RawPacket)) :
    ((books.lend direction reply).lents other).length =
      (books.lents other).length +
        if other = direction ∧ reply.value.isOk = true then 1 else 0 := by
  unfold Books.lend
  by_cases same : other = direction
  · subst same
    cases reply.value <;> simp [Except.isOk, Except.toBool]
  · cases reply.value <;>
      simp [same, Books.lents_withLents_of_ne same]

/-- A packet that is lent is out. -/
theorem countP_returned_lend
    (books : Books)
    (direction other : Direction)
    (reply : Reply MemoryDriver (Outcome RawPacket)) :
    ((books.lend direction reply).lents other).countP (!·.isOut) =
      (books.lents other).countP (!·.isOut) := by
  unfold Books.lend
  by_cases same : other = direction
  · subst same
    cases reply.value <;> simp
  · cases reply.value <;> simp [Books.lents_withLents_of_ne same]

theorem length_handBack
    (books : Books)
    (driver : MemoryDriver)
    (number : Nat)
    (direction other : Direction)
    (packet : RawPacket) :
    ((books.handBack driver number direction packet).lents other).length =
      (books.lents other).length := by
  unfold Books.handBack
  split
  case isFalse => rfl
  case isTrue =>
    by_cases same : other = direction
    · subst same
      rw [Books.lents_withLents, giveBack, List.length_map]
    · rw [Books.lents_withLents_of_ne same]

/-- The books have an entry for every packet that was lent. -/
theorem length_note
    (books : Books)
    (driver : MemoryDriver)
    (number : Nat)
    (request : Request)
    (direction : Direction) :
    ((books.note driver number request).lents direction).length =
      (books.lents direction).length +
        if driver.lends direction number request then 1 else 0 := by
  cases request with
  | receivePacket | allocateSend =>
      rw [Books.note]
      split <;> cases direction <;> simp_all [length_lend, lends]
  | releaseReceived | sendPacket =>
      rw [Books.note]
      split <;> cases direction <;> simp [length_handBack, lends]
  | inject | drainOutbound =>
      rw [Books.note]
      split <;> cases direction <;> rfl
  | _ => cases direction <;> rfl

/-- What a packet names comes back. -/
theorem countP_returned_giveBack
    (driver : MemoryDriver)
    (direction : Direction)
    (packet : RawPacket)
    (lents : List Lent) :
    (giveBack driver direction packet lents).countP (!·.isOut) =
      lents.countP (!·.isOut) + lents.countP (·.isNamedBy packet) := by
  induction lents with
  | nil => rfl
  | cons lent rest hypothesis =>
      rw [giveBack, List.map_cons, ← giveBack, List.countP_cons,
        List.countP_cons, List.countP_cons, hypothesis]
      by_cases named : lent.isNamedBy packet = true
      · have out := (Lent.isNamedBy_iff.mp named).1
        simp [named, out]
        omega
      · simp [named]
        omega

section Running

variable
  (found : driver.sessions.get? number = some entry)
  (accounts : Accounts number entry books)

include found accounts

/-- A packet names one entry of the books if it is taken back, and none
otherwise. -/
theorem countP_isNamedBy (direction : Direction) (packet : RawPacket) :
    (books.lents direction).countP (·.isNamedBy packet) =
      if Accepts driver direction ⟨number⟩ packet then 1 else 0 := by
  have arranged := accounts.sound.arranged direction
  have tallies := accounts.tallies direction
  have taken := (accepts_iff driver direction ⟨number⟩ packet).1
  by_cases stands : ∃ position,
      StandsFor ⟨number⟩ direction (MemoryDriver.ring entry direction) packet
        position
  · obtain ⟨position, stands⟩ := stands
    rw [if_pos (taken.mpr ⟨entry, _, found,
      (accept_eq_ok_iff arranged).mpr ⟨position, stands, rfl⟩⟩)]
    exact countP_eq_one_of_getElem?
      (tallies.lt_length_of_standsFor arranged stands)
      fun other lent known => tallies.isNamedBy_iff_eq arranged stands known
  · have refused : ¬ Accepts driver direction ⟨number⟩ packet := by
      intro accepts
      obtain ⟨present, changed, runs, accepted⟩ := taken.mp accepts
      obtain rfl := Option.some.inj (found.symm.trans runs)
      obtain ⟨position, names, _⟩ := (accept_eq_ok_iff arranged).mp accepted
      exact stands ⟨position, names⟩
    rw [if_neg refused, List.countP_eq_zero]
    intro lent member named
    exact stands ((tallies.exists_isNamedBy_iff arranged).mp
      ⟨lent, member, named⟩)

theorem countP_returned_handBack
    (direction other : Direction)
    (packet : RawPacket) :
    ((books.handBack driver number direction packet).lents other).countP
        (!·.isOut) =
      (books.lents other).countP (!·.isOut) +
        if other = direction ∧ Accepts driver direction ⟨number⟩ packet then 1
        else 0 := by
  rw [Books.handBack, if_pos (Option.isSome_iff_exists.mpr ⟨entry, found⟩)]
  by_cases same : other = direction
  · subst same
    rw [Books.lents_withLents, countP_returned_giveBack,
      countP_isNamedBy found accounts]
    simp
  · rw [Books.lents_withLents_of_ne same, if_neg fun both => same both.1,
      Nat.add_zero]

/-- An entry of the books is closed for every packet that is taken back. -/
theorem countP_returned_note (request : Request) (direction : Direction) :
    ((books.note driver number request).lents direction).countP (!·.isOut) =
      (books.lents direction).countP (!·.isOut) +
        if driver.regains direction number request then 1 else 0 := by
  have handedBack := countP_returned_handBack found accounts
  cases request with
  | releaseReceived session packet | sendPacket session packet =>
      obtain ⟨other⟩ := session
      rw [Books.note]
      split
      case isTrue same =>
        cases same
        rw [handedBack]
        cases direction <;> simp [regains]
      case isFalse => cases direction <;> simp_all [regains]
  | receivePacket | allocateSend =>
      rw [Books.note]
      split <;> cases direction <;> simp [countP_returned_lend, regains]
  | inject | drainOutbound =>
      rw [Books.note]
      split <;> cases direction <;> rfl
  | _ => cases direction <;> rfl

end Running

/-- Every slot of a ring that is lent has an entry that is out. -/
theorem Tallies.count_eq
    (tallies : Tallies number direction ring lents)
    (arranged : Arranged ring) :
    ring.count (lentState direction) = lents.countP (·.isOut) := by
  have used : lentState direction ≠ .free := by cases direction <;> decide
  have tail_le : ring.tail ≤ lentCount direction ring :=
    tail_le_lentCount arranged
  have beyond : (ring.between (lentCount direction ring) ring.head).countP
      (·.state = lentState direction) = 0 := by
    refine PacketRing.countP_between_eq_zero fun position le lt => ?_
    cases direction with
    | inbound =>
        rcases arranged.pending position le lt with state | state <;>
          simp [state, lentState]
    | outbound => exact absurd lt le.not_gt
  have past : (lents.take ring.tail).countP (·.isOut) = 0 := by
    rw [List.countP_eq_zero]
    intro lent member out
    obtain ⟨position, inside, rfl⟩ := List.mem_take_iff_getElem.mp member
    have back := tallies.past position _ (by omega)
      (List.getElem?_eq_getElem (by omega))
    cases out.symm.trans back
  have flags : (lents.drop ring.tail).map (·.isOut) =
      (ring.between ring.tail (lentCount direction ring)).map fun slot =>
        decide (slot.state = lentState direction) := by
    refine List.ext_getElem (by simp [tallies.length_eq])
      fun index inside _ => ?_
    simp only [List.length_map, List.length_drop] at inside
    have shown := (tallies.present (ring.tail + index) _ (by omega)
      (List.getElem?_eq_getElem (by omega))).2
    simp only [List.getElem_map, List.getElem_drop, PacketRing.between,
      List.getElem_range', Nat.one_mul]
    exact Bool.eq_iff_iff.mpr (shown.trans decide_eq_true_iff.symm)
  have present : (lents.drop ring.tail).countP (·.isOut) =
      (ring.between ring.tail (lentCount direction ring)).countP
        (·.state = lentState direction) := by
    have same := congrArg (List.countP id) flags
    rwa [List.countP_map, List.countP_map] at same
  rw [arranged.count_eq_countP_between used,
    ← PacketRing.between_append tail_le (lentCount_le_head arranged),
    List.countP_append, beyond, Nat.add_zero, ← present,
    ← List.take_append_drop ring.tail lents, List.countP_append, past,
    Nat.zero_add, List.take_append_drop]

/-! ## Whole runs -/

/-- The books of a session count the packets that were lent and those that were
taken back. -/
theorem counts_ofRun
    (version : DriverVersion)
    (slotBudget : Option Nat)
    (requests : List Request)
    (number : Nat)
    (direction : Direction) :
    let lents :=
      (Books.ofRun version slotBudget requests number).lents direction
    lents.length =
        tally (lends direction number) (fresh version slotBudget) requests ∧
      lents.countP (!·.isOut) =
        tally (regains direction number) (fresh version slotBudget) requests := by
  induction requests using List.reverseRecOn with
  | nil => cases direction <;> exact ⟨rfl, rfl⟩
  | append_singleton requests request hypothesis =>
      obtain ⟨lent, returned⟩ := hypothesis
      rw [tally_concat, tally_concat, Books.ofRun_concat, ← lent, ← returned]
      refine ⟨length_note _ _ _ _ _, ?_⟩
      cases found : ((fresh version slotBudget).serveAll
          requests).sessions.get? number with
      | none =>
          rw [Books.note_of_gone found, regains_of_gone found]
          rfl
      | some entry =>
          exact countP_returned_note found
            ((life_accounts version slotBudget requests number).of_running
              found) request direction

/-- What is out of a ring was lent and not taken back. -/
theorem count_add_regains
    {version : DriverVersion}
    {slotBudget : Option Nat}
    {requests : List Request}
    (found : ((fresh version slotBudget).serveAll requests).sessions.get?
      number = some entry)
    (direction : Direction) :
    (MemoryDriver.ring entry direction).count (lentState direction) +
        tally (regains direction number) (fresh version slotBudget) requests =
      tally (lends direction number) (fresh version slotBudget) requests := by
  have accounts :=
    (life_accounts version slotBudget requests number).of_running found
  obtain ⟨lent, returned⟩ :=
    counts_ofRun version slotBudget requests number direction
  have total := @List.length_eq_countP_add_countP _ (·.isOut)
    ((Books.ofRun version slotBudget requests number).lents direction)
  simp only [Bool.not_eq_true, Bool.decide_eq_false] at total
  rw [(accounts.tallies direction).count_eq (accounts.sound.arranged direction),
    ← lent, ← returned, total]

/-- Running sessions have different numbers. -/
theorem proper_sessions_serve
    (proper : driver.sessions.IsProper)
    (request : Request) : (driver.serve request).sessions.IsProper := by
  have served := driver.served request
  generalize driver.serve request = next at served ⊢
  cases served with
  | noted _ alike => exact alike.sessions ▸ proper
  | deleted _ _ alike => exact alike.sessions ▸ proper
  | created | opened | closed | emptied | signalled => exact proper
  | started => exact proper.insert _ _
  | ended _ alike =>
      rw [alike.sessions]
      exact proper.erase _
  | turned => exact proper.insert _ _

theorem proper_sessions_serveAll
    (proper : driver.sessions.IsProper)
    (requests : List Request) :
    (driver.serveAll requests).sessions.IsProper :=
  @serveAll_keeps (·.sessions.IsProper) (fun _ => proper_sessions_serve) driver
    proper requests

/-- The packets that are out are counted session by session. -/
theorem outstandingPackets_eq
    (proper : driver.sessions.IsProper)
    {count : Nat → Nat}
    (counts : ∀ number entry, driver.sessions.get? number = some entry →
      entry.inbound.count .delivered = count number) :
    driver.outstandingPackets = (driver.sessions.keys.map count).sum := by
  have each : driver.sessions.values.map (·.inbound.count .delivered) =
      driver.sessions.keys.map count := by
    rw [Table.values, Table.keys, List.map_map, List.map_map]
    refine List.map_congr_left fun running member => ?_
    exact counts running.1 running.2
      ((Table.lookup_eq_some_iff proper).mpr member)
  rw [outstandingPackets, ← each, List.sum_eq_foldr, List.foldr_map]

theorem violations_violateLeft
    (name : String)
    (count : Nat)
    (what : String)
    (driver : MemoryDriver) :
    (violateLeft name count what driver).state.violations =
      driver.violations ++ leftover name count what := by
  unfold violateLeft leftover
  split
  case isTrue => exact (List.append_nil _).symm
  case isFalse => rfl

/-- The end of a session notes what its rings have out. -/
theorem violations_endSession
    (found : driver.sessions.get? number = some entry) :
    (driver.serve (.endSession ⟨number⟩)).violations =
      driver.violations ++
        (leftover (driver.deviceName entry.device)
          (entry.inbound.count .delivered) "unreleased" ++
        leftover (driver.deviceName entry.device)
          (entry.outbound.count .allocated) "unsent") := by
  change (endSession ⟨number⟩ driver).state.violations = _
  simp only [endSession, found, Action.state_andThen, dismissed_eq,
    violations_violateLeft, List.append_assoc]
  rfl

/-- After any requests to a new driver, the packets that are out are those that
were received from the running sessions less those whose release was accepted.
No session takes back more packets than it has lent, in either direction.  The
end of a running session notes the received packets that were not released and
the allocated ones that were not sent, by their numbers and only if there are
any, and nothing else. -/
theorem notes_what_is_left
    (version : DriverVersion)
    (slotBudget : Option Nat)
    (requests : List Request) :
    let driver := (fresh version slotBudget).serveAll requests
    let lent (direction : Direction) (number : Nat) :=
      tally (lends direction number) (fresh version slotBudget) requests
    let regained (direction : Direction) (number : Nat) :=
      tally (regains direction number) (fresh version slotBudget) requests
    driver.outstandingPackets =
      (driver.sessions.keys.map fun number =>
        lent .inbound number - regained .inbound number).sum ∧
    (∀ direction number, regained direction number ≤ lent direction number) ∧
    ∀ number entry, driver.sessions.get? number = some entry →
      (driver.serve (.endSession ⟨number⟩)).violations =
        driver.violations ++
          (leftover (driver.deviceName entry.device)
            (lent .inbound number - regained .inbound number) "unreleased" ++
          leftover (driver.deviceName entry.device)
            (lent .outbound number - regained .outbound number) "unsent") := by
  intro driver lent regained
  have out : ∀ direction number entry,
      driver.sessions.get? number = some entry →
        (MemoryDriver.ring entry direction).count (lentState direction) =
          lent direction number - regained direction number := by
    intro direction number entry found
    have counted := count_add_regains found direction
    exact Nat.eq_sub_of_add_eq counted
  refine ⟨?_, fun direction number => ?_, fun number entry found => ?_⟩
  · exact outstandingPackets_eq
      (proper_sessions_serveAll Table.isProper_empty requests)
      (out .inbound)
  · obtain ⟨given, returned⟩ :=
      counts_ofRun version slotBudget requests number direction
    change tally _ _ _ ≤ tally _ _ _
    rw [← given, ← returned]
    exact List.countP_le_length
  · rw [← out .inbound number entry found, ← out .outbound number entry found]
    exact violations_endSession found

/-- Two packets are received and one of them is released, twice; a buffer is
allocated and never sent. -/
theorem notes_what_is_left_of_two :
    let requests : List Request :=
      [.createAdapter "x" "t" none, .startSession ⟨2⟩ 4, .inject "x" [1],
        .inject "x" [2], .receivePacket ⟨3⟩, .receivePacket ⟨3⟩,
        .releaseReceived ⟨3⟩ ⟨⟨.slot 3 .inbound 0, 0⟩, 1, 0x100000000⟩,
        .releaseReceived ⟨3⟩ ⟨⟨.slot 3 .inbound 0, 0⟩, 1, 0x100000000⟩,
        .allocateSend ⟨3⟩ 7]
    let driver := (fresh defaultVersion none).serveAll requests
    driver.outstandingPackets = 1 ∧
    (driver.serve (.endSession ⟨3⟩)).violations = driver.violations ++
      [⟨"end_session", "x: ended with 1 unreleased packet(s)"⟩,
        ⟨"end_session", "x: ended with 1 unsent packet(s)"⟩] := by
  intro requests driver
  obtain ⟨outstanding, _, ending⟩ :=
    notes_what_is_left defaultVersion none requests
  have runs : (driver.sessions.get? 3).isSome := by decide +kernel
  obtain ⟨entry, found⟩ := Option.isSome_iff_exists.mp runs
  have onFirst : (driver.sessions.get? 3).map (·.device) = some 1 := by
    decide +kernel
  rw [found] at onFirst
  have device : entry.device = 1 := Option.some.inj onFirst
  have notes := ending 3 entry found
  rw [device] at notes
  refine ⟨outstanding.trans (by decide +kernel), notes.trans ?_⟩
  decide +kernel

end MemoryDriver
end Memory
end VirtualAdapter

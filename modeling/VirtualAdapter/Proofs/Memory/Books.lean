import VirtualAdapter.Proofs.Memory.HandBacks
import VirtualAdapter.Proofs.Memory.Names
import VirtualAdapter.Proofs.Memory.ReadEvents
import VirtualAdapter.Proofs.Ring.Generations

/-!
# The books of a session

Requests and their answers tell what went through a session: the contents that
were put in for it, the packets that it lent in either direction and that came
back, and what was taken out.  The books are kept from these alone, without a
look at the rings.  Every request that concerns a running session turns its
rings and its books together in one of a few ways.
-/

namespace VirtualAdapter
namespace Memory

open VirtualAdapter.Ring (PacketRing)
open VirtualAdapter.Ring.PacketRing
  (Arranged Coeval Counted Layout Ready lt_of_isFull_eq_false)

/-- A packet that a session has lent. -/
structure Lent where
  /-- The packet as it was given out. -/
  packet : RawPacket
  /-- What it held when it was received, or when it was sent. -/
  content : Bytes
  /-- It was not given back yet. -/
  isOut : Bool := true

/-- What requests and answers tell of a session. -/
structure Books where
  /-- The contents that were put in for it, first ones first. -/
  accepted : List Bytes := []
  /-- The packets that were received from it. -/
  received : List Lent := []
  /-- The buffers that were allocated on it. -/
  allocated : List Lent := []
  /-- The contents that were taken out. -/
  drained : List Bytes := []

namespace Lent

/-- A packet that goes back is this one: both have one tag and one address. -/
def isNamedBy (lent : Lent) (packet : RawPacket) : Bool :=
  lent.isOut && lent.packet.tag == packet.tag &&
    lent.packet.address == packet.address

/-- The packet goes back; what is sent is what it holds by then. -/
def close (driver : MemoryDriver) : Direction → Lent → Lent
  | .inbound, lent => { lent with isOut := false }
  | .outbound, lent =>
      { lent with
        isOut := false
        content := MemoryDriver.readPacket lent.packet driver }

theorem isNamedBy_iff {lent : Lent} {packet : RawPacket} :
    lent.isNamedBy packet = true ↔
      lent.isOut = true ∧ lent.packet.tag = packet.tag ∧
        lent.packet.address = packet.address := by
  simp [isNamedBy, and_assoc]

@[simp]
theorem isOut_close (driver : MemoryDriver) (direction : Direction) (lent : Lent) :
    (lent.close driver direction).isOut = false := by
  cases direction <;> rfl

@[simp]
theorem packet_close (driver : MemoryDriver) (direction : Direction) (lent : Lent) :
    (lent.close driver direction).packet = lent.packet := by
  cases direction <;> rfl

end Lent

/-- The lent packets after one of them may have come back. -/
def giveBack
    (driver : MemoryDriver)
    (direction : Direction)
    (packet : RawPacket)
    (lents : List Lent) : List Lent :=
  lents.map fun lent =>
    if lent.isNamedBy packet then lent.close driver direction else lent

/-- What was lent before stays noted, and what came back is not out again. -/
def Extends (lents later : List Lent) : Prop :=
  ∀ (position : Nat) (lent : Lent), lents[position]? = some lent →
    ∃ after : Lent, later[position]? = some after ∧ after.packet = lent.packet ∧
      (after.isOut = true → lent.isOut = true)

namespace Extends

theorem refl (lents : List Lent) : Extends lents lents :=
  fun _ lent found => ⟨lent, found, rfl, id⟩

theorem trans
    {lents later last : List Lent}
    (first : Extends lents later)
    (second : Extends later last) : Extends lents last := by
  intro position lent found
  obtain ⟨between, present, same, out⟩ := first position lent found
  obtain ⟨after, known, equal, still⟩ := second position between present
  exact ⟨after, known, equal.trans same, fun isOut => out (still isOut)⟩

theorem append (lents more : List Lent) : Extends lents (lents ++ more) :=
  fun _ lent found =>
    ⟨lent, (List.getElem?_append_left
      (List.getElem?_eq_some_iff.mp found).1).trans found, rfl, id⟩

theorem giveBack
    (driver : MemoryDriver)
    (direction : Direction)
    (packet : RawPacket)
    (lents : List Lent) :
    Extends lents (giveBack driver direction packet lents) := by
  intro position lent found
  refine ⟨_, by rw [Memory.giveBack, List.getElem?_map, found]; rfl, ?_⟩
  dsimp only
  split
  · exact ⟨Lent.packet_close _ _ _, by simp⟩
  · exact ⟨rfl, id⟩

/-- Nothing that was lent before a packet went back is named by it later. -/
theorem unnamed
    {driver : MemoryDriver}
    {direction : Direction}
    {packet : RawPacket}
    {lents later : List Lent}
    (extend : Extends (Memory.giveBack driver direction packet lents) later)
    {position : Nat}
    {lent : Lent}
    (found : lents[position]? = some lent) :
    ∃ after : Lent, later[position]? = some after ∧
      after.packet = lent.packet ∧ after.isNamedBy packet = false := by
  obtain ⟨after, shown, same, out⟩ := extend position
    (if lent.isNamedBy packet then lent.close driver direction else lent)
    (by rw [Memory.giveBack, List.getElem?_map, found]; rfl)
  have packet_eq : after.packet = lent.packet := by
    rw [same]
    split <;> simp
  refine ⟨after, shown, packet_eq, Bool.eq_false_iff.mpr fun named => ?_⟩
  obtain ⟨isOut, bears⟩ := Lent.isNamedBy_iff.mp named
  have still := out isOut
  split at still
  case isTrue => simp at still
  case isFalse unnamed =>
    exact unnamed (Lent.isNamedBy_iff.mpr ⟨still, packet_eq ▸ bears⟩)

end Extends

namespace Books

/-- The packets that were lent in a direction, first ones first. -/
def lents (books : Books) : Direction → List Lent
  | .inbound => books.received
  | .outbound => books.allocated

/-- The books with other packets lent in a direction. -/
def withLents
    (books : Books)
    (direction : Direction)
    (lents : List Lent) : Books :=
  match direction with
  | .inbound => { books with received := lents }
  | .outbound => { books with allocated := lents }

@[simp]
theorem lents_withLents
    (books : Books)
    (direction : Direction)
    (lents : List Lent) : (books.withLents direction lents).lents direction = lents := by
  cases direction <;> rfl

@[simp]
theorem withLents_lents (books : Books) (direction : Direction) :
    books.withLents direction (books.lents direction) = books := by
  cases direction <;> rfl

theorem lents_withLents_of_ne
    {direction other : Direction}
    (differs : other ≠ direction)
    (books : Books)
    (lents : List Lent) :
    (books.withLents direction lents).lents other = books.lents other := by
  cases direction <;> cases other <;> first | rfl | exact absurd rfl differs

/-- Note the packet that a call lent, if it did. -/
def lend
    (books : Books)
    (direction : Direction)
    (reply : Reply MemoryDriver (Outcome RawPacket)) : Books :=
  match reply.value with
  | .error _ => books
  | .ok packet =>
      books.withLents direction (books.lents direction ++
        [{ packet, content := MemoryDriver.readPacket packet reply.state }])

/-- A packet that was lent is noted with what it holds. -/
theorem lend_of_ok
    {books : Books}
    {direction : Direction}
    {reply : Reply MemoryDriver (Outcome RawPacket)}
    {packet : RawPacket}
    {content : Bytes}
    (lent : reply.value = .ok packet)
    (held : MemoryDriver.readPacket packet reply.state = content) :
    books.lend direction reply =
      books.withLents direction
        (books.lents direction ++ [⟨packet, content, true⟩]) := by
  rw [lend, lent]
  dsimp only
  rw [held]

/-- Note that a packet was handed back to a session while it ran. -/
def handBack
    (books : Books)
    (driver : MemoryDriver)
    (number : Nat)
    (direction : Direction)
    (packet : RawPacket) : Books :=
  if (driver.sessions.get? number).isSome then
    books.withLents direction
      (giveBack driver direction packet (books.lents direction))
  else books

/-- Note a request to a driver with its answer, as far as it concerns a
session. -/
def note
    (driver : MemoryDriver)
    (number : Nat)
    (books : Books) : Request → Books
  | .inject name content =>
      if driver.runsUnder number name ∧
          (MemoryDriver.inject name content driver).value = true then
        { books with accepted := books.accepted ++ [content] }
      else books
  | .receivePacket session =>
      if session.number = number then
        books.lend .inbound (MemoryDriver.receivePacket session driver)
      else books
  | .releaseReceived session packet =>
      if session.number = number then
        books.handBack driver number .inbound packet
      else books
  | .allocateSend session size =>
      if session.number = number then
        books.lend .outbound (MemoryDriver.allocateSend session size driver)
      else books
  | .sendPacket session packet =>
      if session.number = number then
        books.handBack driver number .outbound packet
      else books
  | .drainOutbound name =>
      if driver.runsUnder number name then
        { books with
          drained := books.drained ++
            (MemoryDriver.drainOutbound name driver).value }
      else books
  | _ => books

/-- A packet that is handed back to a running session is noted. -/
theorem note_handBack
    {driver : MemoryDriver}
    {session : SessionHandle}
    (runs : (driver.sessions.get? session.number).isSome)
    (books : Books)
    (direction : Direction)
    (packet : RawPacket) :
    books.note driver session.number (.handBack direction session packet) =
      books.withLents direction
        (giveBack driver direction packet (books.lents direction)) := by
  have noted : books.handBack driver session.number direction packet = _ :=
    if_pos runs
  cases direction with
  | inbound => exact (if_pos rfl).trans noted
  | outbound => exact (if_pos rfl).trans noted

/-- Books with packets lent in one direction extend others in both. -/
theorem extends_withLents
    {books : Books}
    {direction : Direction}
    {lents : List Lent}
    (extend : Extends (books.lents direction) lents)
    (other : Direction) :
    Extends (books.lents other) ((books.withLents direction lents).lents other) := by
  by_cases same : other = direction
  · subst same
    rwa [lents_withLents]
  · rw [lents_withLents_of_ne same]
    exact .refl _

/-- Requests only add packets and close those that are out. -/
theorem extends_note
    (driver : MemoryDriver)
    (number : Nat)
    (books : Books)
    (request : Request)
    (direction : Direction) :
    Extends (books.lents direction)
      ((books.note driver number request).lents direction) := by
  have lend : ∀ way reply,
      Extends (books.lents direction) ((books.lend way reply).lents direction) := by
    intro way reply
    unfold lend
    split
    · exact .refl _
    · exact extends_withLents (.append _ _) direction
  have handBack : ∀ way packet, Extends (books.lents direction)
      ((books.handBack driver number way packet).lents direction) := by
    intro way packet
    unfold handBack
    split
    · exact extends_withLents (.giveBack _ _ _ _) direction
    · exact .refl _
  cases request with
  | receivePacket | allocateSend =>
      rw [note]
      split
      · exact lend _ _
      · exact .refl _
  | releaseReceived | sendPacket =>
      rw [note]
      split
      · exact handBack _ _
      · exact .refl _
  | inject | drainOutbound =>
      rw [note]
      split <;> cases direction <;> exact .refl _
  | _ => exact .refl _

/-- Nothing goes through a session that does not run. -/
theorem note_of_gone
    {driver : MemoryDriver}
    {number : Nat}
    (gone : driver.sessions.get? number = none)
    (books : Books)
    (request : Request) : books.note driver number request = books := by
  have idle : ∀ name, driver.runsUnder number name = false := fun name => by
    simp [MemoryDriver.runsUnder, gone]
  cases request with
  | inject name content => exact if_neg (by simp [idle])
  | drainOutbound name => exact if_neg (by simp [idle])
  | receivePacket session =>
      rw [note]
      split
      case isFalse => rfl
      case isTrue same =>
        subst same
        simp only [lend, MemoryDriver.receivePacket, gone, refuse]
  | allocateSend session size =>
      rw [note]
      split
      case isFalse => rfl
      case isTrue same =>
        subst same
        simp only [lend, MemoryDriver.allocateSend, gone]
        cases validatePacketSize size <;> rfl
  | releaseReceived | sendPacket =>
      rw [note, handBack, gone]
      exact ite_self books
  | _ => rfl

/-- The books after several requests to a driver, the first one first. -/
def keep
    (number : Nat) : MemoryDriver → Books → List Request → Books
  | _, books, [] => books
  | driver, books, request :: requests =>
      keep number (driver.serve request) (books.note driver number request)
        requests

theorem keep_append
    (driver : MemoryDriver)
    (number : Nat)
    (books : Books)
    (earlier later : List Request) :
    keep number driver books (earlier ++ later) =
      keep number (driver.serveAll earlier) (keep number driver books earlier)
        later := by
  induction earlier generalizing driver books with
  | nil => rfl
  | cons request earlier hypothesis => exact hypothesis _ _

theorem extends_keep
    (driver : MemoryDriver)
    (number : Nat)
    (books : Books)
    (requests : List Request)
    (direction : Direction) :
    Extends (books.lents direction)
      ((keep number driver books requests).lents direction) := by
  induction requests generalizing driver books with
  | nil => exact .refl _
  | cons request requests hypothesis =>
      exact (extends_note driver number books request direction).trans
        (hypothesis _ _)

/-- The books that requests and their answers tell of a session of a new
driver. -/
def ofRun
    (version : DriverVersion)
    (slotBudget : Option Nat)
    (requests : List Request)
    (number : Nat) : Books :=
  keep number (MemoryDriver.fresh version slotBudget) {} requests

theorem ofRun_append
    (version : DriverVersion)
    (slotBudget : Option Nat)
    (earlier later : List Request)
    (number : Nat) :
    ofRun version slotBudget (earlier ++ later) number =
      keep number ((MemoryDriver.fresh version slotBudget).serveAll earlier)
        (ofRun version slotBudget earlier number) later :=
  keep_append _ _ _ _ _

/-- Once a packet was handed back, what was lent goes on from there. -/
theorem extends_ofRun_handBack
    {version : DriverVersion}
    {slotBudget : Option Nat}
    {requests : List Request}
    {session : SessionHandle}
    (runs : (((MemoryDriver.fresh version slotBudget).serveAll
      requests).sessions.get? session.number).isSome)
    (direction : Direction)
    (packet : RawPacket)
    (later : List Request) :
    Extends
      (giveBack ((MemoryDriver.fresh version slotBudget).serveAll requests)
        direction packet
        ((ofRun version slotBudget requests session.number).lents direction))
      ((ofRun version slotBudget
        (requests ++ .handBack direction session packet :: later)
        session.number).lents direction) := by
  rw [ofRun_append, keep, note_handBack runs]
  generalize giveBack _ direction packet _ = lents
  have kept := extends_keep (((MemoryDriver.fresh version slotBudget).serveAll
    requests).serve (.handBack direction session packet)) session.number
    ((ofRun version slotBudget requests session.number).withLents direction
      lents) later direction
  rwa [lents_withLents] at kept

theorem ofRun_concat
    (version : DriverVersion)
    (slotBudget : Option Nat)
    (requests : List Request)
    (request : Request)
    (number : Nat) :
    ofRun version slotBudget (requests ++ [request]) number =
      (ofRun version slotBudget requests number).note
        ((MemoryDriver.fresh version slotBudget).serveAll requests) number
        request :=
  keep_append _ _ _ _ _

end Books
end Memory
end VirtualAdapter

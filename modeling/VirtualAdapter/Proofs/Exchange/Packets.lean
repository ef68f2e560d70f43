import VirtualAdapter.Proofs.Exchange.Leads
import VirtualAdapter.Host.Session

/-!
# Packets keep the books

A packet is kept from the moment at which the driver has lent it, and given
back when it is released, sent or dropped.  A buffer that is too short and a
buffer that is dropped unsent make no difference.
-/

namespace VirtualAdapter
namespace Host

open Ledger

variable {State : Type} [Driver State]
variable {hands : Hands} {id : SessionId}

/-! ## Giving back -/

/-- A packet that is held and the session that has lent it. -/
structure IsLent
    (kept : Holdings)
    (packet : PacketId)
    (held : HeldPacket)
    (session : Session) : Prop where
  /-- The packet is held. -/
  found : kept.packets.get? packet = some held
  /-- Its session is there. -/
  lender : kept.sessions.get? held.session = some session.core

omit [Driver State] in
/-- Go on with a packet that is held and the session that has lent it. -/
theorem withPacket_leads
    {before after : Holdings → Prop}
    {packet : PacketId}
    {continuation : HeldPacket → Session → Action (Host (Recorded State)) Unit}
    (books : ∀ kept, before kept → Books hands none kept)
    (gone : ∀ kept, before kept → kept.packets.get? packet = none → after kept)
    (goes : ∀ held session,
      Leads (fun kept => before kept ∧ IsLent kept packet held session)
        (continuation held session) fun _ => after) :
    Leads before (withPacket packet continuation) fun _ => after := by
  unfold withPacket
  refine (Leads.packet? packet).bind fun found => ?_
  cases found with
  | none => exact Leads.answer fun kept _ given => gone kept given.1 given.2
  | some held =>
      refine (Leads.session? held.session).bind fun found => ?_
      cases found with
      | none =>
          apply Leads.answer
          rintro kept _ ⟨⟨given, lent⟩, absent⟩
          obtain ⟨_, session, lender⟩ :=
            (books kept given).borrowed packet held lent
          have contradiction := absent.symm.trans lender
          simp at contradiction
      | some session =>
          exact (goes held session).given fun _ _ given =>
            ⟨given.1.1, given.1.2, given.2⟩

section GivingBack

variable {packet : PacketId} {held : HeldPacket} {session : Session}

/-- The books are right, and the packet can be given back. -/
structure Owes
    (hands : Hands)
    (packet : PacketId)
    (held : HeldPacket)
    (session : Session)
    (direction : Direction)
    (kept : Holdings) : Prop extends IsLent kept packet held session where
  /-- The books are right. -/
  books : Books { hands with packets := packet :: hands.packets } none kept
  /-- The packet goes this way. -/
  goes : held.direction = direction

omit [Driver State] in
theorem forgetPacket_leads {before : Holdings → Prop} :
    Leads before
      (forgetPacket packet : Action (Host (Recorded State)) Unit)
      fun _ kept => ∃ earlier, before earlier ∧
        kept = earlier.dropPacket packet where
  grows := fun _ => List.prefix_rfl
  leads := fun host _ given => ⟨holdings host, given, rfl⟩

omit [Driver State] in
/-- A packet that is forgotten goes back to the driver. -/
theorem goingBack
    {direction : Direction}
    {action : Action (Host (Recorded State)) Unit}
    (effect : ∀ host, holdings (action host).state =
      (holdings host).record (.returning direction session.handle held.raw))
    (orderly : hands.Orderly) :
    Leads
      (fun kept => ∃ earlier, Owes hands packet held session direction earlier ∧
        kept = earlier.dropPacket packet)
      action fun _ => Books hands none := by
  refine (Leads.of_call
    (fun _ => .returning direction session.handle held.raw) effect).gives ?_
  rintro _ _ dependable ⟨_, ⟨earlier, owes, rfl⟩, rfl⟩
  have returned := owes.books.returning orderly dependable.of_record
    owes.found owes.lender
  rw [owes.goes] at returned
  exact returned

theorem releaseReceived_leads (orderly : hands.Orderly) :
    Leads (Owes hands packet held session .inbound)
      (releaseReceived packet held session :
        Action (Host (Recorded State)) Unit)
      fun _ => Books hands none :=
  forgetPacket_leads.bind fun _ => goingBack (fun _ => rfl) orderly

theorem commitPacket_leads (orderly : hands.Orderly) :
    Leads (Owes hands packet held session .outbound)
      (commitPacket packet held session :
        Action (Host (Recorded State)) Unit)
      fun _ => Books hands none := by
  refine forgetPacket_leads.bind fun _ => ?_
  refine (goingBack (fun _ => rfl) orderly).bind fun _ => ?_
  refine (Leads.of_same fun _ => holdings_count _ _ _).bind fun _ => ?_
  exact Leads.of_same fun _ => rfl

omit [Driver State] in
/-- Writing to a packet is not the books' business. -/
theorem Books.writing
    {loose : Option AdapterId}
    {kept : Holdings}
    (books : Books hands loose kept)
    (raw : RawPacket)
    (start : Nat)
    (content : Bytes) :
    Books hands loose (kept.record (.wrote raw start content)) :=
  books.note ⟨rfl, rfl, rfl, rfl, rfl, rfl⟩ nofun nofun

theorem writePacket_leads
    {before : Holdings → Prop}
    (start : Nat)
    (content : Bytes)
    (stays : ∀ kept, before kept →
      before (kept.record (.wrote held.raw start content))) :
    Leads before
      (writePacket held start content : Action (Host (Recorded State)) Unit)
      fun _ => before :=
  Leads.of_change (·.record (.wrote held.raw start content)) (fun _ => rfl)
    (fun _ => List.prefix_append _ _) fun _ kept _ given => stays kept given

/-- A buffer that is dropped unsent is sent with zeros in it. -/
theorem discardPacket_leads (orderly : hands.Orderly) :
    Leads (Owes hands packet held session .outbound)
      (discardPacket packet held session :
        Action (Host (Recorded State)) Unit)
      fun _ => Books hands none := by
  unfold discardPacket
  refine (Leads.of_same fun _ => rfl).bind fun _ => ?_
  refine Leads.bind (writePacket_leads _ _ ?_) fun _ => ?_
  · exact fun kept owes =>
      ⟨⟨owes.found, owes.lender⟩, owes.books.writing _ _ _, owes.goes⟩
  refine forgetPacket_leads.bind fun _ => ?_
  exact goingBack (fun _ => rfl) orderly

end GivingBack

/-- A received packet is released, and one to be sent is settled somehow. -/
theorem settling_leads
    (orderly : hands.Orderly)
    (packet : PacketId)
    {settle : PacketId → HeldPacket → Session →
      Action (Host (Recorded State)) Unit}
    (settles : ∀ held session,
      Leads (Owes hands packet held session .outbound)
        (settle packet held session) fun _ => Books hands none) :
    Leads (Books { hands with packets := packet :: hands.packets } none)
      (withPacket packet fun held session =>
        match held.direction with
        | .inbound => releaseReceived packet held session
        | .outbound => settle packet held session)
      fun _ => Books hands none := by
  refine withPacket_leads (fun _ books => books)
    (fun _ books gone => books.of_packet_gone gone) fun held session => ?_
  split
  case h_1 direction =>
    exact (releaseReceived_leads orderly).given fun _ _ given =>
      ⟨given.2, given.1, direction⟩
  case h_2 direction =>
    exact (settles held session).given fun _ _ given =>
      ⟨given.2, given.1, direction⟩

theorem finishPacket_leads (orderly : hands.Orderly) (packet : PacketId) :
    Leads (Books { hands with packets := packet :: hands.packets } none)
      (finishPacket packet : Action (Host (Recorded State)) Unit)
      fun _ => Books hands none :=
  settling_leads orderly packet fun _ _ => commitPacket_leads orderly

theorem dropPacket_leads (orderly : hands.Orderly) (packet : PacketId) :
    Leads (Books { hands with packets := packet :: hands.packets } none)
      (dropPacket packet : Action (Host (Recorded State)) Unit)
      fun _ => Books hands none :=
  settling_leads orderly packet fun _ _ => discardPacket_leads orderly

/-! ## Borrowing -/

/-- Go on with a session that is open. -/
theorem whileOpen_leads
    {Value : Type}
    {after : Outcome Value → Holdings → Prop}
    {continuation : Session → Action (Host (Recorded State)) (Outcome Value)}
    (refused : ∀ kept, Books hands none kept →
      after (refuse .sessionEnded) kept)
    (goes : ∀ session,
      Leads (fun kept => Books hands none kept ∧
          kept.sessions.get? id = some session.core)
        (continuation session) after) :
    Leads (Books hands none) (whileOpen id continuation) after := by
  unfold whileOpen
  refine (Leads.session? id).bind fun found => ?_
  cases found with
  | none => exact Leads.answer fun kept _ given => refused kept given.1
  | some session =>
      refine (Leads.of_same fun _ => rfl).bind fun shut => ?_
      split
      case isTrue => exact Leads.answer fun kept _ given => refused kept given.1
      case isFalse => exact goes session

section Borrowing

variable {session : Session} {direction : Direction}

omit [Driver State] in
/-- A packet that was lent is kept as what it is. -/
theorem keepPacket_leads
    (orderly : hands.Orderly)
    (staying : id ∉ hands.ending)
    (raw : RawPacket) :
    Leads
      (fun kept => ∃ earlier,
        (Books hands none earlier ∧
          earlier.sessions.get? id = some session.core) ∧
        kept = earlier.record (.lending direction session.handle (.ok raw)))
      (keepPacket id direction raw :
        Action (Host (Recorded State)) PacketId)
      fun packet kept =>
        Books { hands with packets := packet :: hands.packets } none kept ∧
        kept.packets.get? packet = some ⟨id, direction, raw⟩ where
  grows := fun _ => List.prefix_rfl
  leads := by
    rintro host dependable ⟨earlier, ⟨books, found⟩, same⟩
    have effect : holdings (keepPacket id direction raw host).state =
        (holdings host).keep ⟨id, direction, raw⟩ := rfl
    have earlier_dependable : Dependable earlier.log := by
      rw [effect, same] at dependable
      exact dependable.of_prefix (List.prefix_append _ _)
    have number : (keepPacket id direction raw host).value =
        earlier.lastNumber + 1 :=
      congrArg (· + 1) (congrArg Holdings.lastNumber same)
    refine ⟨?_, (Table.get?_insert _ _ _ _).trans (if_pos rfl)⟩
    rw [effect, number, same]
    exact books.borrowing orderly earlier_dependable found staying direction raw

/-- A packet that was refused is not kept. -/
theorem books_of_refused
    (orderly : hands.Orderly)
    (staying : id ∉ hands.ending)
    {failure : Failure}
    {kept : Holdings}
    (dependable : Dependable kept.log)
    (refused : ∃ earlier,
      (Books hands none earlier ∧
        earlier.sessions.get? id = some session.core) ∧
      kept = earlier.record
        (.lending direction session.handle (.error failure))) :
    Books hands none kept := by
  obtain ⟨earlier, ⟨books, found⟩, rfl⟩ := refused
  exact books.refusing orderly dependable.of_record found staying direction
    failure

end Borrowing

/-- A packet that was received is in its caller's hands. -/
theorem tryReceive_leads
    (orderly : hands.Orderly)
    (staying : id ∉ hands.ending) :
    Leads (Books hands none)
      (tryReceive id : Action (Host (Recorded State)) (Outcome PacketId))
      fun outcome => Books ((Held.ofPacket outcome).hands ++ hands) none := by
  apply whileOpen_leads fun _ books => books
  intro session
  refine (Leads.of_call (.lending .inbound session.handle) fun _ => rfl).bind
    fun outcome => ?_
  cases outcome with
  | error failure =>
      exact Leads.answer fun _ dependable refused =>
        books_of_refused orderly staying dependable refused
  | ok raw =>
      refine (Leads.of_same fun _ => holdings_count _ _ _).bind fun _ => ?_
      refine (Leads.of_same fun _ => rfl).bind fun _ => ?_
      refine (keepPacket_leads orderly staying raw).bind fun packet => ?_
      exact Leads.answer fun _ _ given => given.1

omit [Driver State] in
theorem noteRefusal_leads
    {before : Holdings → Prop}
    (size : Nat)
    (failure : Failure) :
    Leads before
      (noteRefusal id size failure : Action (Host (Recorded State)) Unit)
      fun _ => before := by
  unfold noteRefusal
  split
  · refine (Leads.of_same fun _ => holdings_count _ _ _).bind fun _ => ?_
    exact Leads.of_same fun _ => rfl
  · exact Leads.done

/-- A buffer that was allocated is one to be sent, in its caller's hands. -/
theorem allocateSend_leads
    (orderly : hands.Orderly)
    (staying : id ∉ hands.ending)
    (size : Nat) :
    Leads (Books hands none)
      (allocateSend id size :
        Action (Host (Recorded State)) (Outcome PacketId))
      fun outcome kept =>
        Books ((Held.ofPacket outcome).hands ++ hands) none kept ∧
        ∀ packet, outcome = .ok packet →
          ∀ held, kept.packets.get? packet = some held →
            held.direction = .outbound := by
  apply whileOpen_leads fun _ books => ⟨books, by rintro _ ⟨⟩⟩
  intro session
  split
  case h_1 => exact Leads.answer fun _ _ given => ⟨given.1, by rintro _ ⟨⟩⟩
  case h_2 size _ =>
    refine (Leads.of_call (.lending .outbound session.handle)
      fun _ => rfl).bind fun outcome => ?_
    cases outcome with
    | ok raw =>
        refine (keepPacket_leads orderly staying raw).bind fun packet => ?_
        apply Leads.answer
        rintro kept _ ⟨books, found⟩
        refine ⟨books, ?_⟩
        rintro _ ⟨⟩ held present
        rw [found] at present
        cases present
        rfl
    | error failure =>
        refine (noteRefusal_leads size failure).bind fun _ => ?_
        exact Leads.answer fun _ dependable refused =>
          ⟨books_of_refused orderly staying dependable refused,
            by rintro _ ⟨⟩⟩

/-- A buffer to be sent is filled and sent. -/
theorem fillAndCommit_leads
    (orderly : hands.Orderly)
    (packet : PacketId)
    (content : Bytes) :
    Leads
      (fun kept =>
        Books { hands with packets := packet :: hands.packets } none kept ∧
        ∀ held, kept.packets.get? packet = some held →
          held.direction = .outbound)
      (withPacket packet fun held session => do
        writePacket held 0 content
        commitPacket packet held session :
          Action (Host (Recorded State)) Unit)
      fun _ => Books hands none := by
  refine withPacket_leads (fun _ given => given.1)
    (fun _ given gone => Books.of_packet_gone given.1 gone)
    fun held session => ?_
  refine Leads.bind (writePacket_leads _ _ ?_) fun _ => ?_
  · rintro kept ⟨⟨books, outbound⟩, lent⟩
    exact ⟨⟨books.writing _ _ _, outbound⟩, lent.found, lent.lender⟩
  refine (commitPacket_leads orderly).given ?_
  rintro _ _ ⟨⟨books, outbound⟩, lent⟩
  exact ⟨lent, books, outbound held lent.found⟩

/-- A buffer that is sent at once is in nobody's hands afterwards. -/
theorem trySend_keeps
    (orderly : hands.Orderly)
    (staying : id ∉ hands.ending)
    (content : Bytes) :
    Keeps hands (trySend id content :
      Action (Host (Recorded State)) (Outcome Unit)) := by
  unfold trySend
  refine (allocateSend_leads orderly staying _).bind fun outcome => ?_
  cases outcome with
  | error failure => exact Leads.answer fun _ _ given => given.1
  | ok packet =>
      refine Leads.bind ((fillAndCommit_leads orderly packet content).given ?_)
        fun _ => Leads.done
      exact fun _ _ given => ⟨given.1, given.2 packet rfl⟩

/-- A packet that is copied is given back, also when its buffer is too short. -/
theorem copyOut_leads
    (orderly : hands.Orderly)
    (received : Outcome PacketId)
    (buffer : Bytes) :
    Leads (Books ((Held.ofPacket received).hands ++ hands) none)
      (copyOut received buffer : Action (Host (Recorded State)) Copied)
      fun _ => Books hands none := by
  unfold copyOut
  cases received with
  | error failure => exact Leads.answer fun _ _ books => books
  | ok packet =>
      refine (Leads.packet? packet).bind fun found => ?_
      cases found with
      | none =>
          exact Leads.answer fun _ _ given =>
            Books.of_packet_gone given.1 given.2
      | some held =>
          refine Leads.given ?_ fun _ _ given => given.1
          refine (Leads.of_same fun _ => rfl).bind fun content => ?_
          refine (finishPacket_leads orderly packet).bind fun _ => ?_
          split <;> exact Leads.done

theorem tryReceiveInto_keeps
    (orderly : hands.Orderly)
    (staying : id ∉ hands.ending)
    (buffer : Bytes) :
    Keeps hands (tryReceiveInto id buffer :
      Action (Host (Recorded State)) Copied) :=
  (tryReceive_leads orderly staying).bind fun received =>
    copyOut_leads orderly received buffer

end Host
end VirtualAdapter

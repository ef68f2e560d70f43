import VirtualAdapter.Proofs.Exchange.Sessions
import VirtualAdapter.Proofs.Exchange.Waiting

/-!
# What callers do

An operation takes some of what its caller holds and leaves something in the
caller's hands.  An operation that the borrows allow keeps the books.
-/

namespace VirtualAdapter
namespace Host

open Signal (Nanoseconds)

/-- What a caller does in one go, or what happens elsewhere. -/
inductive Operation (State : Type)
  | newManager (config : ManagerConfig)
  | setLogger (logger : Logger)
  | deletion (manager : ManagerId) (phase : Deletion)
  | dropManager (manager : ManagerId)
  | createAdapter (manager : ManagerId) (config : AdapterConfig)
  | openAdapter (manager : ManagerId) (name : String)
  /-- Read the interface identifier of an adapter. -/
  | identify (adapter : AdapterId)
  | closeAdapter (adapter : AdapterId)
  | dropAdapter (adapter : AdapterId)
  | startSession (adapter : AdapterId) (config : SessionConfig)
  /-- End or drop a session. -/
  | endSession (session : SessionId)
  | shutdown (session : SessionId)
  | receive (session : SessionId)
  | receiveInto (session : SessionId) (buffer : Bytes)
  | allocate (session : SessionId) (size : Nat)
  | send (session : SessionId) (content : Bytes)
  /-- One step of a call that can sleep, wherever it is. -/
  | goOn (call : Blocking)
  /-- One step of a pump, wherever it is.  What its handler does to the library
  comes before the step; here it says how the handler ends. -/
  | pump (current : ReadPump) (handler : Bytes → Outcome Unit)
  /-- Change the bytes of a packet. -/
  | write (packet : PacketId) (start : Nat) (content : Bytes)
  /-- Release a received packet or send one to be sent. -/
  | finish (packet : PacketId)
  /-- Drop a packet. -/
  | drop (packet : PacketId)
  /-- The driver changes by itself, and time passes. -/
  | elsewhere (step : State → State) (moment : Nanoseconds)

namespace Operation

variable {State : Type}

/-- The borrows allow an operation: an adapter is not dropped while a session is
being started on it, a session is started on an adapter that its caller holds,
and it is ended when no packet in anybody's hands borrows it and never used
after that. -/
def isAllowed
    (hands : Hands)
    (kept : Holdings) : Operation State → Bool
  | closeAdapter id | dropAdapter id => id ∉ hands.locked
  | startSession id _ => (kept.adapters.get? id).any (·.held)
  | endSession id =>
      decide (id ∉ hands.ending) && hands.packets.all fun packet =>
        (kept.packets.get? packet).all fun held => held.session ≠ id
  | shutdown id | receive id | receiveInto id _ | allocate id _
  | send id _ => id ∉ hands.ending
  | goOn call => call.session ∉ hands.ending
  | pump current _ => current.session ∉ hands.ending
  | newManager _ | setLogger _ | deletion _ _ | dropManager _
  | createAdapter _ _ | openAdapter _ _ | identify _ | write _ _ _ | finish _
  | drop _ | elsewhere _ _ => true

/-- What an operation takes out of its caller's hands. -/
def takes : Operation State → Held
  | closeAdapter id | dropAdapter id => { adapters := [id] }
  | endSession id => { sessions := [id] }
  | finish id | drop id => { packets := [id] }
  | pump current _ => current.held
  | newManager _ | setLogger _ | deletion _ _ | dropManager _
  | createAdapter _ _ | openAdapter _ _ | identify _ | startSession _ _
  | shutdown _ | receive _ | receiveInto _ _ | allocate _ _ | send _ _ | goOn _
  | write _ _ _ | elsewhere _ _ => {}

/-- Whether an operation is allowed does not depend on what it takes. -/
theorem isAllowed_taken
    (operation : Operation State)
    (held : Held)
    (hands : Hands)
    (kept : Holdings) :
    operation.isAllowed
        (operation.takes.hands ++
          ((held.without operation.takes).hands ++ hands)) kept =
      operation.isAllowed (held.hands ++ hands) kept := by
  cases operation with
  | endSession id =>
      have all : held.packets.filter (· ∉ ([] : List PacketId)) =
          held.packets := List.filter_eq_self.mpr fun _ _ => rfl
      show isAllowed { hands with
        packets := held.packets.filter (· ∉ ([] : List PacketId)) ++
          hands.packets } kept (endSession id : Operation State) = _
      rw [all]
      rfl
  | _ => rfl

variable [Driver State]

/-- What an operation does, with what it leaves in its caller's hands. -/
def action : Operation State → Action (Host (Recorded State)) Held
  | newManager config => do
      let _ ← Host.newManager config
      return {}
  | setLogger logger => do
      let _ ← Host.setLogger logger
      return {}
  | deletion manager phase => do
      let _ ← Deletion.step manager phase
      return {}
  | dropManager manager => do
      Host.dropManager manager
      return {}
  | createAdapter manager config => do
      return .ofAdapter (← Host.createAdapter manager config)
  | openAdapter manager name => do
      return .ofAdapter (← Host.openAdapter manager name)
  | identify adapter => do
      match ← adapter? adapter with
      | none => return {}
      | some entry =>
          let _ ← adapterLuid entry.handle
          return {}
  | closeAdapter adapter => do
      let _ ← Host.closeAdapter adapter
      return {}
  | dropAdapter adapter => do
      Host.dropAdapter adapter
      return {}
  | startSession adapter config => do
      return .ofSession (← Host.startSession adapter config)
  | endSession session => do
      let _ ← Host.endSession session
      return {}
  | shutdown session => do
      let _ ← Host.shutdown session
      return {}
  | receive session => do return .ofPacket (← tryReceive session)
  | receiveInto session buffer => do
      let _ ← tryReceiveInto session buffer
      return {}
  | allocate session size => do return .ofPacket (← allocateSend session size)
  | send session content => do
      let _ ← trySend session content
      return {}
  | goOn call => do return (← call.step).held BlockingResult.held
  | pump current handler => do
      return ReadPump.heldAfter
        (← current.step fun content => return handler content)
  | write packet start content => do
      withPacket packet fun held _ => writePacket held start content
      return {}
  | finish packet => do
      finishPacket packet
      return {}
  | drop packet => do
      dropPacket packet
      return {}
  | elsewhere step moment => do
      changeDriver fun recorded =>
        { recorded with driver := step recorded.driver }
      passTime moment
      return {}

end Operation

variable {State : Type} [Driver State] {hands : Hands}

omit [Driver State] in
/-- No packet borrows a session that may be ended. -/
theorem Books.unkept
    {loose : Option AdapterId}
    {kept : Holdings}
    (books : Books hands loose kept)
    {id : SessionId}
    (unborrowed : (hands.packets.all fun packet =>
      (kept.packets.get? packet).all fun held =>
        decide (held.session ≠ id)) = true) :
    ∀ number packet, kept.packets.get? number = some packet →
      packet.session ≠ id := by
  intro number packet found
  have borrows := List.all_eq_true.mp unborrowed number
    (books.packet_known number packet found)
  rw [found] at borrows
  exact of_decide_eq_true borrows

/-- An operation that the borrows allow keeps the books: what it takes out of
its caller's hands is made good for by what it leaves there. -/
theorem action_leads
    (orderly : hands.Orderly)
    (operation : Operation State)
    {present : Holdings}
    (allowed : operation.isAllowed (operation.takes.hands ++ hands) present =
      true) :
    Leads
      (fun kept => Books (operation.takes.hands ++ hands) none kept ∧
        kept = present)
      operation.action fun left => Books (left.hands ++ hands) none := by
  have nothing {Value : Type}
      {before : Holdings → Prop}
      {action : Action (Host (Recorded State)) Value}
      (leads : Leads before action fun _ => Books hands none) :
      Leads (fun kept => before kept ∧ kept = present)
        (do
          let _ ← action
          return {} : Action (Host (Recorded State)) Held)
        fun left => Books (left.hands ++ hands) none :=
    (leads.given fun _ _ given => given.1).bind fun _ =>
      Leads.answer fun _ _ books => books
  have something {Value : Type}
      {before : Holdings → Prop}
      {action : Action (Host (Recorded State)) Value}
      {leaves : Value → Held}
      (leads : Leads before action fun value =>
        Books ((leaves value).hands ++ hands) none) :
      Leads (fun kept => before kept ∧ kept = present)
        (do return leaves (← action) : Action (Host (Recorded State)) Held)
        fun left => Books (left.hands ++ hands) none :=
    (leads.given fun _ _ given => given.1).bind fun _ =>
      Leads.answer fun _ _ books => books
  cases operation with
  | newManager config => exact nothing (newManager_keeps config)
  | setLogger logger => exact nothing (setLogger_keeps logger)
  | deletion manager phase => exact nothing (deletionStep_keeps manager phase)
  | dropManager manager => exact nothing (dropManager_keeps manager)
  | createAdapter manager config =>
      exact something (createAdapter_leads orderly manager config)
  | openAdapter manager name =>
      exact something (openAdapter_leads orderly manager name)
  | identify adapter =>
      refine Leads.given ?_ fun _ _ given => given.1
      refine (Leads.adapter? adapter).bind fun found => ?_
      cases found with
      | none => exact Leads.answer fun _ _ given => given.1
      | some entry =>
          exact (adapterLuid_leads adapter entry).bind fun _ =>
            Leads.answer fun _ _ books => books
  | closeAdapter adapter =>
      exact nothing ((closeAdapter_leads orderly adapter).given
        fun _ _ books => ⟨books, of_decide_eq_true allowed⟩)
  | dropAdapter adapter =>
      exact nothing ((dropAdapter_leads orderly adapter).given
        fun _ _ books => ⟨books, of_decide_eq_true allowed⟩)
  | startSession adapter config =>
      obtain ⟨entry, found, held⟩ := (Option.any_eq_true _ _).mp allowed
      refine Leads.bind ((startSession_leads orderly adapter config).given ?_)
        fun _ => Leads.answer fun _ _ books => books
      rintro kept _ ⟨books, rfl⟩
      exact ⟨books, entry, found, held⟩
  | endSession session =>
      obtain ⟨staying, unborrowed⟩ := Bool.and_eq_true_iff.mp allowed
      refine Leads.bind
        ((endSession_leads orderly (of_decide_eq_true staying)).given ?_)
        fun _ => Leads.answer fun _ _ books => books
      rintro kept _ ⟨books, rfl⟩
      exact ⟨books, books.unkept unborrowed⟩
  | shutdown session => exact nothing (shutdown_keeps session)
  | receive session =>
      exact something (tryReceive_leads orderly (of_decide_eq_true allowed))
  | receiveInto session buffer =>
      exact nothing
        (tryReceiveInto_keeps orderly (of_decide_eq_true allowed) buffer)
  | allocate session size =>
      exact something ((allocateSend_leads orderly
        (of_decide_eq_true allowed) size).gives fun _ _ _ given => given.1)
  | send session content =>
      exact nothing (trySend_keeps orderly (of_decide_eq_true allowed) content)
  | goOn call =>
      exact something
        (blockingStep_leads orderly call (of_decide_eq_true allowed))
  | pump current handler =>
      exact something (pumpStep_leads orderly current (fun _ => Leads.done)
        (of_decide_eq_true allowed))
  | write packet start content =>
      refine nothing (withPacket_leads (fun _ books => books)
        (fun _ books _ => books) fun held session => ?_)
      refine Leads.given (writePacket_leads start content ?_)
        fun _ _ given => given.1
      exact fun _ books => books.writing _ _ _
  | finish packet => exact nothing (finishPacket_leads orderly packet)
  | drop packet => exact nothing (dropPacket_leads orderly packet)
  | elsewhere step moment =>
      refine Leads.given ?_ fun _ _ given => given.1
      refine (Leads.of_same fun _ => rfl).bind fun _ => ?_
      refine (Leads.of_same fun _ => rfl).bind fun _ => ?_
      exact Leads.answer fun _ _ books => books

end Host
end VirtualAdapter

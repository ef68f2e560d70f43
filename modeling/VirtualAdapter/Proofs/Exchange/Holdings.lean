import VirtualAdapter.Proofs.Exchange.Ledger
import VirtualAdapter.Proofs.Action
import VirtualAdapter.Proofs.Table
import VirtualAdapter.Host.Packet

/-!
# What is held of a driver

Of everything that is obtained from a driver only a part matters to it: the
adapters that are open, the sessions that run on them, and the packets that
are lent.  Calls of the library show in this part as a few changes, and each
of them says what is kept before and after.
-/

namespace VirtualAdapter
namespace Host

/-- An adapter as far as it matters to the driver. -/
structure OpenAdapter where
  /-- The driver's handle. -/
  handle : AdapterHandle
  /-- The caller still holds it. -/
  held : Bool

/-- A session as far as it matters to the driver. -/
structure LiveSession where
  /-- The adapter on which it was started. -/
  adapter : AdapterId
  /-- The driver's handle. -/
  handle : SessionHandle

/-- What matters of an adapter. -/
def Adapter.core (adapter : Adapter) : OpenAdapter :=
  ⟨adapter.handle, adapter.held⟩

/-- What matters of a session. -/
def Session.core (session : Session) : LiveSession :=
  ⟨session.adapter, session.handle⟩

/-- What was written down about a driver and what is held of it. -/
structure Holdings where
  /-- The calls of the driver, first ones first. -/
  log : List Exchange
  /-- The open adapters. -/
  adapters : Table AdapterId OpenAdapter
  /-- The running sessions. -/
  sessions : Table SessionId LiveSession
  /-- The borrowed packets. -/
  packets : Table PacketId HeldPacket
  /-- The number given out last. -/
  lastNumber : Nat

/-- What is held of a recorded driver. -/
def holdings {State : Type} (host : Host (Recorded State)) : Holdings where
  log := host.driver.log
  adapters := host.adapters.map (·.core)
  sessions := host.sessions.map (·.core)
  packets := host.packets
  lastNumber := host.lastNumber

namespace Holdings

/-! ## Changes -/

/-- A call of the driver. -/
def record (kept : Holdings) (exchange : Exchange) : Holdings :=
  { kept with log := kept.log ++ [exchange] }

/-- A number is given out. -/
def number (kept : Holdings) : Holdings :=
  { kept with lastNumber := kept.lastNumber + 1 }

/-- An adapter is kept under the next number. -/
def adopt (kept : Holdings) (handle : AdapterHandle) : Holdings :=
  { kept.number with
    adapters := kept.adapters.insert (kept.lastNumber + 1) ⟨handle, true⟩ }

/-- The caller lets go of an adapter. -/
def unhold (kept : Holdings) (id : AdapterId) : Holdings :=
  { kept with
    adapters := kept.adapters.update id fun adapter =>
      { adapter with held := false } }

/-- An adapter is forgotten. -/
def dropAdapter (kept : Holdings) (id : AdapterId) : Holdings :=
  { kept with adapters := kept.adapters.erase id }

/-- A session is kept under the next number. -/
def launch
    (kept : Holdings)
    (adapter : AdapterId)
    (handle : SessionHandle) : Holdings :=
  { kept.number with
    sessions := kept.sessions.insert (kept.lastNumber + 1) ⟨adapter, handle⟩ }

/-- A session is forgotten. -/
def dropSession (kept : Holdings) (id : SessionId) : Holdings :=
  { kept with sessions := kept.sessions.erase id }

/-- A packet is kept under the next number. -/
def keep (kept : Holdings) (packet : HeldPacket) : Holdings :=
  { kept.number with
    packets := kept.packets.insert (kept.lastNumber + 1) packet }

/-- A packet is forgotten. -/
def dropPacket (kept : Holdings) (id : PacketId) : Holdings :=
  { kept with packets := kept.packets.erase id }

/-! ## What is held -/

/-- The adapters that are held. -/
def handles (kept : Holdings) : List AdapterHandle :=
  kept.adapters.values.map (·.handle)

/-- The sessions that are held, except some that the driver has ended. -/
def running
    (past : List SessionId)
    (kept : Holdings) : List SessionHandle :=
  (kept.sessions.entries.filter fun entry => entry.1 ∉ past).map (·.2.handle)

/-- A packet as the driver knows it. -/
def loan? (kept : Holdings) (packet : HeldPacket) : Option Loan :=
  (kept.sessions.get? packet.session).map fun session =>
    ⟨session.handle, packet.direction, packet.raw⟩

/-- The packets that are held. -/
def loans (kept : Holdings) : List Loan :=
  kept.packets.values.filterMap kept.loan?

/-- Some session was started on the adapter. -/
def IsUsed (kept : Holdings) (id : AdapterId) : Prop :=
  ∃ number session, kept.sessions.get? number = some session ∧
    session.adapter = id

/-- The numbers under which things are held were given out, each once. -/
structure Numbered (kept : Holdings) : Prop where
  /-- No adapter has two entries. -/
  adapters_proper : kept.adapters.IsProper
  /-- No session has two entries. -/
  sessions_proper : kept.sessions.IsProper
  /-- No packet has two entries. -/
  packets_proper : kept.packets.IsProper
  /-- The numbers of adapters were given out. -/
  adapter_le : ∀ id adapter, kept.adapters.get? id = some adapter →
    id ≤ kept.lastNumber
  /-- The numbers of sessions were given out. -/
  session_le : ∀ id session, kept.sessions.get? id = some session →
    id ≤ kept.lastNumber
  /-- The numbers of packets were given out. -/
  packet_le : ∀ id packet, kept.packets.get? id = some packet →
    id ≤ kept.lastNumber

variable {kept : Holdings}

/-! ### Numbers -/

section Numbers

/-- A key above all that are there gives nothing. -/
theorem absent_of_le
    {Value : Type}
    {table : Table Nat Value}
    {last : Nat}
    (bounded : ∀ id value, table.get? id = some value → id ≤ last) :
    table.get? (last + 1) = none := by
  rw [Option.eq_none_iff_forall_ne_some]
  intro value found
  have := bounded _ value found
  omega

/-- What is found is not what is gone. -/
theorem mem_of_gone
    {Value : Type}
    {table : Table Nat Value}
    {id number : Nat}
    {value : Value}
    {known : List Nat}
    (gone : table.get? id = none)
    (found : table.get? number = some value)
    (member : number ∈ id :: known) : number ∈ known := by
  refine (List.mem_cons.mp member).resolve_left ?_
  rintro rfl
  cases gone.symm.trans found

/-- Keys stay below the number given out last when the next one is put in. -/
theorem le_of_get?_insert
    {Value : Type}
    {table : Table Nat Value}
    {last id : Nat}
    {value new : Value}
    (bounded : ∀ id value, table.get? id = some value → id ≤ last)
    (found : (table.insert (last + 1) new).get? id = some value) :
    id ≤ last + 1 := by
  rw [Table.get?_insert] at found
  split at found
  case isTrue same => exact Nat.le_of_eq same
  case isFalse => exact Nat.le_succ_of_le (bounded id value found)

namespace Numbered

theorem number (numbered : kept.Numbered) : kept.number.Numbered :=
  { numbered with
    adapter_le := fun id _ found =>
      Nat.le_succ_of_le (numbered.adapter_le id _ found)
    session_le := fun id _ found =>
      Nat.le_succ_of_le (numbered.session_le id _ found)
    packet_le := fun id _ found =>
      Nat.le_succ_of_le (numbered.packet_le id _ found) }

theorem adopt
    (numbered : kept.Numbered)
    (handle : AdapterHandle) : (kept.adopt handle).Numbered :=
  { numbered.number with
    adapters_proper := numbered.adapters_proper.insert _ _
    adapter_le := fun _ _ found =>
      le_of_get?_insert numbered.adapter_le found }

theorem unhold
    (numbered : kept.Numbered)
    (id : AdapterId) : (kept.unhold id).Numbered :=
  { numbered with
    adapters_proper := numbered.adapters_proper.update _ _
    adapter_le := fun number _ found =>
      let ⟨earlier, present, _⟩ := Table.exists_of_get?_update found
      numbered.adapter_le number earlier present }

theorem dropAdapter
    (numbered : kept.Numbered)
    (id : AdapterId) : (kept.dropAdapter id).Numbered :=
  { numbered with
    adapters_proper := numbered.adapters_proper.erase _
    adapter_le := fun number _ found =>
      numbered.adapter_le number _ (Table.of_get?_erase found).2 }

theorem launch
    (numbered : kept.Numbered)
    (adapter : AdapterId)
    (handle : SessionHandle) : (kept.launch adapter handle).Numbered :=
  { numbered.number with
    sessions_proper := numbered.sessions_proper.insert _ _
    session_le := fun _ _ found =>
      le_of_get?_insert numbered.session_le found }

theorem dropSession
    (numbered : kept.Numbered)
    (id : SessionId) : (kept.dropSession id).Numbered :=
  { numbered with
    sessions_proper := numbered.sessions_proper.erase _
    session_le := fun number _ found =>
      numbered.session_le number _ (Table.of_get?_erase found).2 }

theorem keep
    (numbered : kept.Numbered)
    (packet : HeldPacket) : (kept.keep packet).Numbered :=
  { numbered.number with
    packets_proper := numbered.packets_proper.insert _ _
    packet_le := fun _ _ found =>
      le_of_get?_insert numbered.packet_le found }

theorem dropPacket
    (numbered : kept.Numbered)
    (id : PacketId) : (kept.dropPacket id).Numbered :=
  { numbered with
    packets_proper := numbered.packets_proper.erase _
    packet_le := fun number _ found =>
      numbered.packet_le number _ (Table.of_get?_erase found).2 }

end Numbered
end Numbers

/-! ### Adapters -/

theorem handles_adopt
    (numbered : kept.Numbered)
    (handle : AdapterHandle) :
    (kept.adopt handle).handles = kept.handles ++ [handle] := by
  have absent := absent_of_le numbered.adapter_le
  unfold handles adopt Table.values
  rw [Table.entries_insert_of_absent absent]
  simp

theorem handles_unhold (id : AdapterId) :
    (kept.unhold id).handles = kept.handles := by
  have same : (kept.unhold id).adapters.map (·.handle) =
      kept.adapters.map (·.handle) :=
    Table.map_update_of_same _ _ _ fun _ => rfl
  simpa [handles] using congrArg Table.values same

/-- The adapters with one of them taken apart. -/
theorem perm_handles
    (numbered : kept.Numbered)
    {id : AdapterId}
    {adapter : OpenAdapter}
    (found : kept.adapters.get? id = some adapter) :
    kept.handles.Perm (adapter.handle :: (kept.dropAdapter id).handles) := by
  have entries := numbered.adapters_proper.perm_erase found
  exact (entries.map (·.2)).map (·.handle)

theorem mem_handles
    (numbered : kept.Numbered)
    {id : AdapterId}
    {adapter : OpenAdapter}
    (found : kept.adapters.get? id = some adapter) :
    adapter.handle ∈ kept.handles :=
  (perm_handles numbered found).mem_iff.mpr List.mem_cons_self

/-! ### Sessions -/

theorem running_launch
    (numbered : kept.Numbered)
    {past : List SessionId}
    (unknown : kept.lastNumber + 1 ∉ past)
    (adapter : AdapterId)
    (handle : SessionHandle) :
    (kept.launch adapter handle).running past =
      kept.running past ++ [handle] := by
  have absent := absent_of_le numbered.session_le
  unfold running launch
  rw [Table.entries_insert_of_absent absent]
  simp [unknown]

/-- The sessions with one of them taken apart. -/
theorem perm_running
    (numbered : kept.Numbered)
    {past : List SessionId}
    {id : SessionId}
    {session : LiveSession}
    (found : kept.sessions.get? id = some session)
    (present : id ∉ past) :
    (kept.running past).Perm
      (session.handle :: (kept.dropSession id).running past) := by
  have entries := numbered.sessions_proper.perm_erase found
  have filtered := (entries.filter fun entry => entry.1 ∉ past).map
    fun entry => entry.2.handle
  rw [List.filter_cons_of_pos (by simpa using present)] at filtered
  exact filtered

/-- A session that the driver has ended counts as little as a forgotten one. -/
theorem running_cons (past : List SessionId) (id : SessionId) :
    kept.running (id :: past) = (kept.dropSession id).running past := by
  unfold running dropSession Table.erase
  rw [List.filter_filter]
  congr 2
  funext entry
  simp [Bool.and_comm]

theorem mem_running
    (numbered : kept.Numbered)
    {past : List SessionId}
    {id : SessionId}
    {session : LiveSession}
    (found : kept.sessions.get? id = some session)
    (present : id ∉ past) : session.handle ∈ kept.running past :=
  (perm_running numbered found present).mem_iff.mpr List.mem_cons_self

theorem exists_of_mem_running
    (numbered : kept.Numbered)
    {past : List SessionId}
    {handle : SessionHandle}
    (member : handle ∈ kept.running past) :
    ∃ id session, kept.sessions.get? id = some session ∧ id ∉ past ∧
      session.handle = handle := by
  obtain ⟨⟨id, session⟩, listed, rfl⟩ := List.mem_map.mp member
  obtain ⟨listed, present⟩ := List.mem_filter.mp listed
  exact ⟨id, session,
    (Table.lookup_eq_some_iff numbered.sessions_proper).mpr listed,
    of_decide_eq_true present, rfl⟩

/-- The driver knows different sessions under different handles. -/
theorem session_eq
    (numbered : kept.Numbered)
    {past : List SessionId}
    (different : (kept.running past).Nodup)
    {first second : SessionId}
    {left right : LiveSession}
    (found_first : kept.sessions.get? first = some left)
    (found_second : kept.sessions.get? second = some right)
    (present_first : first ∉ past)
    (present_second : second ∉ past)
    (same : left.handle = right.handle) : first = second := by
  by_contra differs
  rw [(perm_running numbered found_first present_first).nodup_iff,
    List.nodup_cons] at different
  apply different.1
  rw [same]
  refine mem_running (numbered.dropSession first) ?_ present_second
  exact (Table.get?_erase _ _ _).trans
    ((if_neg (Ne.symm differs)).trans found_second)

/-! ### Packets -/

/-- Packets are lent by the same sessions as before if their sessions are. -/
theorem loans_congr
    {next : Holdings}
    (numbered : kept.Numbered)
    (packets : next.packets = kept.packets)
    (sessions : ∀ id packet, kept.packets.get? id = some packet →
      next.sessions.get? packet.session = kept.sessions.get? packet.session) :
    next.loans = kept.loans := by
  unfold loans
  rw [packets]
  apply List.filterMap_congr
  intro packet member
  obtain ⟨id, found⟩ := numbered.packets_proper.mem_values_iff.mp member
  unfold loan?
  rw [sessions id packet found]

theorem loans_keep
    (numbered : kept.Numbered)
    (packet : HeldPacket)
    {session : LiveSession}
    (found : kept.sessions.get? packet.session = some session) :
    (kept.keep packet).loans =
      kept.loans ++ [⟨session.handle, packet.direction, packet.raw⟩] := by
  have absent := absent_of_le numbered.packet_le
  have values : (kept.keep packet).packets.values =
      kept.packets.values ++ [packet] := by
    unfold keep Table.values
    dsimp only
    rw [Table.entries_insert_of_absent absent]
    simp
  have new : (kept.keep packet).loan? packet =
      some ⟨session.handle, packet.direction, packet.raw⟩ :=
    congrArg (Option.map _) found
  unfold loans
  rw [values, List.filterMap_append, List.filterMap_cons_some new]
  rfl

/-- The packets with one of them taken apart. -/
theorem perm_loans
    (numbered : kept.Numbered)
    {id : PacketId}
    {packet : HeldPacket}
    {session : LiveSession}
    (found : kept.packets.get? id = some packet)
    (lender : kept.sessions.get? packet.session = some session) :
    kept.loans.Perm
      (⟨session.handle, packet.direction, packet.raw⟩ ::
        (kept.dropPacket id).loans) := by
  have entries := (numbered.packets_proper.perm_erase found).map (·.2)
  have loans := entries.filterMap kept.loan?
  have first : kept.loan? packet =
      some ⟨session.handle, packet.direction, packet.raw⟩ :=
    congrArg (Option.map _) lender
  rw [List.map_cons, List.filterMap_cons_some first] at loans
  exact loans

theorem exists_of_mem_loans
    (numbered : kept.Numbered)
    {loan : Loan}
    (member : loan ∈ kept.loans) :
    ∃ id packet session, kept.packets.get? id = some packet ∧
      kept.sessions.get? packet.session = some session ∧
      session.handle = loan.session := by
  obtain ⟨packet, member, lent⟩ := List.mem_filterMap.mp member
  obtain ⟨id, found⟩ := numbered.packets_proper.mem_values_iff.mp member
  obtain ⟨session, lender, rfl⟩ := Option.map_eq_some_iff.mp lent
  exact ⟨id, packet, session, found, lender, rfl⟩

end Holdings
end Host

/-- What is dependable with one more call was so without it. -/
theorem Ledger.Dependable.of_record
    {kept : Host.Holdings}
    {exchange : Exchange}
    (dependable : Dependable (kept.record exchange).log) :
    Dependable kept.log :=
  dependable.of_prefix (List.prefix_append _ _)

end VirtualAdapter

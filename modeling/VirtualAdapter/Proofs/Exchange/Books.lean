import VirtualAdapter.Proofs.Exchange.Holdings

/-!
# Books

Between two calls everything that the driver gave out is with the driver again
or held.  While sessions are being started or ended, some are held only by the
calls that are on their way, and some are still held that the driver has ended.
Each change of what is held keeps the books, and the books say why the driver
has to expect the calls that come with it.
-/

namespace VirtualAdapter
namespace Host

open Ledger

/-! ## Balances -/

section Balances

variable {Thing : Type} {given back kept : List Thing}

/-- What was given out is back with its giver or kept. -/
def Balanced (given back kept : List Thing) : Prop :=
  given.Perm (back ++ kept)

namespace Balanced

/-- More is given out, and some of what was kept goes back. -/
theorem step
    {more returned next : List Thing}
    (balanced : Balanced given back kept)
    (moved : (kept ++ more).Perm (returned ++ next)) :
    Balanced (given ++ more) (back ++ returned) next := by
  unfold Balanced
  calc given ++ more
    _ |>.Perm (back ++ kept ++ more) := balanced.append_right more
    _ |>.Perm (back ++ (kept ++ more)) := by rw [List.append_assoc]
    _ |>.Perm (back ++ (returned ++ next)) := moved.append_left back
    _ |>.Perm (back ++ returned ++ next) := by rw [List.append_assoc]

theorem mem_given
    (balanced : Balanced given back kept)
    {thing : Thing}
    (member : thing ∈ kept) : thing ∈ given :=
  balanced.mem_iff.mpr (List.mem_append_right back member)

theorem mem_kept
    (balanced : Balanced given back kept)
    {thing : Thing}
    (member : thing ∈ given)
    (out : thing ∉ back) : thing ∈ kept :=
  (List.mem_append.mp (balanced.mem_iff.mp member)).resolve_left out

theorem nodup_kept
    (balanced : Balanced given back kept)
    (different : given.Nodup) : kept.Nodup :=
  (List.nodup_append.mp (balanced.nodup_iff.mp different)).2.1

theorem not_mem_back
    (balanced : Balanced given back kept)
    (different : given.Nodup)
    {thing : Thing}
    (member : thing ∈ kept) : thing ∉ back := fun returned =>
  (List.nodup_append.mp (balanced.nodup_iff.mp different)).2.2
    thing returned thing member rfl

variable [DecidableEq Thing]

theorem count_lt
    (balanced : Balanced given back kept)
    {thing : Thing}
    (member : thing ∈ kept) : back.count thing < given.count thing := by
  rw [balanced.count_eq, List.count_append]
  have := List.count_pos_iff.mpr member
  omega

theorem count_eq_of_not_mem
    (balanced : Balanced given back kept)
    {thing : Thing}
    (absent : thing ∉ kept) : back.count thing = given.count thing := by
  rw [balanced.count_eq, List.count_append, List.count_eq_zero.mpr absent,
    Nat.add_zero]

end Balanced
end Balances

/-! ## Hands -/

/-- What callers hold. -/
structure Held where
  /-- Adapters. -/
  adapters : List AdapterId := []
  /-- Sessions. -/
  sessions : List SessionId := []
  /-- Packets. -/
  packets : List PacketId := []

/-- What callers hold, and what the starts and ends of sessions that are on
their way have to do with. -/
structure Hands extends Held where
  /-- The adapters on which sessions are being started. -/
  locked : List AdapterId := []
  /-- The sessions that the driver has started and nobody holds yet, with their
  adapters. -/
  pending : List (AdapterId × SessionHandle) := []
  /-- The sessions that are being ended. -/
  ending : List SessionId := []
  /-- Those of them that the driver has ended. -/
  past : List SessionId := []

namespace Held

/-- The adapter that a call has answered with. -/
def ofAdapter : Outcome AdapterId → Held
  | .ok id => { adapters := [id] }
  | .error _ => {}

/-- The session that a call has answered with. -/
def ofSession : Outcome SessionId → Held
  | .ok id => { sessions := [id] }
  | .error _ => {}

/-- The packet that a call has answered with. -/
def ofPacket : Outcome PacketId → Held
  | .ok id => { packets := [id] }
  | .error _ => {}

/-- What is held when some of it is gone. -/
def without (held lost : Held) : Held where
  adapters := held.adapters.filter (· ∉ lost.adapters)
  sessions := held.sessions.filter (· ∉ lost.sessions)
  packets := held.packets.filter (· ∉ lost.packets)

/-- Nothing is held. -/
def isEmpty (held : Held) : Bool :=
  held.adapters.isEmpty && held.sessions.isEmpty && held.packets.isEmpty

/-- Callers hold things, and nothing is on its way. -/
def hands (held : Held) : Hands := { toHeld := held }

instance : Append Held where
  append first second := {
    adapters := first.adapters ++ second.adapters
    sessions := first.sessions ++ second.sessions
    packets := first.packets ++ second.packets }

end Held

instance : Append Hands where
  append first second := {
    toHeld := first.toHeld ++ second.toHeld
    locked := first.locked ++ second.locked
    pending := first.pending ++ second.pending
    ending := first.ending ++ second.ending
    past := first.past ++ second.past }

/-- Only adapters that are locked have sessions pending, and only sessions that
are being ended are past. -/
structure Hands.Orderly (hands : Hands) : Prop where
  /-- Sessions are pending on locked adapters. -/
  pending_locked : ∀ id handle, (id, handle) ∈ hands.pending →
    id ∈ hands.locked
  /-- Past sessions are being ended. -/
  past_ending : ∀ id ∈ hands.past, id ∈ hands.ending

theorem Hands.orderly_empty : ({} : Hands).Orderly :=
  ⟨nofun, nofun⟩

/-! ## What the books say -/

/-- What the driver gave out is with it again or held. -/
structure Accounts (hands : Hands) (kept : Holdings) : Prop where
  /-- Adapters are closed or held. -/
  adapters : Balanced (opened kept.log) (closed kept.log) kept.handles
  /-- Sessions are ended, held, or held by a call on its way. -/
  sessions : Balanced (begun kept.log) (ended kept.log)
    (kept.running hands.past ++ hands.pending.map (·.2))
  /-- Packets are given back or held. -/
  packets : Balanced (lent kept.log) (returned kept.log) kept.loans

/-- Packets hold sessions, sessions hold adapters, and everything else is in
somebody's hands.  One adapter may be loose: nobody holds it, and it is about to
be closed. -/
structure Rooted
    (hands : Hands)
    (loose : Option AdapterId)
    (kept : Holdings) : Prop where
  /-- A session keeps the adapter on which the driver has started it. -/
  based : ∀ id session, kept.sessions.get? id = some session →
    ∃ adapter, kept.adapters.get? session.adapter = some adapter ∧
      (session.handle, adapter.handle) ∈ started kept.log
  /-- So does a session that nobody holds yet. -/
  claimed : ∀ id handle, (id, handle) ∈ hands.pending →
    ∃ adapter, kept.adapters.get? id = some adapter ∧
      (handle, adapter.handle) ∈ started kept.log
  /-- An adapter on which a session is being started is held. -/
  locked_held : ∀ id ∈ hands.locked,
    ∃ adapter, kept.adapters.get? id = some adapter ∧ adapter.held = true
  /-- A packet keeps the session that has lent it, and keeps it from being
  ended. -/
  borrowed : ∀ id packet, kept.packets.get? id = some packet →
    packet.session ∉ hands.ending ∧
      ∃ session, kept.sessions.get? packet.session = some session
  /-- No session is being ended twice. -/
  single : hands.ending.Nodup
  /-- A session that is being ended is still there. -/
  ending_found : ∀ id ∈ hands.ending,
    ∃ session, kept.sessions.get? id = some session
  /-- An adapter that its caller has let go of is used by a session. -/
  attended : ∀ id adapter, kept.adapters.get? id = some adapter →
    adapter.held = false → loose ≠ some id → kept.IsUsed id
  /-- An adapter that is held is in its caller's hands. -/
  adapter_known : ∀ id adapter, kept.adapters.get? id = some adapter →
    adapter.held = true → id ∈ hands.adapters
  /-- A session that is not being ended is in its caller's hands. -/
  session_known : ∀ id session, kept.sessions.get? id = some session →
    id ∈ hands.sessions ∨ id ∈ hands.ending
  /-- A packet is in its caller's hands. -/
  packet_known : ∀ id packet, kept.packets.get? id = some packet →
    id ∈ hands.packets

/-- The driver had to expect all its calls, and what it gave out is accounted
for. -/
structure Books
    (hands : Hands)
    (loose : Option AdapterId)
    (kept : Holdings) : Prop extends
    kept.Numbered, Accounts hands kept, Rooted hands loose kept where
  /-- The driver had to expect all its calls. -/
  admissible : Admissible kept.log

variable {hands : Hands} {loose : Option AdapterId} {kept : Holdings}

/-! ## Changes keep everything rooted -/

theorem Holdings.Numbered.record
    (numbered : kept.Numbered)
    (exchange : Exchange) : (kept.record exchange).Numbered :=
  { numbered with }

namespace Rooted

theorem record
    (rooted : Rooted hands loose kept)
    (exchange : Exchange) : Rooted hands loose (kept.record exchange) := by
  have grows {pair} (member : pair ∈ started kept.log) :
      pair ∈ started (kept.record exchange).log :=
    (started_append _ _).symm ▸ List.mem_append_left _ member
  exact { rooted with
    based := fun id session found =>
      let ⟨adapter, present, member⟩ := rooted.based id session found
      ⟨adapter, present, grows member⟩
    claimed := fun id handle pending =>
      let ⟨adapter, present, member⟩ := rooted.claimed id handle pending
      ⟨adapter, present, grows member⟩ }

theorem number (rooted : Rooted hands loose kept) :
    Rooted hands loose kept.number :=
  { rooted with }

/-- A new adapter is held. -/
theorem adopt
    (rooted : Rooted hands loose kept)
    (numbered : kept.Numbered)
    (handle : AdapterHandle) :
    Rooted
      { hands with adapters := (kept.lastNumber + 1) :: hands.adapters }
      loose (kept.adopt handle) := by
  have stays {id adapter} (found : kept.adapters.get? id = some adapter) :
      (kept.adopt handle).adapters.get? id = some adapter := by
    have older : id ≠ kept.lastNumber + 1 :=
      Nat.ne_of_lt (Nat.lt_succ_of_le (numbered.adapter_le id adapter found))
    exact (Table.get?_insert _ _ _ _).trans ((if_neg older).trans found)
  exact { rooted with
    based := fun id session found =>
      let ⟨adapter, present, member⟩ := rooted.based id session found
      ⟨adapter, stays present, member⟩
    claimed := fun id handle pending =>
      let ⟨adapter, present, member⟩ := rooted.claimed id handle pending
      ⟨adapter, stays present, member⟩
    locked_held := fun id locked =>
      let ⟨adapter, present, held⟩ := rooted.locked_held id locked
      ⟨adapter, stays present, held⟩
    attended := by
      intro id adapter found unheld other
      rw [Holdings.adopt, Table.get?_insert] at found
      split at found
      case isTrue =>
        cases found
        simp at unheld
      case isFalse => exact rooted.attended id adapter found unheld other
    adapter_known := by
      intro id adapter found held
      rw [Holdings.adopt, Table.get?_insert] at found
      split at found
      case isTrue same => exact same ▸ List.mem_cons_self
      case isFalse =>
        exact List.mem_cons_of_mem _
          (rooted.adapter_known id adapter found held) }

/-- An adapter that is let go of is loose. -/
theorem unhold
    {id : AdapterId}
    (rooted : Rooted { hands with adapters := id :: hands.adapters } none kept)
    (unlocked : id ∉ hands.locked) :
    Rooted hands (some id) (kept.unhold id) := by
  have stays {other adapter} (found : kept.adapters.get? other = some adapter) :
      ∃ later, (kept.unhold id).adapters.get? other = some later ∧
        later.handle = adapter.handle ∧
        (other ≠ id → later.held = adapter.held) := by
    by_cases same : other = id
    case pos =>
      subst same
      refine ⟨{ adapter with held := false }, ?_, rfl, fun no => absurd rfl no⟩
      simp [Holdings.unhold, found]
    case neg =>
      refine ⟨adapter, ?_, rfl, fun _ => rfl⟩
      simp [Holdings.unhold, same, found]
  exact { rooted with
    based := by
      intro number session found
      obtain ⟨_, present, member⟩ := rooted.based number session found
      obtain ⟨later, present, handle, _⟩ := stays present
      exact ⟨later, present, handle ▸ member⟩
    claimed := by
      intro number handle pending
      obtain ⟨_, present, member⟩ := rooted.claimed number handle pending
      obtain ⟨later, present, handle, _⟩ := stays present
      exact ⟨later, present, handle ▸ member⟩
    locked_held := by
      intro number locked
      obtain ⟨_, present, held⟩ := rooted.locked_held number locked
      obtain ⟨later, present, _, keeps⟩ := stays present
      exact ⟨later, present,
        (keeps fun same => unlocked (same ▸ locked)).trans held⟩
    attended := by
      intro number adapter found unheld other
      obtain ⟨earlier, present, rfl⟩ := Table.exists_of_get?_update found
      have differs : number ≠ id := fun same => other (congrArg some same.symm)
      rw [if_neg differs] at unheld
      exact rooted.attended number earlier present unheld
        (Option.some_ne_none number).symm
    adapter_known := by
      intro number adapter found held
      obtain ⟨earlier, present, rfl⟩ := Table.exists_of_get?_update found
      split at held
      case isTrue => simp at held
      case isFalse differs =>
        exact (List.mem_cons.mp
          (rooted.adapter_known number earlier present held)).resolve_left
            differs }

/-- An adapter that is held or used is not loose. -/
theorem attend
    {id : AdapterId}
    (rooted : Rooted hands (some id) kept)
    (attended : ∀ adapter, kept.adapters.get? id = some adapter →
      adapter.held = false → kept.IsUsed id) : Rooted hands none kept :=
  { rooted with
    attended := fun number adapter found unheld _ =>
      if same : id = number then same ▸ attended adapter (same ▸ found) unheld
      else
        rooted.attended number adapter found unheld fun equal =>
          same (Option.some.inj equal) }

/-- A loose adapter can be forgotten. -/
theorem dropAdapter
    {id : AdapterId}
    (rooted : Rooted hands (some id) kept)
    (orderly : hands.Orderly)
    (unlocked : id ∉ hands.locked)
    (unused : ¬ kept.IsUsed id) :
    Rooted hands none (kept.dropAdapter id) := by
  have stays {other adapter}
      (found : kept.adapters.get? other = some adapter)
      (differs : other ≠ id) :
      (kept.dropAdapter id).adapters.get? other = some adapter :=
    (Table.get?_erase _ _ _).trans ((if_neg differs).trans found)
  exact { rooted with
    based := fun number session found =>
      let ⟨adapter, present, member⟩ := rooted.based number session found
      ⟨adapter, stays present fun same => unused ⟨number, session, found, same⟩,
        member⟩
    claimed := fun number handle pending =>
      let ⟨adapter, present, member⟩ := rooted.claimed number handle pending
      ⟨adapter,
        stays present fun same =>
          unlocked (same ▸ orderly.pending_locked number handle pending),
        member⟩
    locked_held := fun number locked =>
      let ⟨adapter, present, held⟩ := rooted.locked_held number locked
      ⟨adapter, stays present fun same => unlocked (same ▸ locked), held⟩
    attended := fun number adapter found unheld _ =>
      let ⟨differs, present⟩ := Table.of_get?_erase found
      rooted.attended number adapter present unheld fun same =>
        differs (Option.some.inj same).symm
    adapter_known := fun number adapter found held =>
      rooted.adapter_known number adapter (Table.of_get?_erase found).2 held }

/-- A session that was pending is held. -/
theorem launch
    {id : AdapterId}
    {handle : SessionHandle}
    (rooted : Rooted
      { hands with
        locked := id :: hands.locked
        pending := (id, handle) :: hands.pending } loose kept)
    (numbered : kept.Numbered) :
    Rooted
      { hands with sessions := (kept.lastNumber + 1) :: hands.sessions }
      loose (kept.launch id handle) := by
  have stays {number session}
      (found : kept.sessions.get? number = some session) :
      (kept.launch id handle).sessions.get? number = some session := by
    have older : number ≠ kept.lastNumber + 1 :=
      Nat.ne_of_lt (Nat.lt_succ_of_le (numbered.session_le number _ found))
    exact (Table.get?_insert _ _ _ _).trans ((if_neg older).trans found)
  exact { rooted with
    based := by
      intro number session found
      rw [Holdings.launch, Table.get?_insert] at found
      split at found
      case isTrue =>
        cases found
        exact rooted.claimed id handle List.mem_cons_self
      case isFalse => exact rooted.based number session found
    claimed := fun number other pending =>
      rooted.claimed number other (List.mem_cons_of_mem _ pending)
    locked_held := fun number locked =>
      rooted.locked_held number (List.mem_cons_of_mem _ locked)
    borrowed := fun number packet found =>
      let ⟨staying, session, present⟩ := rooted.borrowed number packet found
      ⟨staying, session, stays present⟩
    ending_found := fun number ending =>
      let ⟨session, present⟩ := rooted.ending_found number ending
      ⟨session, stays present⟩
    attended := fun number adapter found unheld other =>
      let ⟨by_session, session, present, same⟩ :=
        rooted.attended number adapter found unheld other
      ⟨by_session, session, stays present, same⟩
    session_known := by
      intro number session found
      rw [Holdings.launch, Table.get?_insert] at found
      split at found
      case isTrue same => exact .inl (same ▸ List.mem_cons_self)
      case isFalse =>
        exact (rooted.session_known number session found).imp_left
          (List.mem_cons_of_mem _) }

/-- The adapter of a session that is forgotten is loose. -/
theorem dropSession
    {id : SessionId}
    {session : LiveSession}
    (rooted : Rooted
      { hands with ending := id :: hands.ending, past := id :: hands.past }
      none kept)
    (found : kept.sessions.get? id = some session) :
    Rooted hands (some session.adapter) (kept.dropSession id) := by
  have stays {number other}
      (present : kept.sessions.get? number = some other)
      (differs : number ≠ id) :
      (kept.dropSession id).sessions.get? number = some other :=
    (Table.get?_erase _ _ _).trans ((if_neg differs).trans present)
  obtain ⟨absent, single⟩ := List.nodup_cons.mp rooted.single
  exact { rooted with
    single := single
    based := fun number other present =>
      rooted.based number other (Table.of_get?_erase present).2
    borrowed := fun number packet present =>
      let ⟨staying, lender, lends⟩ := rooted.borrowed number packet present
      let ⟨differs, staying⟩ := List.ne_and_not_mem_of_not_mem_cons staying
      ⟨staying, lender, stays lends differs⟩
    ending_found := fun number ending =>
      let ⟨other, present⟩ :=
        rooted.ending_found number (List.mem_cons_of_mem _ ending)
      ⟨other, stays present fun same => absent (same ▸ ending)⟩
    attended := by
      intro number adapter present unheld other
      obtain ⟨by_session, user, uses, same⟩ :=
        rooted.attended number adapter present unheld nofun
      refine ⟨by_session, user, stays uses ?_, same⟩
      rintro rfl
      rw [found] at uses
      cases uses
      exact other (congrArg some same)
    session_known := fun number other present =>
      let ⟨differs, earlier⟩ := Table.of_get?_erase present
      (rooted.session_known number other earlier).imp_right fun ending =>
        (List.mem_cons.mp ending).resolve_left differs }

/-- A new packet of a session that is not being ended. -/
theorem keep
    (rooted : Rooted hands loose kept)
    {packet : HeldPacket}
    {session : LiveSession}
    (staying : packet.session ∉ hands.ending)
    (found : kept.sessions.get? packet.session = some session) :
    Rooted { hands with packets := (kept.lastNumber + 1) :: hands.packets }
      loose (kept.keep packet) :=
  { rooted with
    packet_known := by
      intro number other present
      rw [Holdings.keep, Table.get?_insert] at present
      split at present
      case isTrue same => exact same ▸ List.mem_cons_self
      case isFalse =>
        exact List.mem_cons_of_mem _ (rooted.packet_known number other present)
    borrowed := by
      intro number other present
      rw [Holdings.keep, Table.get?_insert] at present
      split at present
      case isTrue =>
        cases present
        exact ⟨staying, session, found⟩
      case isFalse => exact rooted.borrowed number other present }

theorem dropPacket
    {id : PacketId}
    (rooted : Rooted { hands with packets := id :: hands.packets } loose kept) :
    Rooted hands loose (kept.dropPacket id) :=
  { rooted with
    borrowed := fun number packet found =>
      rooted.borrowed number packet (Table.of_get?_erase found).2
    packet_known := fun number packet found =>
      let ⟨differs, present⟩ := Table.of_get?_erase found
      (List.mem_cons.mp (rooted.packet_known number packet present)).resolve_left
        differs }

end Rooted

/-! ## What the driver has to expect -/

/-- A call that neither ends, closes nor gives back anything. -/
theorem admits_of_named
    {before : List Exchange}
    {exchange : Exchange}
    (adapter_open : ∀ adapter, exchange.adapter? = some adapter →
      IsOpen before adapter)
    (session_running : ∀ session, exchange.session? = some session →
      IsRunning before session)
    (closes : exchange.closes? = none)
    (ends : exchange.ends? = none)
    (returns : exchange.returns? = none) : Admits before exchange where
  adapter_open
  session_running
  packet_lent := fun loan given => by simp [returns] at given
  end_settled := by
    rintro session rfl
    simp [Exchange.ends?] at ends
  close_unused := by
    rintro adapter rfl
    simp [Exchange.closes?] at closes

namespace Books

/-- An adapter that is held is open. -/
theorem isOpen
    (books : Books hands loose kept)
    (dependable : Dependable kept.log)
    {id : AdapterId}
    {adapter : OpenAdapter}
    (found : kept.adapters.get? id = some adapter) :
    IsOpen kept.log adapter.handle := by
  have member := Holdings.mem_handles books.toNumbered found
  exact ⟨books.adapters.mem_given member,
    books.adapters.not_mem_back dependable.adapters_fresh member⟩

/-- A session that the driver has not ended runs. -/
theorem isRunning
    (books : Books hands loose kept)
    (dependable : Dependable kept.log)
    {handle : SessionHandle}
    (member : handle ∈
      kept.running hands.past ++ hands.pending.map (·.2)) :
    IsRunning kept.log handle :=
  ⟨books.sessions.mem_given member,
    books.sessions.not_mem_back dependable.sessions_fresh member⟩

theorem mem_running
    (books : Books hands loose kept)
    {id : SessionId}
    {session : LiveSession}
    (found : kept.sessions.get? id = some session)
    (present : id ∉ hands.past) :
    session.handle ∈
      kept.running hands.past ++ hands.pending.map (·.2) :=
  List.mem_append_left _
    (Holdings.mem_running books.toNumbered found present)

theorem mem_pending
    {id : AdapterId}
    {handle : SessionHandle}
    (pending : (id, handle) ∈ hands.pending) :
    handle ∈ kept.running hands.past ++ hands.pending.map (·.2) :=
  List.mem_append_right _ (List.mem_map_of_mem pending)

/-- Nothing is lent by a session that no packet keeps. -/
theorem isSettled
    (books : Books hands loose kept)
    {handle : SessionHandle}
    (unkept : ∀ id packet session, kept.packets.get? id = some packet →
      kept.sessions.get? packet.session = some session →
      session.handle ≠ handle) : IsSettled kept.log handle := by
  rintro loan rfl
  apply books.packets.count_eq_of_not_mem
  intro member
  obtain ⟨id, packet, session, found, lender, same⟩ :=
    Holdings.exists_of_mem_loans books.toNumbered member
  exact unkept id packet session found lender same

/-- Adapters have different handles. -/
theorem adapter_eq
    (books : Books hands loose kept)
    (dependable : Dependable kept.log)
    {first second : AdapterId}
    {left right : OpenAdapter}
    (found_first : kept.adapters.get? first = some left)
    (found_second : kept.adapters.get? second = some right)
    (same : left.handle = right.handle) : first = second := by
  by_contra differs
  have different := books.adapters.nodup_kept dependable.adapters_fresh
  rw [(Holdings.perm_handles books.toNumbered found_first).nodup_iff,
    List.nodup_cons] at different
  apply different.1
  rw [same]
  have stays : (kept.dropAdapter first).adapters.get? second = some right :=
    (Table.get?_erase _ _ _).trans
      ((if_neg (Ne.symm differs)).trans found_second)
  exact Holdings.mem_handles (books.toNumbered.dropAdapter first) stays

/-- All sessions that were started on an adapter that nobody holds and no
session uses are ended. -/
theorem ended_of_unused
    (books : Books hands loose kept)
    (orderly : hands.Orderly)
    (dependable : Dependable kept.log)
    {id : AdapterId}
    {adapter : OpenAdapter}
    (found : kept.adapters.get? id = some adapter)
    (unheld : adapter.held = false)
    (unused : ¬ kept.IsUsed id)
    {handle : SessionHandle}
    (member : (handle, adapter.handle) ∈ started kept.log) :
    handle ∈ ended kept.log := by
  by_contra open_still
  have same_adapter {number other}
      (present : kept.adapters.get? number = some other)
      (on_other : (handle, other.handle) ∈ started kept.log) : number = id :=
    books.adapter_eq dependable present found
      (dependable.adapter_eq on_other member)
  have held := books.sessions.mem_kept (mem_begun member) open_still
  obtain running | pending := List.mem_append.mp held
  case inl =>
    obtain ⟨number, session, runs, _, rfl⟩ :=
      Holdings.exists_of_mem_running books.toNumbered running
    obtain ⟨other, present, on_other⟩ := books.based number session runs
    exact unused ⟨number, session, runs, same_adapter present on_other⟩
  case inr =>
    obtain ⟨⟨number, _⟩, waits, rfl⟩ := List.mem_map.mp pending
    obtain ⟨other, present, on_other⟩ := books.claimed number _ waits
    obtain rfl := same_adapter present on_other
    obtain ⟨locked, present, held⟩ := books.locked_held number
      (orderly.pending_locked number _ waits)
    rw [found] at present
    cases present
    rw [unheld] at held
    simp at held

/-! ### What is not there -/

/-- Nobody has to hold an adapter that is not there. -/
theorem of_adapter_gone
    {id : AdapterId}
    (books : Books { hands with adapters := id :: hands.adapters } loose kept)
    (gone : kept.adapters.get? id = none) : Books hands loose kept :=
  { books with
    adapter_known := fun number adapter found held =>
      Holdings.mem_of_gone gone found
        (books.adapter_known number adapter found held) }

/-- Nobody has to hold a session that is not there. -/
theorem of_session_gone
    {id : SessionId}
    (books : Books { hands with sessions := id :: hands.sessions } loose kept)
    (gone : kept.sessions.get? id = none) : Books hands loose kept :=
  { books with
    session_known := fun number session found =>
      (books.session_known number session found).imp_left
        (Holdings.mem_of_gone gone found) }

/-- Nobody has to hold a packet that is not there. -/
theorem of_packet_gone
    {id : PacketId}
    (books : Books { hands with packets := id :: hands.packets } loose kept)
    (gone : kept.packets.get? id = none) : Books hands loose kept :=
  { books with
    packet_known := fun number packet found =>
      Holdings.mem_of_gone gone found
        (books.packet_known number packet found) }

end Books
end Host
end VirtualAdapter

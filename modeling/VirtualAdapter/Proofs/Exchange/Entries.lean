import VirtualAdapter.Proofs.Exchange.Books

/-!
# Entries in the books

Every call of the driver is entered together with what it does to what is
held.  One lemma for each kind of entry says that the books stay right.
-/

namespace VirtualAdapter

open Ledger

namespace Exchange

/-- The call that borrows a packet. -/
def lending
    (direction : Direction)
    (session : SessionHandle)
    (outcome : Outcome RawPacket) : Exchange :=
  match direction with
  | .inbound => received session outcome
  | .outbound => allocated session outcome

/-- The call that gives a packet back. -/
def returning
    (direction : Direction)
    (session : SessionHandle)
    (packet : RawPacket) : Exchange :=
  match direction with
  | .inbound => released session packet
  | .outbound => sent session packet

/-- A call that gives nothing out and takes nothing back. -/
structure IsPlain (exchange : Exchange) : Prop where
  /-- No adapter is opened. -/
  opens : exchange.opens? = none
  /-- No adapter is closed. -/
  closes : exchange.closes? = none
  /-- No session is started. -/
  starts : exchange.starts? = none
  /-- No session is ended. -/
  ends : exchange.ends? = none
  /-- No packet is lent. -/
  lends : exchange.lends? = none
  /-- No packet is given back. -/
  returns : exchange.returns? = none

end Exchange

namespace Host

variable {hands later : Hands} {loose : Option AdapterId}
variable {kept next : Holdings} {exchange : Exchange}

/-- What is not moved stays. -/
theorem perm_unmoved {Thing : Type} (things : List Thing) :
    (things ++ []).Perm ([] ++ things) := by
  rw [List.append_nil, List.nil_append]

/-- Accounts stay right under a call if what it gives out and takes back is what
is held more and less. -/
theorem Accounts.enter
    (accounts : Accounts hands kept)
    (log : next.log = kept.log ++ [exchange])
    (adapters : (kept.handles ++ opened [exchange]).Perm
      (closed [exchange] ++ next.handles))
    (sessions :
      (kept.running hands.past ++ hands.pending.map (·.2) ++
        begun [exchange]).Perm
      (ended [exchange] ++
        (next.running later.past ++ later.pending.map (·.2))))
    (packets : (kept.loans ++ lent [exchange]).Perm
      (returned [exchange] ++ next.loans)) : Accounts later next := by
  constructor
  case adapters =>
    rw [log, opened_append, closed_append]
    exact accounts.adapters.step adapters
  case sessions =>
    rw [log, begun_append, ended_append]
    exact accounts.sessions.step sessions
  case packets =>
    rw [log, lent_append, returned_append]
    exact accounts.packets.step packets

/-- Accounts depend only on the log and on what is held. -/
theorem Accounts.of_eq
    (accounts : Accounts hands kept)
    (log : next.log = kept.log)
    (adapters : next.handles = kept.handles)
    (sessions :
      (next.running later.past ++ later.pending.map (·.2)).Perm
      (kept.running hands.past ++ hands.pending.map (·.2)))
    (packets : next.loans = kept.loans) : Accounts later next := by
  constructor
  case adapters =>
    rw [log, adapters]
    exact accounts.adapters
  case sessions =>
    rw [log]
    exact accounts.sessions.trans (sessions.symm.append_left _)
  case packets =>
    rw [log, packets]
    exact accounts.packets

namespace Books

/-! ## Calls that move nothing -/

/-- A call that gives nothing out and takes nothing back. -/
theorem note
    (books : Books hands loose kept)
    (plain : exchange.IsPlain)
    (adapter_open : ∀ adapter, exchange.adapter? = some adapter →
      IsOpen kept.log adapter)
    (session_running : ∀ session, exchange.session? = some session →
      IsRunning kept.log session) : Books hands loose (kept.record exchange) where
  toNumbered := books.toNumbered.record exchange
  toRooted := books.toRooted.record exchange
  toAccounts := by
    apply books.toAccounts.enter rfl
    case adapters =>
      simp only [opened, closed, List.filterMap_cons, List.filterMap_nil,
        plain.opens, plain.closes]
      exact perm_unmoved _
    case sessions =>
      simp only [begun, started, ended, List.filterMap_cons,
        List.filterMap_nil, plain.starts, plain.ends, List.map_nil]
      exact perm_unmoved _
    case packets =>
      simp only [lent, returned, List.filterMap_cons, List.filterMap_nil,
        plain.lends, plain.returns]
      exact perm_unmoved _
  admissible := books.admissible.concat
    (admits_of_named adapter_open session_running
      plain.closes plain.ends plain.returns)

/-- A number is given out. -/
theorem number (books : Books hands loose kept) :
    Books hands loose kept.number where
  toNumbered := books.toNumbered.number
  toRooted := books.toRooted.number
  toAccounts := { books.toAccounts with }
  admissible := books.admissible

/-! ## Adapters -/

/-- An adapter is opened. -/
theorem opening
    (books : Books hands loose kept)
    (handle : AdapterHandle) :
    Books
      { hands with adapters := (kept.lastNumber + 1) :: hands.adapters }
      loose ((kept.record (.opened (.ok handle))).adopt handle) where
  toNumbered := (books.toNumbered.record _).adopt handle
  toRooted :=
    (books.toRooted.record _).adopt (books.toNumbered.record _) handle
  toAccounts := by
    apply books.toAccounts.enter rfl
    case adapters =>
      rw [Holdings.handles_adopt (books.toNumbered.record _)]
      exact List.Perm.refl _
    case sessions => exact perm_unmoved _
    case packets => exact perm_unmoved _
  admissible := books.admissible.concat
    (admits_of_named nofun nofun rfl rfl rfl)

/-- The interface identifier of an adapter is read. -/
theorem identifying
    {id : AdapterId}
    {adapter : OpenAdapter}
    (books : Books hands loose kept)
    (dependable : Dependable kept.log)
    (found : kept.adapters.get? id = some adapter) :
    Books hands loose (kept.record (.identified adapter.handle)) := by
  refine books.note ⟨rfl, rfl, rfl, rfl, rfl, rfl⟩ ?_ nofun
  rintro _ ⟨⟩
  exact books.isOpen dependable found

/-- An adapter is let go of. -/
theorem unholding
    {id : AdapterId}
    (books : Books { hands with adapters := id :: hands.adapters } none kept)
    (unlocked : id ∉ hands.locked) :
    Books hands (some id) (kept.unhold id) where
  toNumbered := books.toNumbered.unhold id
  toRooted := books.toRooted.unhold unlocked
  toAccounts :=
    books.toAccounts.of_eq rfl (Holdings.handles_unhold id) (.refl _) rfl
  admissible := books.admissible

/-- An adapter that was let go of turns out to be held or used. -/
theorem attending
    {id : AdapterId}
    (books : Books hands (some id) kept)
    (attended : ∀ adapter, kept.adapters.get? id = some adapter →
      adapter.held = false → kept.IsUsed id) : Books hands none kept :=
  { books with toRooted := books.toRooted.attend attended }

/-- A loose adapter is closed. -/
theorem closing
    {id : AdapterId}
    {adapter : OpenAdapter}
    (books : Books hands (some id) kept)
    (orderly : hands.Orderly)
    (dependable : Dependable kept.log)
    (found : kept.adapters.get? id = some adapter)
    (unheld : adapter.held = false)
    (unused : ¬ kept.IsUsed id) :
    Books hands none
      ((kept.record (.closed adapter.handle)).dropAdapter id) where
  toNumbered := (books.toNumbered.record _).dropAdapter id
  toRooted := by
    refine (books.toRooted.record _).dropAdapter orderly ?_ unused
    intro locked
    obtain ⟨other, present, held⟩ := books.locked_held id locked
    rw [found] at present
    cases present
    rw [unheld] at held
    simp at held
  toAccounts := by
    apply books.toAccounts.enter rfl
    case adapters =>
      rw [show opened [.closed adapter.handle] = [] from rfl,
        List.append_nil]
      exact Holdings.perm_handles books.toNumbered found
    case sessions => exact perm_unmoved _
    case packets => exact perm_unmoved _
  admissible := by
    apply books.admissible.concat
    constructor
    case adapter_open =>
      rintro _ ⟨⟩
      exact books.isOpen dependable found
    case close_unused =>
      rintro _ ⟨⟩ session member
      exact books.ended_of_unused orderly dependable found unheld unused member
    all_goals exact nofun

/-! ## Sessions -/

/-- The driver starts a session on an adapter. -/
theorem starting
    {id : AdapterId}
    {adapter : OpenAdapter}
    (books : Books hands loose kept)
    (dependable : Dependable kept.log)
    (found : kept.adapters.get? id = some adapter)
    (handle : SessionHandle) :
    Books { hands with pending := (id, handle) :: hands.pending } loose
      (kept.record (.started adapter.handle (.ok handle))) where
  toNumbered := books.toNumbered.record _
  toRooted :=
    { books.toRooted.record (.started adapter.handle (.ok handle)) with
      claimed := by
        intro number other pending
        obtain new | old := List.mem_cons.mp pending
        case inl =>
          cases new
          refine ⟨adapter, found, ?_⟩
          exact (started_append _ _).symm ▸
            List.mem_append_right _ List.mem_cons_self
        case inr => exact (books.toRooted.record _).claimed number other old }
  toAccounts := by
    apply books.toAccounts.enter rfl
    case adapters => exact perm_unmoved _
    case sessions =>
      rw [List.append_assoc]
      exact (List.perm_append_singleton handle _).append_left _
    case packets => exact perm_unmoved _
  admissible := books.admissible.concat
    (admits_of_named
      (by
        rintro _ ⟨⟩
        exact books.isOpen dependable found)
      nofun rfl rfl rfl)

variable (hands) in
/-- A session that was pending is kept. -/
theorem launching
    {id : AdapterId}
    {handle : SessionHandle}
    (books : Books
      { hands with
        locked := id :: hands.locked
        pending := (id, handle) :: hands.pending } loose kept)
    (orderly : hands.Orderly) :
    Books
      { hands with sessions := (kept.lastNumber + 1) :: hands.sessions }
      loose (kept.launch id handle) where
  toNumbered := books.toNumbered.launch id handle
  toRooted := books.toRooted.launch books.toNumbered
  toAccounts := by
    have unknown : kept.lastNumber + 1 ∉ hands.past := by
      intro past
      obtain ⟨session, found⟩ :=
        books.ending_found _ (orderly.past_ending _ past)
      exact Nat.not_succ_le_self _ (books.session_le _ session found)
    apply books.toAccounts.of_eq
    case log => rfl
    case adapters => rfl
    case sessions =>
      rw [Holdings.running_launch books.toNumbered unknown, List.append_assoc]
      exact List.Perm.refl _
    case packets =>
      refine Holdings.loans_congr books.toNumbered rfl ?_
      intro number packet found
      obtain ⟨_, session, present⟩ := books.borrowed number packet found
      have older : packet.session ≠ kept.lastNumber + 1 :=
        Nat.ne_of_lt (Nat.lt_succ_of_le (books.session_le _ session present))
      exact (Table.get?_insert _ _ _ _).trans (if_neg older)
  admissible := books.admissible

variable (hands) in
/-- The driver ends a session that nobody has held. -/
theorem aborting
    {id : AdapterId}
    {handle : SessionHandle}
    (books : Books
      { hands with pending := (id, handle) :: hands.pending } loose kept)
    (orderly : hands.Orderly)
    (dependable : Dependable kept.log) :
    Books hands loose (kept.record (.ended handle)) where
  toNumbered := books.toNumbered.record _
  toRooted :=
    { books.toRooted.record (.ended handle) with
      claimed := fun number other pending =>
        (books.toRooted.record _).claimed number other
          (List.mem_cons_of_mem _ pending) }
  toAccounts := by
    apply books.toAccounts.enter rfl
    case adapters => exact perm_unmoved _
    case sessions =>
      rw [show begun [.ended handle] = [] from rfl, List.append_nil]
      exact List.perm_middle
    case packets => exact perm_unmoved _
  admissible := by
    have different := books.sessions.nodup_kept dependable.sessions_fresh
    apply books.admissible.concat
    constructor
    case session_running =>
      rintro _ ⟨⟩
      exact books.isRunning dependable
        (Books.mem_pending (List.mem_cons_self))
    case end_settled =>
      rintro _ ⟨⟩
      apply books.isSettled
      rintro number packet session found lender rfl
      have staying := (books.borrowed number packet found).1
      have runs := Holdings.mem_running books.toNumbered lender fun past =>
        staying (orderly.past_ending _ past)
      exact (List.nodup_append.mp different).2.2 _ runs _
        List.mem_cons_self rfl
    all_goals exact nofun

/-- The driver ends a session that is being ended. -/
theorem ending
    {id : SessionId}
    {session : LiveSession}
    (books : Books hands loose kept)
    (orderly : hands.Orderly)
    (dependable : Dependable kept.log)
    (found : kept.sessions.get? id = some session)
    (leaving : id ∈ hands.ending)
    (present : id ∉ hands.past) :
    Books { hands with past := id :: hands.past } loose
      (kept.record (.ended session.handle)) where
  toNumbered := books.toNumbered.record _
  toRooted := { books.toRooted.record _ with }
  toAccounts := by
    apply books.toAccounts.enter rfl
    case adapters => exact perm_unmoved _
    case sessions =>
      rw [show begun [.ended session.handle] = [] from rfl, List.append_nil,
        Holdings.running_cons]
      exact (Holdings.perm_running books.toNumbered found present).append_right _
    case packets => exact perm_unmoved _
  admissible := by
    have different := books.sessions.nodup_kept dependable.sessions_fresh
    apply books.admissible.concat
    constructor
    case session_running =>
      rintro _ ⟨⟩
      exact books.isRunning dependable (books.mem_running found present)
    case end_settled =>
      rintro _ ⟨⟩
      apply books.isSettled
      intro number packet lender lent lends same
      have staying := (books.borrowed number packet lent).1
      have equal := Holdings.session_eq books.toNumbered
        (List.nodup_append.mp different).1 lends found
        (fun past => staying (orderly.past_ending _ past)) present same
      exact staying (equal ▸ leaving)
    all_goals exact nofun

variable (hands) in
/-- A session that the driver has ended is forgotten. -/
theorem forgetting
    {id : SessionId}
    {session : LiveSession}
    (books : Books
      { hands with ending := id :: hands.ending, past := id :: hands.past }
      none kept)
    (found : kept.sessions.get? id = some session) :
    Books hands (some session.adapter) (kept.dropSession id) where
  toNumbered := books.toNumbered.dropSession id
  toRooted := books.toRooted.dropSession found
  toAccounts := by
    apply books.toAccounts.of_eq
    case log => rfl
    case adapters => rfl
    case sessions =>
      rw [Holdings.running_cons]
    case packets =>
      refine Holdings.loans_congr books.toNumbered rfl ?_
      intro number packet lent
      have staying := (books.borrowed number packet lent).1
      have differs := (List.ne_and_not_mem_of_not_mem_cons staying).1
      exact (Table.get?_erase _ _ _).trans (if_neg differs)
  admissible := books.admissible

/-! ## Packets -/

/-- A packet is borrowed. -/
theorem borrowing
    {id : SessionId}
    {session : LiveSession}
    (books : Books hands loose kept)
    (orderly : hands.Orderly)
    (dependable : Dependable kept.log)
    (found : kept.sessions.get? id = some session)
    (staying : id ∉ hands.ending)
    (direction : Direction)
    (raw : RawPacket) :
    Books { hands with packets := (kept.lastNumber + 1) :: hands.packets }
      loose
      ((kept.record (.lending direction session.handle (.ok raw))).keep
        ⟨id, direction, raw⟩) where
  toNumbered := (books.toNumbered.record _).keep _
  toRooted := (books.toRooted.record _).keep staying found
  toAccounts := by
    apply books.toAccounts.enter rfl
    case adapters => cases direction <;> exact perm_unmoved _
    case sessions => cases direction <;> exact perm_unmoved _
    case packets =>
      rw [Holdings.loans_keep (books.toNumbered.record _)
        ⟨id, direction, raw⟩ found]
      cases direction <;> exact List.Perm.refl _
  admissible := by
    have runs := books.isRunning dependable
      (books.mem_running found fun past =>
        staying (orderly.past_ending _ past))
    apply books.admissible.concat
    cases direction
    case inbound =>
      exact admits_of_named nofun (by rintro _ ⟨⟩; exact runs) rfl rfl rfl
    case outbound =>
      exact admits_of_named nofun (by rintro _ ⟨⟩; exact runs) rfl rfl rfl

/-- A packet is refused. -/
theorem refusing
    {id : SessionId}
    {session : LiveSession}
    (books : Books hands loose kept)
    (orderly : hands.Orderly)
    (dependable : Dependable kept.log)
    (found : kept.sessions.get? id = some session)
    (staying : id ∉ hands.ending)
    (direction : Direction)
    (failure : Failure) :
    Books hands loose
      (kept.record (.lending direction session.handle (.error failure))) := by
  have runs := books.isRunning dependable
    (books.mem_running found fun past =>
      staying (orderly.past_ending _ past))
  apply books.note
  case plain => cases direction <;> exact ⟨rfl, rfl, rfl, rfl, rfl, rfl⟩
  case adapter_open => cases direction <;> exact nofun
  case session_running => cases direction <;> (rintro _ ⟨⟩; exact runs)

/-- A packet is given back. -/
theorem returning
    {id : PacketId}
    {packet : HeldPacket}
    {session : LiveSession}
    (books : Books { hands with packets := id :: hands.packets } loose kept)
    (orderly : hands.Orderly)
    (dependable : Dependable kept.log)
    (found : kept.packets.get? id = some packet)
    (lender : kept.sessions.get? packet.session = some session) :
    Books hands loose
      ((kept.dropPacket id).record
        (.returning packet.direction session.handle packet.raw)) where
  toNumbered := (books.toNumbered.dropPacket id).record _
  toRooted := books.toRooted.dropPacket.record _
  toAccounts := by
    have loans := Holdings.perm_loans books.toNumbered found lender
    apply books.toAccounts.enter rfl
    case adapters => cases packet.direction <;> exact perm_unmoved _
    case sessions => cases packet.direction <;> exact perm_unmoved _
    case packets =>
      cases direction : packet.direction
      all_goals
        rw [direction] at loans
        exact (List.append_nil _).symm ▸ loans
  admissible := by
    have staying := (books.borrowed id packet found).1
    have runs := books.isRunning dependable
      (books.mem_running lender fun past =>
        staying (orderly.past_ending _ past))
    have owed := books.packets.count_lt
      ((Holdings.perm_loans books.toNumbered found lender).mem_iff.mpr
        List.mem_cons_self)
    apply books.admissible.concat
    cases direction : packet.direction
    all_goals
      rw [direction] at owed
      constructor
      case session_running =>
        rintro _ ⟨⟩
        exact runs
      case packet_lent =>
        rintro _ ⟨⟩
        exact owed
      all_goals exact nofun

end Books
end Host
end VirtualAdapter

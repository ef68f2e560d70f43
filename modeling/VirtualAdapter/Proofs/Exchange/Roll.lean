import VirtualAdapter.Proofs.Exchange.Ledger
import VirtualAdapter.Proofs.Action
import VirtualAdapter.Proofs.Table
import VirtualAdapter.Host.Finish
import VirtualAdapter.Host.Manager

/-!
# What callers hold and what a manager counts

Answers say which adapters callers were given and which sessions they started.
A manager counts the adapters that the driver has not closed and the sessions
that were not ended, keeps the names of these sessions, and flags the adapters
on which they were started.  Each change of a host keeps both sides together.
-/

namespace VirtualAdapter

/-- A call breaks off in the middle of a start or an end. -/
def Exchange.crashes : Exchange → Bool
  | started _ (.error (.crashed _)) => true
  | exchange => exchange.breaksOff

namespace Host

/-- A session as its starter knows it. -/
structure Tenant where
  /-- The adapter on which it was started. -/
  adapter : AdapterId
  /-- The name under which this adapter was opened. -/
  name : String

/-- What callers were given and have not given back. -/
structure Roll where
  /-- The adapters, with the names under which they were opened. -/
  adapters : Table AdapterId String := ∅
  /-- The sessions. -/
  sessions : Table SessionId Tenant := ∅

namespace Roll

/-- An adapter may have been opened under a name. -/
def gain (roll : Roll) (name : String) : Outcome AdapterId → Roll
  | .ok id => { roll with adapters := roll.adapters.insert id name }
  | .error _ => roll

/-- The caller lets go of an adapter. -/
def letGo (roll : Roll) (id : AdapterId) : Roll :=
  { roll with adapters := roll.adapters.erase id }

/-- A session may have been started on an adapter. -/
def launch (roll : Roll) (adapter : AdapterId) : Outcome SessionId → Roll
  | .ok id =>
      let name := (roll.adapters.get? adapter).getD ""
      { roll with sessions := roll.sessions.insert id { adapter, name } }
  | .error _ => roll

/-- The caller ends a session. -/
def finish (roll : Roll) (id : SessionId) : Roll :=
  { roll with sessions := roll.sessions.erase id }

/-- A live session was started on an adapter. -/
def Uses (roll : Roll) (id : AdapterId) : Prop :=
  ∃ session tenant, roll.sessions.get? session = some tenant ∧
    tenant.adapter = id

/-- The names, in lower case, on which live sessions run. -/
def keys (roll : Roll) : List String :=
  roll.sessions.values.map fun tenant => deviceKey tenant.name

end Roll

/-- The name of an adapter whose caller still holds it. -/
def Adapter.heldName? (adapter : Adapter) : Option String :=
  if adapter.held then some adapter.name else none

open Ledger

variable {State : Type}

/-- What a manager keeps fits what callers hold.  One adapter may be loose:
its caller has let go of it, and it was not given back yet. -/
structure Fits
    (manager : ManagerId)
    (entry : Manager)
    (loose : Option AdapterId)
    (host : Host (Recorded State))
    (roll : Roll) : Prop where
  /-- The manager is there. -/
  found : host.managers.get? manager = some entry
  /-- No adapter has two entries. -/
  adapters_proper : host.adapters.IsProper
  /-- No session has two entries. -/
  sessions_proper : roll.sessions.IsProper
  /-- Adapters have numbers that were given out. -/
  adapter_le : ∀ id adapter, host.adapters.get? id = some adapter →
    id ≤ host.lastNumber
  /-- Sessions have numbers that were given out. -/
  session_le : ∀ id tenant, roll.sessions.get? id = some tenant →
    id ≤ host.lastNumber
  /-- Adapters were opened through the manager. -/
  owned : ∀ id adapter, host.adapters.get? id = some adapter →
    adapter.manager = manager
  /-- Callers hold the adapters that say so. -/
  given : ∀ id, roll.adapters.get? id =
    (host.adapters.get? id).bind (·.heldName?)
  /-- Live sessions are kept with their adapters. -/
  live : roll.sessions.map (·.adapter) = host.sessions.map (·.adapter)
  /-- The adapter of a live session is open under its name. -/
  named : ∀ session tenant, roll.sessions.get? session = some tenant →
    ∃ adapter, host.adapters.get? tenant.adapter = some adapter ∧
      adapter.name = tenant.name
  /-- The flag of an adapter says whether a session runs on it. -/
  flagged : ∀ id adapter, host.adapters.get? id = some adapter →
    (adapter.sessionActive = true ↔ roll.Uses id)
  /-- An adapter of which its caller let go stays open for a session. -/
  attended : ∀ id adapter, host.adapters.get? id = some adapter →
    adapter.held = false → loose ≠ some id → roll.Uses id
  /-- Open adapters are counted. -/
  counted : entry.openAdapters = host.adapters.size
  /-- The driver has closed all adapters but the open ones. -/
  closed_eq : host.adapters.size + (closed host.driver.log).length =
    (opened host.driver.log).length
  /-- Live sessions are counted. -/
  started : entry.activeSessions = roll.sessions.size
  /-- The names of live sessions are kept. -/
  running : entry.running.Perm roll.keys
  /-- No two of them are the same. -/
  apart : entry.running.Nodup

/-- Calls of the driver that open and close nothing. -/
structure Quiet (before after : Recorded State) : Prop where
  /-- No adapter was opened. -/
  opened_eq : opened after.log = opened before.log
  /-- No adapter was closed. -/
  closed_eq : closed after.log = closed before.log

theorem Quiet.refl (driver : Recorded State) : Quiet driver driver :=
  ⟨rfl, rfl⟩

namespace Fits

variable
  {manager : ManagerId}
  {entry : Manager}
  {loose : Option AdapterId}
  {host : Host (Recorded State)}
  {roll : Roll}

/-! ## Reading -/

theorem isUsed_iff
    (fits : Fits manager entry loose host roll)
    (id : AdapterId) : host.isUsed id = true ↔ roll.Uses id := by
  have values := congrArg Table.values fits.live
  rw [Table.values_map, Table.values_map] at values
  have used : host.isUsed id = true ↔
      id ∈ host.sessions.values.map (·.adapter) := by
    simp [isUsed]
  rw [used, ← values, List.mem_map]
  simp only [fits.sessions_proper.mem_values_iff, Roll.Uses, exists_and_right,
    exists_comm]

/-- The next number is that of no adapter. -/
theorem get?_adapters_next (fits : Fits manager entry loose host roll) :
    host.adapters.get? (host.lastNumber + 1) = none := by
  by_contra present
  obtain ⟨adapter, found⟩ := Option.ne_none_iff_exists'.mp present
  exact Nat.not_succ_le_self _ (fits.adapter_le _ adapter found)

/-- The next number is that of no session. -/
theorem get?_sessions_next (fits : Fits manager entry loose host roll) :
    roll.sessions.get? (host.lastNumber + 1) = none := by
  by_contra present
  obtain ⟨tenant, found⟩ := Option.ne_none_iff_exists'.mp present
  exact Nat.not_succ_le_self _ (fits.session_le _ tenant found)

/-- Sessions are kept exactly as long as they are live. -/
theorem get?_sessions
    (fits : Fits manager entry loose host roll)
    (id : SessionId) :
    (host.sessions.get? id).map (·.adapter) =
      (roll.sessions.get? id).map (·.adapter) := by
  rw [← Table.get?_map, ← Table.get?_map, fits.live]

/-! ## Changes -/

/-- The driver changes, but opens and closes nothing. -/
theorem changeDriver
    (fits : Fits manager entry loose host roll)
    {driver : Recorded State}
    (quiet : Quiet host.driver driver) :
    Fits manager entry loose { host with driver } roll :=
  { fits with
    closed_eq := by
      rw [quiet.opened_eq, quiet.closed_eq]
      exact fits.closed_eq }

/-- A new adapter is counted and kept. -/
theorem adopt
    (fits : Fits manager entry none host roll)
    (driver : Recorded State)
    {handle : AdapterHandle}
    (opens : driver.log = host.driver.log ++ [.opened (.ok handle)])
    (name : String) :
    Fits manager { entry with openAdapters := entry.openAdapters + 1 } none
      { host with
        driver
        lastNumber := host.lastNumber + 1
        managers := host.managers.update manager fun entry =>
          { entry with openAdapters := entry.openAdapters + 1 }
        adapters := host.adapters.insert (host.lastNumber + 1)
          { manager, handle, name } }
      (roll.gain name (.ok (host.lastNumber + 1))) where
  found := by
    rw [Table.get?_update, if_pos rfl, fits.found]
    rfl
  adapters_proper := fits.adapters_proper.insert _ _
  sessions_proper := fits.sessions_proper
  adapter_le := by
    intro id adapter found
    rw [Table.get?_insert] at found
    split at found
    case isTrue new => exact Nat.le_of_eq new
    case isFalse => exact Nat.le_succ_of_le (fits.adapter_le id adapter found)
  session_le := fun id tenant found =>
    Nat.le_succ_of_le (fits.session_le id tenant found)
  owned := by
    intro id adapter found
    rw [Table.get?_insert] at found
    split at found
    case isTrue => exact Option.some.inj found ▸ rfl
    case isFalse => exact fits.owned id adapter found
  given := by
    intro id
    rw [Roll.gain, Table.get?_insert, Table.get?_insert]
    split
    case isTrue => rfl
    case isFalse => exact fits.given id
  live := fits.live
  named := by
    intro session tenant found
    obtain ⟨adapter, present, name⟩ := fits.named session tenant found
    refine ⟨adapter, ?_, name⟩
    have old := Nat.lt_succ_of_le (fits.adapter_le _ adapter present)
    rw [Table.get?_insert, if_neg (Nat.ne_of_lt old), present]
  flagged := by
    intro id adapter found
    rw [Table.get?_insert] at found
    split at found
    case isTrue new =>
      -- No session runs on an adapter that was not there.
      obtain rfl := Option.some.inj found
      refine iff_of_false (by simp) ?_
      rintro ⟨session, tenant, present, rfl⟩
      obtain ⟨earlier, there, _⟩ := fits.named session tenant present
      rw [new, fits.get?_adapters_next] at there
      cases there
    case isFalse => exact fits.flagged id adapter found
  attended := by
    intro id adapter found unheld
    rw [Table.get?_insert] at found
    split at found
    case isTrue =>
      obtain rfl := Option.some.inj found
      cases unheld
    case isFalse => exact fits.attended id adapter found unheld
  counted := by
    rw [Table.size_insert_of_absent fits.get?_adapters_next, ← fits.counted]
  closed_eq := by
    have before := fits.closed_eq
    rw [Table.size_insert_of_absent fits.get?_adapters_next, opens,
      opened_append, closed_append]
    simp [opened, closed, Exchange.opens?, Exchange.closes?] at before ⊢
    omega
  started := fits.started
  running := fits.running
  apart := fits.apart

/-- The caller lets go of an adapter, which is loose then. -/
theorem unhold
    (fits : Fits manager entry none host roll)
    (id : AdapterId) :
    Fits manager entry (some id)
      { host with
        adapters := host.adapters.update id fun adapter =>
          { adapter with held := false } }
      (roll.letGo id) where
  found := fits.found
  adapters_proper := fits.adapters_proper.update _ _
  sessions_proper := fits.sessions_proper
  adapter_le := by
    intro other adapter found
    obtain ⟨earlier, present, _⟩ := Table.exists_of_get?_update found
    exact fits.adapter_le other earlier present
  session_le := fits.session_le
  owned := by
    intro other adapter found
    obtain ⟨earlier, present, rfl⟩ := Table.exists_of_get?_update found
    split <;> exact fits.owned other earlier present
  given := by
    intro other
    rw [Roll.letGo, Table.get?_erase, Table.get?_update]
    split
    case isTrue => cases host.adapters.get? id <;> rfl
    case isFalse => exact fits.given other
  live := fits.live
  named := by
    intro session tenant found
    obtain ⟨adapter, present, name⟩ := fits.named session tenant found
    rw [Table.get?_update]
    split
    case isTrue same =>
      refine ⟨{ adapter with held := false }, ?_, name⟩
      rw [← same, present]
      rfl
    case isFalse => exact ⟨adapter, present, name⟩
  flagged := by
    intro other adapter found
    obtain ⟨earlier, present, rfl⟩ := Table.exists_of_get?_update found
    split <;> exact fits.flagged other earlier present
  attended := by
    intro other adapter found unheld attached
    obtain ⟨earlier, present, rfl⟩ := Table.exists_of_get?_update found
    have differs : other ≠ id := fun same => attached (same ▸ rfl)
    rw [if_neg differs] at unheld
    exact fits.attended other earlier present unheld
      (Option.some_ne_none other).symm
  counted := by
    rw [Table.size_update]
    exact fits.counted
  closed_eq := by
    rw [Table.size_update]
    exact fits.closed_eq
  started := fits.started
  running := fits.running
  apart := fits.apart

/-- A loose adapter turns out to be held, or used by a session, or not to be
there. -/
theorem attend
    {id : AdapterId}
    (fits : Fits manager entry (some id) host roll)
    (kept : ∀ adapter, host.adapters.get? id = some adapter →
      adapter.held = false → roll.Uses id) :
    Fits manager entry none host roll :=
  { fits with
    attended := by
      intro other adapter found unheld _
      by_cases same : other = id
      · subst same
        exact kept adapter found unheld
      · exact fits.attended other adapter found unheld
          fun loose => same (Option.some.inj loose).symm }

/-- A loose adapter on which no session runs is given back to the driver. -/
theorem remove
    {id : AdapterId}
    (fits : Fits manager entry (some id) host roll)
    {adapter : Adapter}
    (found : host.adapters.get? id = some adapter)
    (unheld : adapter.held = false)
    (unused : ¬ roll.Uses id)
    (driver : Recorded State)
    (closes : driver.log = host.driver.log ++ [.closed adapter.handle]) :
    Fits manager { entry with openAdapters := entry.openAdapters - 1 } none
      { host with
        driver
        managers := host.managers.update adapter.manager fun entry =>
          { entry with openAdapters := entry.openAdapters - 1 }
        adapters := host.adapters.erase id }
      roll := by
  have size := fits.adapters_proper.size_erase found
  constructor
  case found =>
    rw [Table.get?_update, if_pos (fits.owned id adapter found).symm,
      fits.owned id adapter found, fits.found]
    rfl
  case adapters_proper => exact fits.adapters_proper.erase id
  case sessions_proper => exact fits.sessions_proper
  case adapter_le =>
    intro other present seen
    exact fits.adapter_le other present (Table.of_get?_erase seen).2
  case session_le => exact fits.session_le
  case owned =>
    intro other present seen
    exact fits.owned other present (Table.of_get?_erase seen).2
  case given =>
    intro other
    rw [fits.given, Table.get?_erase]
    split
    case isTrue same =>
      rw [same, found]
      exact if_neg (by simp [unheld])
    case isFalse => rfl
  case live => exact fits.live
  case named =>
    intro session tenant seen
    obtain ⟨present, there, name⟩ := fits.named session tenant seen
    have differs : tenant.adapter ≠ id := fun same =>
      unused ⟨session, tenant, seen, same⟩
    exact ⟨present, (Table.get?_erase _ _ _).trans ((if_neg differs).trans there),
      name⟩
  case flagged =>
    intro other present seen
    exact fits.flagged other present (Table.of_get?_erase seen).2
  case attended =>
    intro other present seen away _
    obtain ⟨differs, there⟩ := Table.of_get?_erase seen
    exact fits.attended other present there away
      fun same => differs (Option.some.inj same).symm
  case counted =>
    have counted := fits.counted
    dsimp only
    omega
  case closed_eq =>
    have before := fits.closed_eq
    rw [closes, opened_append, closed_append]
    simp [opened, closed, Exchange.opens?, Exchange.closes?] at before ⊢
    omega
  case started => exact fits.started
  case running => exact fits.running
  case apart => exact fits.apart

/-! ## Sessions -/

/-- A new session runs on its adapter and on no other one. -/
theorem uses_launch
    (fits : Fits manager entry loose host roll)
    (adapter other : AdapterId) :
    (roll.launch adapter (.ok (host.lastNumber + 1))).Uses other ↔
      other = adapter ∨ roll.Uses other := by
  have absent := fits.get?_sessions_next
  unfold Roll.Uses
  simp only [Roll.launch, Table.get?_insert]
  constructor
  · rintro ⟨session, tenant, present, rfl⟩
    split at present
    case isTrue => exact .inl (Option.some.inj present ▸ rfl)
    case isFalse => exact .inr ⟨session, tenant, present, rfl⟩
  · rintro (rfl | ⟨session, tenant, present, rfl⟩)
    · exact ⟨host.lastNumber + 1, _, if_pos rfl, rfl⟩
    · have differs : session ≠ host.lastNumber + 1 := fun same => by
        rw [same, absent] at present
        cases present
      exact ⟨session, tenant, (if_neg differs).trans present, rfl⟩

/-- The caller of an adapter on which no session runs holds it. -/
theorem get?_adapters_of_idle
    (fits : Fits manager entry none host roll)
    {id : AdapterId}
    {adapter : Adapter}
    (found : host.adapters.get? id = some adapter)
    (idle : adapter.sessionActive = false) :
    roll.adapters.get? id = some adapter.name := by
  have held : adapter.held = true := by
    by_contra unheld
    rw [Bool.not_eq_true] at unheld
    have active := (fits.flagged id adapter found).mpr
      (fits.attended id adapter found unheld
        (Option.some_ne_none id).symm)
    cases idle.symm.trans active
  rw [fits.given, found]
  exact if_pos held

/-- A session is started on an adapter whose name is free. -/
theorem launch
    (fits : Fits manager entry none host roll)
    {id : AdapterId}
    {adapter : Adapter}
    (found : host.adapters.get? id = some adapter)
    (idle : adapter.sessionActive = false)
    (free : deviceKey adapter.name ∉ entry.running)
    {driver : Recorded State}
    (quiet : Quiet host.driver driver)
    {session : Session}
    (on : session.adapter = id) :
    Fits manager
      { entry with
        activeSessions := entry.activeSessions + 1
        running := entry.running ++ [deviceKey adapter.name] } none
      { host with
        driver
        lastNumber := host.lastNumber + 1
        managers := host.managers.update adapter.manager fun entry =>
          { entry with
            activeSessions := entry.activeSessions + 1
            running := entry.running ++ [deviceKey adapter.name] }
        adapters := host.adapters.update id fun entry =>
          { entry with sessionActive := true }
        sessions := host.sessions.insert (host.lastNumber + 1) session }
      (roll.launch id (.ok (host.lastNumber + 1))) := by
  have uses := fits.uses_launch id
  have absent := fits.get?_sessions_next
  have name := fits.get?_adapters_of_idle found idle
  have sessions : (roll.launch id (.ok (host.lastNumber + 1))).sessions =
      roll.sessions.insert (host.lastNumber + 1) ⟨id, adapter.name⟩ := by
    rw [Roll.launch, name]
    rfl
  constructor
  case found =>
    rw [Table.get?_update, if_pos (fits.owned id adapter found).symm,
      fits.owned id adapter found, fits.found]
    rfl
  case adapters_proper => exact fits.adapters_proper.update _ _
  case sessions_proper => exact fits.sessions_proper.insert _ _
  case adapter_le =>
    intro other present seen
    obtain ⟨earlier, there, _⟩ := Table.exists_of_get?_update seen
    exact Nat.le_succ_of_le (fits.adapter_le other earlier there)
  case session_le =>
    intro other tenant seen
    rw [sessions, Table.get?_insert] at seen
    split at seen
    case isTrue new => exact Nat.le_of_eq new
    case isFalse => exact Nat.le_succ_of_le (fits.session_le other tenant seen)
  case owned =>
    intro other present seen
    obtain ⟨earlier, there, rfl⟩ := Table.exists_of_get?_update seen
    split <;> exact fits.owned other earlier there
  case given =>
    intro other
    refine (fits.given other).trans ?_
    rw [Table.get?_update]
    split
    case isTrue same =>
      rw [same]
      cases host.adapters.get? id <;> rfl
    case isFalse => rfl
  case live =>
    rw [sessions, Table.map_insert, Table.map_insert, fits.live, on]
  case named =>
    intro other tenant seen
    rw [sessions, Table.get?_insert] at seen
    split at seen
    case isTrue =>
      obtain rfl := Option.some.inj seen
      refine ⟨{ adapter with sessionActive := true }, ?_, rfl⟩
      rw [Table.get?_update, if_pos rfl, found]
      rfl
    case isFalse =>
      obtain ⟨present, there, same⟩ := fits.named other tenant seen
      rw [Table.get?_update]
      split
      case isTrue here =>
        refine ⟨{ present with sessionActive := true }, ?_, same⟩
        rw [← here, there]
        rfl
      case isFalse => exact ⟨present, there, same⟩
  case flagged =>
    intro other present seen
    rw [uses]
    obtain ⟨earlier, there, rfl⟩ := Table.exists_of_get?_update seen
    split
    case isTrue here => exact iff_of_true rfl (.inl here)
    case isFalse elsewhere =>
      rw [fits.flagged other earlier there]
      exact (or_iff_right elsewhere).symm
  case attended =>
    intro other present seen unheld _
    rw [uses]
    obtain ⟨earlier, there, rfl⟩ := Table.exists_of_get?_update seen
    split at unheld
    case isTrue here => exact .inl here
    case isFalse =>
      exact .inr (fits.attended other earlier there unheld
        (Option.some_ne_none other).symm)
  case counted =>
    rw [Table.size_update]
    exact fits.counted
  case closed_eq =>
    rw [Table.size_update, quiet.opened_eq, quiet.closed_eq]
    exact fits.closed_eq
  case started =>
    rw [sessions, Table.size_insert_of_absent absent]
    exact congrArg (· + 1) fits.started
  case running =>
    have keys : (roll.launch id (.ok (host.lastNumber + 1))).keys =
        roll.keys ++ [deviceKey adapter.name] := by
      unfold Roll.keys Table.values
      rw [sessions, Table.entries_insert_of_absent absent]
      simp
    rw [keys]
    exact fits.running.append_right _
  case apart =>
    exact List.Nodup.append fits.apart (List.nodup_singleton _)
      (by simpa using free)

/-- The name of a live session, and those of all others. -/
theorem perm_keys
    (fits : Fits manager entry loose host roll)
    {id : SessionId}
    {tenant : Tenant}
    (found : roll.sessions.get? id = some tenant) :
    roll.keys.Perm (deviceKey tenant.name :: (roll.finish id).keys) := by
  have perm := (fits.sessions_proper.perm_erase found).map fun entry =>
    deviceKey entry.2.name
  simpa only [Roll.keys, Roll.finish, Table.values, List.map_map,
    Function.comp_def, List.map_cons] using perm

/-- The name of a session that is ended is free afterwards. -/
theorem key_notMem_finish
    (fits : Fits manager entry loose host roll)
    {id : SessionId}
    {tenant : Tenant}
    (found : roll.sessions.get? id = some tenant) :
    deviceKey tenant.name ∉ (roll.finish id).keys := by
  have apart := (fits.running.trans (fits.perm_keys found)).nodup_iff.mp
    fits.apart
  exact (List.nodup_cons.mp apart).1

/-- The adapter of a session that is ended is not used any more. -/
theorem not_uses_finish
    (fits : Fits manager entry loose host roll)
    {id : SessionId}
    {tenant : Tenant}
    (found : roll.sessions.get? id = some tenant) :
    ¬ (roll.finish id).Uses tenant.adapter := by
  rintro ⟨other, second, present, same⟩
  obtain ⟨_, before⟩ := Table.of_get?_erase present
  obtain ⟨adapter, there, name⟩ := fits.named id tenant found
  obtain ⟨beside, here, alike⟩ := fits.named other second before
  rw [same, there] at here
  obtain rfl := Option.some.inj here
  refine fits.key_notMem_finish found (List.mem_map.mpr ⟨second, ?_, ?_⟩)
  · exact (fits.sessions_proper.erase id).mem_values_iff.mpr ⟨other, present⟩
  · rw [← name, ← alike]

/-- Other adapters are used as before. -/
theorem uses_finish
    {id : SessionId}
    {tenant : Tenant}
    (found : roll.sessions.get? id = some tenant)
    {other : AdapterId}
    (differs : other ≠ tenant.adapter) :
    (roll.finish id).Uses other ↔ roll.Uses other := by
  constructor
  · rintro ⟨session, beside, present, on⟩
    exact ⟨session, beside, (Table.of_get?_erase present).2, on⟩
  · rintro ⟨session, beside, present, on⟩
    refine ⟨session, beside, ?_, on⟩
    have distinct : session ≠ id := by
      rintro rfl
      obtain rfl := Option.some.inj (found.symm.trans present)
      exact differs on.symm
    exact (Table.get?_erase _ _ _).trans ((if_neg distinct).trans present)

/-- A session is ended, and its adapter is loose then. -/
theorem finish
    (fits : Fits manager entry none host roll)
    {id : SessionId}
    {session : Session}
    {adapter : Adapter}
    (found : host.sessions.get? id = some session)
    (opened : host.adapters.get? session.adapter = some adapter)
    {driver : Recorded State}
    (quiet : Quiet host.driver driver) :
    Fits manager
      { entry with
        activeSessions := entry.activeSessions - 1
        running := entry.running.filter (· ≠ deviceKey adapter.name) }
      (some session.adapter)
      { host with
        driver
        managers := host.managers.update adapter.manager fun entry =>
          { entry with
            activeSessions := entry.activeSessions - 1
            running := entry.running.filter (· ≠ deviceKey adapter.name) }
        adapters := host.adapters.update session.adapter fun entry =>
          { entry with sessionActive := false }
        sessions := host.sessions.erase id }
      (roll.finish id) := by
  obtain ⟨tenant, alive, on⟩ : ∃ tenant,
      roll.sessions.get? id = some tenant ∧
        tenant.adapter = session.adapter := by
    have kept := fits.get?_sessions id
    rw [found] at kept
    exact Option.map_eq_some_iff.mp kept.symm
  have name : adapter.name = tenant.name := by
    obtain ⟨present, there, same⟩ := fits.named id tenant alive
    rw [on, opened] at there
    rwa [← Option.some.inj there] at same
  have unused := fits.not_uses_finish alive
  have size := fits.sessions_proper.size_erase alive
  rw [on] at unused
  have others : ∀ {other}, other ≠ session.adapter →
      ((roll.finish id).Uses other ↔ roll.Uses other) :=
    fun differs => uses_finish alive (on ▸ differs)
  constructor
  case found =>
    have own := fits.owned _ adapter opened
    rw [Table.get?_update, if_pos own.symm, own, fits.found]
    rfl
  case adapters_proper => exact fits.adapters_proper.update _ _
  case sessions_proper => exact fits.sessions_proper.erase id
  case adapter_le =>
    intro other present seen
    obtain ⟨earlier, there, _⟩ := Table.exists_of_get?_update seen
    exact fits.adapter_le other earlier there
  case session_le =>
    intro other beside seen
    exact fits.session_le other beside (Table.of_get?_erase seen).2
  case owned =>
    intro other present seen
    obtain ⟨earlier, there, rfl⟩ := Table.exists_of_get?_update seen
    split <;> exact fits.owned other earlier there
  case given =>
    intro other
    refine (fits.given other).trans ?_
    rw [Table.get?_update]
    split
    case isTrue same =>
      rw [same]
      cases host.adapters.get? session.adapter <;> rfl
    case isFalse => rfl
  case live =>
    rw [Roll.finish, Table.map_erase, Table.map_erase, fits.live]
  case named =>
    intro other beside seen
    obtain ⟨present, there, same⟩ :=
      fits.named other beside (Table.of_get?_erase seen).2
    rw [Table.get?_update]
    split
    case isTrue here =>
      refine ⟨{ present with sessionActive := false }, ?_, same⟩
      rw [← here, there]
      rfl
    case isFalse => exact ⟨present, there, same⟩
  case flagged =>
    intro other present seen
    obtain ⟨earlier, there, rfl⟩ := Table.exists_of_get?_update seen
    split
    case isTrue here => exact iff_of_false (by simp) (here ▸ unused)
    case isFalse elsewhere =>
      rw [others elsewhere]
      exact fits.flagged other earlier there
  case attended =>
    intro other present seen unheld attached
    obtain ⟨earlier, there, rfl⟩ := Table.exists_of_get?_update seen
    have elsewhere : other ≠ session.adapter := fun same =>
      attached (same ▸ rfl)
    rw [if_neg elsewhere] at unheld
    rw [others elsewhere]
    exact fits.attended other earlier there unheld
      (Option.some_ne_none other).symm
  case counted =>
    rw [Table.size_update]
    exact fits.counted
  case closed_eq =>
    rw [Table.size_update, quiet.opened_eq, quiet.closed_eq]
    exact fits.closed_eq
  case started =>
    have started := fits.started
    rw [Roll.finish]
    dsimp only
    omega
  case running =>
    rw [name]
    have perm := (fits.running.trans (fits.perm_keys alive)).filter
      (· ≠ deviceKey tenant.name)
    have kept : (roll.finish id).keys.filter (· ≠ deviceKey tenant.name) =
        (roll.finish id).keys :=
      List.filter_eq_self.mpr fun key member => decide_eq_true fun same =>
        fits.key_notMem_finish alive (same ▸ member)
    rwa [List.filter_cons_of_neg (by simp), kept] at perm
  case apart => exact fits.apart.filter _

end Fits

end Host
end VirtualAdapter

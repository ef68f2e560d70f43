import VirtualAdapter.Proofs.Host.Versions

/-!
# When the driver sees a close under a running session

An adapter that is let go of is kept open for the session that was started on
it, but not for a session that was started on another adapter of the same
device.  Over all runs of one manager this is the only way in which a device is
closed under its session, and it is a violation as long as the device is
registered.
-/

namespace VirtualAdapter
namespace Host

open Memory (MemoryDriver OpenHandle RunningSession Violation closedEarly)

/-- A call on the adapters and sessions of a manager. -/
inductive AdapterCall
  /-- Create an adapter. -/
  | create (config : AdapterConfig)
  /-- Open the adapter of a name once more. -/
  | openNamed (name : String)
  /-- Start a session on an adapter. -/
  | start (adapter : AdapterId) (config : SessionConfig)
  /-- End a session. -/
  | finish (session : SessionId)
  /-- Close an adapter. -/
  | close (adapter : AdapterId)
  /-- Drop an adapter. -/
  | drop (adapter : AdapterId)

/-- The adapter that a call lets go of. -/
def AdapterCall.letsGo? : AdapterCall → Option AdapterId
  | .close id => some id
  | .drop id => some id
  | _ => none

/-- Carry out a call. -/
def carryOut
    (manager : ManagerId)
    (host : Host MemoryDriver) : AdapterCall → Host MemoryDriver
  | .create config => (createAdapter manager config host).state
  | .openNamed name => (openAdapter manager name host).state
  | .start adapter config => (startSession adapter config host).state
  | .finish session => (endSession session host).state
  | .close adapter => (closeAdapter adapter host).state
  | .drop adapter => (dropAdapter adapter host).state

/-- The driver closes a handle of a device on which a session runs, before
and after. -/
def ClosesUnderSession (before after : MemoryDriver) : Prop :=
  ∃ handle entry number running calls,
    before.adapters.get? handle = some entry ∧
    after.adapters.get? handle = none ∧
    after.calls = before.calls ++ calls ∧
    .close (before.deviceName entry.device) ∈ calls ∧
    before.sessions.get? number = some running ∧
    after.sessions.get? number = some running ∧
    running.device = entry.device

/-- Some session was started on an adapter of a device. -/
def isShared (host : Host MemoryDriver) (device : Nat) : Bool :=
  host.sessions.values.any fun session =>
    host.device? session.adapter = some device

/-- The call lets go of an adapter on which no session was started while a
session runs on its device, started on another adapter. -/
def closesBeside (host : Host MemoryDriver) (call : AdapterCall) : Bool :=
  match call.letsGo? with
  | none => false
  | some id =>
      match host.device? id with
      | none => false
      | some device =>
          !host.isUsed id && host.isShared device

/-- What the driver notes about a call: a close beside a session, if the device
is registered. -/
def violationsOf
    (host : Host MemoryDriver)
    (call : AdapterCall) : List Violation :=
  match call.letsGo?.bind host.device? with
  | none => []
  | some device =>
      if host.closesBeside call && (host.driver.devices.get? device).isSome then
        [closedEarly (host.driver.deviceName device)]
      else []

/-- What the driver notes about calls in a row. -/
def violationsOfAll
    (manager : ManagerId) : Host MemoryDriver → List AdapterCall → List Violation
  | _, [] => []
  | host, call :: rest =>
      host.violationsOf call ++
        violationsOfAll manager (host.carryOut manager call) rest

variable {manager : ManagerId} {host next : Host MemoryDriver}

/-! ## What closing comes to -/

/-- A session runs on a device exactly if one was started on an adapter of
it. -/
theorem Linked.running_iff (linked : Linked manager host) (device : Nat) :
    (∃ number running, host.driver.sessions.get? number = some running ∧
      running.device = device) ↔
    ∃ id session, host.sessions.get? id = some session ∧
      host.device? session.adapter = some device := by
  constructor
  · rintro ⟨number, running, runs, rfl⟩
    obtain ⟨id, session, found, rfl⟩ := linked.complete number running runs
    obtain ⟨other, runs', on⟩ := linked.started id session found
    rw [runs] at runs'
    obtain rfl := Option.some.inj runs'
    exact ⟨id, session, found, on⟩
  · rintro ⟨id, session, found, on⟩
    obtain ⟨running, runs, on'⟩ := linked.started id session found
    exact ⟨session.handle.number, running, runs,
      Option.some.inj (on'.symm.trans on)⟩

/-- A handle that is given back is closed under a session exactly if one was
started on an adapter of its device. -/
theorem Linked.closesUnderSession_without
    (linked : Linked manager host)
    {id : AdapterId}
    {adapter : Adapter}
    {entry : OpenHandle}
    (opened : host.driver.adapters.get? adapter.handle.number = some entry) :
    ClosesUnderSession host.driver (host.without id adapter entry).driver ↔
      ∃ number session, host.sessions.get? number = some session ∧
        host.device? session.adapter = some entry.device := by
  rw [← linked.running_iff]
  constructor
  · rintro ⟨handle, other, number, running, _, before, after, _, _, runs, _, on⟩
    have same : handle = adapter.handle.number := by
      by_contra differs
      have after' := (Table.get?_erase _ _ _).symm.trans after
      rw [if_neg differs, before] at after'
      simp at after'
    rw [same, opened] at before
    obtain rfl := Option.some.inj before
    exact ⟨number, running, runs, on⟩
  · rintro ⟨number, running, runs, on⟩
    exact ⟨adapter.handle.number, entry, number, running, _, opened,
      (Table.get?_erase _ _ _).trans (if_pos rfl), rfl,
      List.mem_singleton_self _, runs, runs, on⟩

/-- A device is shared exactly if its sessions say so. -/
theorem Linked.isShared_iff (linked : Linked manager host) (device : Nat) :
    host.isShared device = true ↔
      ∃ id session, host.sessions.get? id = some session ∧
        host.device? session.adapter = some device := by
  unfold isShared
  rw [List.any_eq_true]
  constructor
  · rintro ⟨session, member, on⟩
    obtain ⟨id, found⟩ := linked.proper.mem_values_iff.mp member
    exact ⟨id, session, found, of_decide_eq_true on⟩
  · rintro ⟨id, session, found, on⟩
    exact ⟨session, linked.proper.mem_values_iff.mpr ⟨id, found⟩,
      decide_eq_true on⟩

theorem isShared_unheld (host : Host MemoryDriver) (id : AdapterId) :
    (host.unheld id).isShared = host.isShared := by
  funext device
  unfold isShared
  simp only [device?_unheld]
  rfl

/-- The violations of giving a handle back. -/
theorem Linked.violations_without
    (linked : Linked manager host)
    (id : AdapterId)
    (adapter : Adapter)
    (entry : OpenHandle) :
    (host.without id adapter entry).driver.violations =
      host.driver.violations ++
        if host.isShared entry.device &&
            (host.driver.devices.get? entry.device).isSome
        then [closedEarly (host.driver.deviceName entry.device)] else [] := by
  have busy : host.driver.isBusy entry.device =
      (host.isShared entry.device &&
        (host.driver.devices.get? entry.device).isSome) := by
    rw [Bool.eq_iff_iff, linked.consistent.isBusy_iff, linked.running_iff,
      ← linked.isShared_iff, Bool.and_eq_true, and_comm]
  rw [← busy]
  rfl

/-- Letting go of an adapter ends no session. -/
theorem LetGo.sessions_eq
    {id : AdapterId}
    (letGo : LetGo host id next) :
    next.driver.sessions = host.driver.sessions := by
  cases letGo <;> rfl

/-- Only the adapter that is let go of is closed. -/
theorem LetGo.device_eq
    {id : AdapterId}
    (letGo : LetGo host id next)
    {handle : Nat}
    {entry : OpenHandle}
    (opened : host.driver.adapters.get? handle = some entry)
    (closed : next.driver.adapters.get? handle = none) :
    host.device? id = some entry.device := by
  cases letGo with
  | kept => simp [opened] at closed
  | @without adapter other found opened' =>
      have closed' := (Table.get?_erase _ _ _).symm.trans closed
      split at closed'
      case isTrue same =>
        obtain rfl := same
        obtain rfl := Option.some.inj (opened.symm.trans opened')
        simp [device?, found, opened']
      case isFalse => simp [opened] at closed'

/-- Letting go of an adapter is no violation if no session runs on its
device. -/
theorem LetGo.violations_eq
    {id : AdapterId}
    (letGo : LetGo host id next)
    (linked : Linked manager host)
    (idle : ∀ device number running, host.device? id = some device →
      host.driver.sessions.get? number = some running →
        running.device ≠ device) :
    next.driver.violations = host.driver.violations := by
  cases letGo with
  | kept => rfl
  | @without adapter entry found opened =>
      have device : host.device? id = some entry.device := by
        simp [device?, found, opened]
      have quiet : host.driver.isBusy entry.device = false := by
        by_contra busy
        rw [Bool.not_eq_false, linked.consistent.isBusy_iff] at busy
        obtain ⟨_, number, running, runs, on⟩ := busy
        exact idle entry.device number running device runs on
      change host.driver.violations ++ host.driver.closingViolations entry = _
      rw [MemoryDriver.closingViolations, quiet]
      exact List.append_nil _

/-- Letting go of the only adapter leaves none. -/
theorem LetGo.not_hasAdapter
    {id : AdapterId}
    (letGo : LetGo host id next)
    (only : ∀ other adapter, host.adapters.get? other = some adapter →
      other = id ∧ adapter.held = false)
    (unused : host.isUsed id = false) : ¬ next.HasAdapter := by
  rintro ⟨other, adapter, found⟩
  cases letGo with
  | kept held =>
      obtain ⟨rfl, unheld⟩ := only other adapter found
      rcases held adapter found with still | used
      · simp [unheld] at still
      · simp [unused] at used
  | without =>
      obtain ⟨differs, found⟩ := Table.of_get?_erase found
      exact differs (only other adapter found).1

/-! ## Calls -/

/-- What one call keeps and what it comes to. -/
structure Accounted
    (manager : ManagerId)
    (host next : Host MemoryDriver)
    (call : AdapterCall) : Prop where
  /-- What holds between calls holds again. -/
  sound : Sound manager next
  /-- A device is closed under its session exactly in the known way. -/
  closes_iff : ClosesUnderSession host.driver next.driver ↔
    host.closesBeside call = true
  /-- The driver notes exactly what is known. -/
  violations_eq : next.driver.violations =
    host.driver.violations ++ host.violationsOf call

/-- No handle that was open is closed. -/
theorem not_closesUnderSession
    {before after : MemoryDriver}
    (kept : ∀ handle entry, before.adapters.get? handle = some entry →
      after.adapters.get? handle ≠ none) :
    ¬ ClosesUnderSession before after := by
  rintro ⟨handle, entry, _, _, _, opened, closed, _⟩
  exact kept handle entry opened closed

/-- A call that lets go of no adapter is accounted for if it closes nothing and
is no violation. -/
theorem Sound.accounted
    (sound : Sound manager next)
    {call : AdapterCall}
    (keeps : call.letsGo? = none)
    (closes : ¬ ClosesUnderSession host.driver next.driver)
    (violations : next.driver.violations = host.driver.violations) :
    Accounted manager host next call := by
  refine ⟨sound, ⟨fun closed => absurd closed closes, fun beside => ?_⟩, ?_⟩
  · simp [closesBeside, keeps] at beside
  · simp [violationsOf, keeps, violations]

namespace Sound

/-- Without adapters there is no session. -/
theorem no_session
    (sound : Sound manager host)
    (empty : ¬ host.HasAdapter) :
    (∀ id session, host.sessions.get? id ≠ some session) ∧
      ∀ number running, host.driver.sessions.get? number ≠ some running := by
  have none : ∀ id session, host.sessions.get? id ≠ some session := by
    intro id session found
    obtain ⟨adapter, present⟩ := sound.adapter_of_session found
    exact empty ⟨session.adapter, adapter, present⟩
  refine ⟨none, fun number running runs => ?_⟩
  obtain ⟨id, session, found, _⟩ := sound.complete number running runs
  exact none id session found

/-- Starting a session closes nothing. -/
theorem starting
    (sound : Sound manager host)
    (id : AdapterId)
    (config : SessionConfig) :
    Accounted manager host (host.carryOut manager (.start id config))
      (.start id config) := by
  have managed : ∀ id adapter, host.adapters.get? id = some adapter →
      ∃ entry, host.managers.get? adapter.manager = some entry := by
    intro id adapter found
    rw [(sound.opened id adapter found).1]
    exact sound.managed
  have outcome : Started host id (host.carryOut manager (.start id config)) :=
    started managed id config
  generalize host.carryOut manager (.start id config) = next at outcome
  refine (sound.of_frame (sound.toLinked.starting outcome)
    (.starting outcome)).accounted rfl (not_closesUnderSession ?_) ?_
  · intro handle entry opened
    cases outcome <;> exact fun closed => by
      have := opened.symm.trans closed
      simp at this
  · cases outcome <;> rfl

/-- Ending a session closes nothing under another one. -/
theorem finishing
    (sound : Sound manager host)
    (id : SessionId) :
    Accounted manager host (host.carryOut manager (.finish id))
      (.finish id) := by
  cases found : host.sessions.get? id with
  | none =>
      have state : host.carryOut manager (.finish id) = host := by
        simp [carryOut, endSession, Finish.longest, Finish.steps, Finish.step,
          found]
      rw [state]
      refine sound.accounted rfl (not_closesUnderSession ?_) rfl
      intro handle entry opened closed
      simp [opened] at closed
  | some session =>
      obtain ⟨adapter, present⟩ := sound.adapter_of_session found
      obtain ⟨running, runs, on⟩ := sound.started id session found
      obtain ⟨inbound, outbound⟩ := sound.consistent.quiet _ running runs
      have linked := sound.toLinked.ending found present runs
      have state : host.carryOut manager (.finish id) =
          (giveBackUnheld session.adapter
            (host.ended id session adapter running)).state :=
        state_endSession found present runs inbound outbound
      have outcome := letGo (fun id adapter present =>
        (linked.opened id adapter present).2) session.adapter
      rw [← state] at outcome
      -- The device has no other session, so nothing else runs on it.
      have alone : ∀ number other,
          (host.ended id session adapter running).driver.sessions.get? number =
            some other → other.device ≠ running.device := by
        intro number other runs' same
        obtain ⟨differs, runs'⟩ := Table.of_get?_erase runs'
        obtain ⟨rival, entry, present', handle⟩ :=
          sound.complete number other runs'
        obtain ⟨again, runs'', on'⟩ := sound.started rival entry present'
        rw [handle] at runs''
        obtain rfl := Option.some.inj (runs'.symm.trans runs'')
        obtain rfl := sound.session_eq present' found
          (on'.trans (same ▸ on.symm))
        obtain rfl := Option.some.inj (present'.symm.trans found)
        exact differs handle.symm
      have device : (host.ended id session adapter running).device?
          session.adapter = some running.device :=
        (device?_flagged host session.adapter false session.adapter).trans on
      have idle : ∀ device number other,
          (host.ended id session adapter running).device? session.adapter =
            some device →
          (host.ended id session adapter running).driver.sessions.get? number =
            some other → other.device ≠ device := by
        intro target number other on' runs'
        rw [device] at on'
        rw [← Option.some.inj on']
        exact alone number other runs'
      refine (sound.of_frame (linked.lettingGo outcome)
        ((Frame.ended host id session adapter running).trans
          (.lettingGo outcome))).accounted rfl ?_
            (outcome.violations_eq linked idle)
      rintro ⟨handle, entry, number, other, _, opened, closed, _, _, _, runs',
        same⟩
      rw [outcome.sessions_eq] at runs'
      exact idle entry.device number other (outcome.device_eq opened closed)
        runs' same

/-- Letting go of an adapter closes it under a session exactly if one was
started beside it. -/
theorem dropping
    (sound : Sound manager host)
    {id : AdapterId}
    {call : AdapterCall}
    (lets : call.letsGo? = some id) :
    Accounted manager host (dropAdapter id host).state call := by
  have linked := sound.toLinked.unholding id
  have outcome : LetGo (host.unheld id) id (dropAdapter id host).state :=
    letGo (fun id adapter present => (linked.opened id adapter present).2) id
  generalize (dropAdapter id host).state = next at outcome
  have sound' : Sound manager next :=
    sound.of_frame (linked.lettingGo outcome)
      ((Frame.changeAdapter host id _).trans (.lettingGo outcome))
  cases outcome with
  | kept held =>
      have beside : host.closesBeside call = false := by
        unfold closesBeside
        simp only [lets]
        cases on : host.device? id with
        | none => rfl
        | some device =>
            obtain ⟨adapter, _, present, _⟩ := exists_of_device? on
            have seen : (host.unheld id).adapters.get? id =
                some { adapter with held := false } :=
              (Table.get?_update _ _ _ _).trans
                ((if_pos rfl).trans (congrArg (Option.map _) present))
            have used := (held _ seen).resolve_left (by simp)
            change host.isUsed id = true at used
            simp [used]
      refine ⟨sound', ?_, ?_⟩
      · rw [beside]
        refine iff_of_false (not_closesUnderSession ?_) (by simp)
        intro handle entry opened closed
        have := opened.symm.trans closed
        simp at this
      · unfold violationsOf
        split
        · exact (List.append_nil _).symm
        · simp only [beside, Bool.false_and, Bool.false_eq_true, if_false]
          exact (List.append_nil _).symm
  | @without adapter entry found opened unheld unused =>
      have device : host.device? id = some entry.device := by
        rw [← device?_unheld host id id]
        simp [device?, found, opened]
      have beside : host.closesBeside call = host.isShared entry.device := by
        change host.isUsed id = false at unused
        simp [closesBeside, lets, device, unused]
      refine ⟨sound', ?_, ?_⟩
      · rw [beside, ← isShared_unheld host id, linked.isShared_iff]
        exact linked.closesUnderSession_without opened
      · rw [linked.violations_without, isShared_unheld, violationsOf, lets,
          Option.bind_some, device, beside]
        rfl

/-- Dropping the first adapter again closes nothing that was open. -/
theorem dropping_first
    (sound : Sound manager host)
    {driver : MemoryDriver}
    {handle : AdapterHandle}
    {name : String}
    {call : AdapterCall}
    (keeps : call.letsGo? = none)
    (empty : ¬ host.HasAdapter)
    (linked : Linked manager ({ host with driver }.adopted manager handle name))
    (sessions : driver.sessions = host.driver.sessions)
    (violations : driver.violations = host.driver.violations) :
    Accounted manager host
      (dropAdapter (host.lastNumber + 1)
        ({ host with driver }.adopted manager handle name)).state call := by
  obtain ⟨none, idle⟩ := sound.no_session empty
  have unheld := linked.unholding (host.lastNumber + 1)
  have outcome : LetGo
      (({ host with driver }.adopted manager handle name).unheld
        (host.lastNumber + 1)) (host.lastNumber + 1)
      (dropAdapter (host.lastNumber + 1)
        ({ host with driver }.adopted manager handle name)).state :=
    letGo (fun id adapter present => (unheld.opened id adapter present).2) _
  generalize (dropAdapter (host.lastNumber + 1)
    ({ host with driver }.adopted manager handle name)).state = next at outcome
  have idle' : ∀ number running,
      next.driver.sessions.get? number ≠ some running := by
    intro number running runs
    rw [outcome.sessions_eq] at runs
    change driver.sessions.get? number = _ at runs
    rw [sessions] at runs
    exact idle number running runs
  refine Sound.accounted ⟨unheld.lettingGo outcome, ?_⟩ keeps ?_ ?_
  · refine fun present => absurd present (outcome.not_hasAdapter ?_ ?_)
    · intro other adapter seen
      obtain ⟨earlier, present, rfl⟩ := Table.exists_of_get?_update seen
      have present := (get?_added host driver _ other).symm.trans present
      split at present
      case isTrue new =>
        rw [if_pos new]
        exact ⟨new, rfl⟩
      case isFalse => exact absurd ⟨other, earlier, present⟩ empty
    · by_contra used
      obtain ⟨number, session, present, _⟩ :=
        (unheld.isUsed_iff _).mp (Bool.not_eq_false _ ▸ used)
      exact none number session present
  · rintro ⟨_, _, number, running, _, _, _, _, _, _, runs, _⟩
    exact idle' number running runs
  · refine (outcome.violations_eq unheld ?_).trans violations
    intro device number running _ runs
    rw [← outcome.sessions_eq] at runs
    exact absurd runs (idle' number running)

/-- Keeping an adapter that the driver has opened, or dropping it again because
the driver is too old, closes nothing that was open. -/
theorem receiving
    (sound : Sound manager host)
    {driver : MemoryDriver}
    {handle : AdapterHandle}
    {claims : Manager}
    {name message : String}
    {call : AdapterCall}
    (keeps : call.letsGo? = none)
    (managed : host.managers.get? manager = some claims)
    (linked : Linked manager ({ host with driver }.adopted manager handle name))
    (adapters : ∀ number entry, host.driver.adapters.get? number = some entry →
      driver.adapters.get? number = some entry)
    (sessions : driver.sessions = host.driver.sessions)
    (version : driver.version = host.driver.version)
    (violations : driver.violations = host.driver.violations) :
    Accounted manager host
      (receiveAdapter manager claims message name (.ok handle)
        { host with driver }).state call := by
  have accepting : accepts claims driver ↔ host.Accepting manager := by
    unfold accepts Accepting required?
    rw [version, managed]
    rfl
  rcases @receiveAdapter_cases { host with driver } linked.installed manager
    claims message name handle with ⟨new, state⟩ | ⟨old, state⟩
  · rw [state]
    refine Sound.accounted ⟨linked, fun _ => ?_⟩ keeps
      (not_closesUnderSession ?_) violations
    · exact (accepting_adopted version).mpr (accepting.mp new)
    · intro number entry opened closed
      have := (adapters number entry opened).symm.trans closed
      simp at this
  · -- Nothing was kept over this driver before, so no session runs.
    have empty : ¬ host.HasAdapter := fun present =>
      old (accepting.mpr (sound.accepted present))
    rw [state]
    exact sound.dropping_first keeps empty linked sessions violations

/-- Creating an adapter closes nothing that was open. -/
theorem creating
    (sound : Sound manager host)
    (config : AdapterConfig) :
    Accounted manager host (host.carryOut manager (.create config))
      (.create config) := by
  obtain ⟨claims, managed⟩ := sound.managed
  have unchanged : Accounted manager host host (.create config) :=
    sound.accounted rfl (not_closesUnderSession fun handle entry opened closed =>
      by simp [opened] at closed) rfl
  unfold carryOut
  simp only [Host.createAdapter, Action.state_bind, value_manager?,
    state_manager?, managed]
  cases config.validate with
  | error error => exact unchanged
  | ok =>
      simp only [Action.state_bind, state_ask, value_ask]
      rcases MemoryDriver.createAdapter_cases host.driver config.name
        config.tunnelType config.guid with ⟨failure, value, state⟩ | ⟨value, state⟩
      · change (Driver.createAdapter config.name config.tunnelType config.guid
          host.driver).value = _ at value
        change (Driver.createAdapter config.name config.tunnelType config.guid
          host.driver).state = _ at state
        rw [value, state]
        exact unchanged
      · change (Driver.createAdapter config.name config.tunnelType config.guid
          host.driver).value = _ at value
        change (Driver.createAdapter config.name config.tunnelType config.guid
          host.driver).state = _ at state
        rw [value, state]
        refine sound.receiving rfl managed
          (sound.toLinked.registering config.name config.guid) ?_ rfl rfl rfl
        intro number entry opened
        have known := sound.consistent.handle_le number entry opened
        refine (Table.get?_insert _ _ _ _).trans ?_
        rw [if_neg (by omega), opened]

/-- Opening an adapter once more closes nothing that was open. -/
theorem opening
    (sound : Sound manager host)
    (name : String) :
    Accounted manager host (host.carryOut manager (.openNamed name))
      (.openNamed name) := by
  obtain ⟨claims, managed⟩ := sound.managed
  have unchanged : Accounted manager host host (.openNamed name) :=
    sound.accounted rfl (not_closesUnderSession fun handle entry opened closed =>
      by simp [opened] at closed) rfl
  unfold carryOut
  simp only [Host.openAdapter, Action.state_bind, value_manager?,
    state_manager?, managed]
  cases validatePoolString "adapter name" name with
  | error error => exact unchanged
  | ok =>
      simp only [Action.state_bind, state_ask, value_ask]
      rcases MemoryDriver.openAdapter_cases host.driver name with
        ⟨failure, value, state⟩ | ⟨device, found, value, state⟩
      · change (Driver.openAdapter name host.driver).value = _ at value
        change (Driver.openAdapter name host.driver).state = _ at state
        rw [value, state]
        exact unchanged
      · change (Driver.openAdapter name host.driver).value = _ at value
        change (Driver.openAdapter name host.driver).state = _ at state
        rw [value, state]
        refine sound.receiving rfl managed (sound.toLinked.reopening found) ?_
          rfl rfl rfl
        intro number entry opened
        have known := sound.consistent.handle_le number entry opened
        refine (Table.get?_insert _ _ _ _).trans ?_
        rw [if_neg (by omega), opened]

/-- Every call keeps what holds between calls and is accounted for. -/
theorem carryOut
    (sound : Sound manager host)
    (call : AdapterCall) :
    Accounted manager host (host.carryOut manager call) call := by
  cases call with
  | create config => exact sound.creating config
  | openNamed name => exact sound.opening name
  | start id config => exact sound.starting id config
  | finish id => exact sound.finishing id
  | drop id => exact sound.dropping rfl
  | close id =>
      unfold Host.carryOut
      simp only [state_closeAdapter]
      split
      case isTrue => exact sound.dropping rfl
      case isFalse absent =>
        have gone : host.device? id = none := by
          unfold device?
          rw [Option.not_isSome_iff_eq_none.mp absent]
          rfl
        refine ⟨sound, iff_of_false (not_closesUnderSession ?_) ?_, ?_⟩
        · intro handle entry opened closed
          simp [opened] at closed
        · simp [closesBeside, AdapterCall.letsGo?, gone]
        · simp [violationsOf, AdapterCall.letsGo?, gone]

/-- After any calls in a row what holds between calls holds, and the driver has
noted what is known of each of them. -/
theorem carryOutAll
    (sound : Sound manager host)
    (calls : List AdapterCall) :
    Sound manager (calls.foldl (Host.carryOut manager) host) ∧
      (calls.foldl (Host.carryOut manager) host).driver.violations =
        host.driver.violations ++ violationsOfAll manager host calls := by
  induction calls generalizing host with
  | nil => exact ⟨sound, (List.append_nil _).symm⟩
  | cons call rest hypothesis =>
      have first := sound.carryOut call
      obtain ⟨last, violations⟩ := hypothesis first.sound
      refine ⟨last, violations.trans ?_⟩
      rw [first.violations_eq, List.append_assoc]
      rfl

end Sound

/-- After any calls of a manager over a new driver, the next call closes a
device under its session exactly if it lets go of an adapter on which no
session was started while one runs on its device.  The driver notes such a call
as a violation exactly if the device is registered, and nothing else. -/
theorem closes_under_session_iff_beside
    (config : ManagerConfig)
    (version : DriverVersion)
    (slotBudget : Option Nat)
    (calls : List AdapterCall) :
    let start := newManager config (untouched version slotBudget)
    let host := calls.foldl (carryOut 1) start.state
    start.value = .ok 1 ∧
    (∀ call, ClosesUnderSession host.driver (host.carryOut 1 call).driver ↔
      host.closesBeside call = true) ∧
    (∀ call, (host.carryOut 1 call).driver.violations =
      host.driver.violations ++ host.violationsOf call) ∧
    host.driver.violations = violationsOfAll 1 start.state calls := by
  intro start host
  have linked := linked_newManager config version slotBudget
  have sound : Sound 1 start.state :=
    ⟨linked, fun ⟨id, adapter, found⟩ => by
      change (∅ : Table AdapterId Adapter).get? id = _ at found
      simp at found⟩
  obtain ⟨last, violations⟩ := sound.carryOutAll calls
  exact ⟨rfl, fun call => (last.carryOut call).closes_iff,
    fun call => (last.carryOut call).violations_eq, violations⟩

/-- A second adapter of a device is dropped under the session that was started
on the first one. -/
example :
    let start := newManager {} (untouched Memory.defaultVersion none)
    let calls : List AdapterCall :=
      [.create { name := "x" }, .openNamed "x", .start 2 {}, .drop 3]
    (calls.foldl (carryOut 1) start.state).driver.violations =
      [closedEarly "x"] := by decide

end Host
end VirtualAdapter

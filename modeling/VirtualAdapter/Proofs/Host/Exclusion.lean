import VirtualAdapter.Proofs.Host.Crowd

/-!
# One session for a name

However the threads of one manager interleave their starts and ends, a name is
held by one of them at most, the manager's list of names is that of the names
that are held, and the driver is never asked for a session on a device on which
one runs.
-/

namespace VirtualAdapter
namespace Host

open Memory (MemoryDriver OpenHandle RunningSession)

namespace Crowd

/-- What holds between the steps of threads. -/
structure Sound (crowd : Crowd) : Prop where
  /-- Adapters agree with what the driver keeps. -/
  moored : Moored crowd.manager crowd.host
  /-- Names are held by one party each. -/
  kept : crowd.berths.Kept
  /-- No session has two entries. -/
  proper : crowd.host.sessions.IsProper
  /-- Sessions have been given numbers. -/
  session_le : ∀ id session, crowd.host.sessions.get? id = some session →
    id ≤ crowd.host.lastNumber
  /-- Callers hold the adapters on which they start sessions. -/
  held : ∀ thread start phase,
    crowd.starts.get? thread = some (start, phase) →
      ∃ adapter, crowd.host.adapters.get? start.adapter = some adapter ∧
        adapter.held = true
  /-- Ends that are on their way are not over, and their sessions are there. -/
  ending : ∀ id phase, crowd.ends.get? id = some phase →
    phase.going? = some phase ∧
      ∃ session, crowd.host.sessions.get? id = some session
  /-- The manager counts the sessions that were not taken out of the count. -/
  tally : crowd.host.activeAt crowd.manager = crowd.counted

variable {crowd : Crowd}

/-! ## Stakes after a step -/

/-- An adapter stands for its name. -/
theorem berths_key?
    {id : AdapterId}
    {adapter : Adapter}
    (present : crowd.host.adapters.get? id = some adapter) :
    crowd.berths.key? id = some (deviceKey adapter.name) := by
  change crowd.host.key? id = _
  rw [key?, present]
  rfl

/-- A start has a stake. -/
theorem stake?_start
    {thread : ThreadId}
    {start : Start}
    {phase : StartPhase}
    (found : crowd.starts.get? thread = some (start, phase)) :
    crowd.berths.stake? (.start thread) = some (stakeOf start phase) := by
  change (crowd.starts.get? thread).map _ = _
  rw [found]
  rfl

/-- A session has a stake. -/
theorem stake?_session
    {id : SessionId}
    {session : Session}
    (found : crowd.host.sessions.get? id = some session) :
    crowd.berths.stake? (.session id) =
      some (stakeIn session (crowd.finishing id)) := by
  change (crowd.host.sessions.get? id).map _ = _
  rw [found]
  rfl

/-- A start that is put in another state, on a host with the same sessions and
the same adapters. -/
theorem berths_withStart
    {thread : ThreadId}
    {start : Start}
    {phase : StartPhase}
    {host : Host MemoryDriver}
    (sessions : host.sessions = crowd.host.sessions)
    (keys : host.key? = crowd.host.key?)
    (devices : host.device? = crowd.host.device?) :
    (crowd.withStart thread start phase host).berths =
      { crowd.berths.put (.start thread) (phase.going?.map (stakeOf start)) with
        claimed := host.claimedAt crowd.manager
        runs? := host.runs? } := by
  refine Berths.ext ?_ keys devices rfl rfl
  funext party
  refine Eq.trans ?_ (Berths.stake?_put crowd.berths (.start thread) party _).symm
  cases party with
  | start other =>
      change (Option.map _ ((crowd.starts.assign thread _).get? other)) = _
      rw [Table.get?_assign]
      by_cases same : other = thread
      · subst same
        simp [Function.comp_def]
      · simp only [same, if_false, Party.start.injEq]
        rfl
  | session id =>
      change (host.sessions.get? id).map _ = _
      rw [sessions]
      rfl

theorem step_withStart
    {thread : ThreadId}
    {start : Start}
    {phase : StartPhase}
    {host : Host MemoryDriver}
    (sessions : host.sessions = crowd.host.sessions)
    (keys : host.key? = crowd.host.key?)
    (devices : host.device? = crowd.host.device?)
    (step : Berths.Step crowd.berths
      { crowd.berths.put (.start thread) (phase.going?.map (stakeOf start)) with
        claimed := host.claimedAt crowd.manager
        runs? := host.runs? }) :
    Berths.Step crowd.berths (crowd.withStart thread start phase host).berths :=
  (berths_withStart sessions keys devices).symm ▸ step

/-- An end that is put in another state, on a host with the same sessions and
the same adapters. -/
theorem berths_withEnd
    {id : SessionId}
    {session : Session}
    {phase : FinishPhase}
    {host : Host MemoryDriver}
    (found : crowd.host.sessions.get? id = some session)
    (going : phase.going? = some phase)
    (sessions : host.sessions = crowd.host.sessions)
    (keys : host.key? = crowd.host.key?)
    (devices : host.device? = crowd.host.device?) :
    (crowd.withEnd id phase host).berths =
      { crowd.berths.put (.session id) (some (stakeIn session phase)) with
        claimed := host.claimedAt crowd.manager
        runs? := host.runs? } := by
  refine Berths.ext ?_ keys devices rfl rfl
  funext party
  refine Eq.trans ?_ (Berths.stake?_put crowd.berths (.session id) party _).symm
  cases party with
  | start thread => rfl
  | session other =>
      change (host.sessions.get? other).map _ = _
      rw [sessions]
      by_cases same : other = id
      · subst same
        rw [found, if_pos rfl, Option.map_some]
        unfold finishing withEnd
        rw [Table.get?_assign, if_pos rfl, going]
        rfl
      · rw [if_neg (by simpa using same)]
        change _ = (crowd.host.sessions.get? other).map _
        unfold finishing withEnd
        simp [same]

theorem step_withEnd
    {id : SessionId}
    {session : Session}
    {phase : FinishPhase}
    {host : Host MemoryDriver}
    (found : crowd.host.sessions.get? id = some session)
    (going : phase.going? = some phase)
    (sessions : host.sessions = crowd.host.sessions)
    (keys : host.key? = crowd.host.key?)
    (devices : host.device? = crowd.host.device?)
    (step : Berths.Step crowd.berths
      { crowd.berths.put (.session id) (some (stakeIn session phase)) with
        claimed := host.claimedAt crowd.manager
        runs? := host.runs? }) :
    Berths.Step crowd.berths (crowd.withEnd id phase host).berths :=
  (berths_withEnd found going sessions keys devices).symm ▸ step

/-- A session that is forgotten with its end has no stake any more. -/
theorem berths_forgotten
    {id : SessionId} :
    ({ crowd with
        host := { crowd.host with sessions := crowd.host.sessions.erase id }
        ends := crowd.ends.erase id } : Crowd).berths =
      crowd.berths.put (.session id) none := by
  refine Berths.ext ?_ rfl rfl rfl rfl
  funext party
  refine Eq.trans ?_ (Berths.stake?_put crowd.berths (.session id) party _).symm
  cases party with
  | start thread => rfl
  | session other =>
      change ((crowd.host.sessions.erase id).get? other).map _ = _
      rw [Table.get?_erase]
      by_cases same : other = id
      · simp [same]
      · simp only [same, if_false, Party.session.injEq]
        change _ = (crowd.host.sessions.get? other).map _
        unfold finishing
        simp [same]

/-! ## Counting sessions -/

/-- The sessions that are counted, one of them apart. -/
theorem counted_eq
    (proper : crowd.host.sessions.IsProper)
    {id : SessionId}
    {session : Session}
    (found : crowd.host.sessions.get? id = some session) :
    crowd.counted =
      ((crowd.host.sessions.erase id).keys.countP fun other =>
        (crowd.finishing other).isCounted) +
          if (crowd.finishing id).isCounted then 1 else 0 :=
  proper.countP_keys found _

/-- The end of one session does not matter for the others. -/
theorem countP_erase_congr
    (sessions : Table SessionId Session)
    {id : SessionId}
    {before after : SessionId → FinishPhase}
    (same : ∀ other, other ≠ id → after other = before other) :
    ((sessions.erase id).keys.countP fun other => (after other).isCounted) =
      (sessions.erase id).keys.countP fun other => (before other).isCounted :=
  List.countP_congr fun other member => by
    rw [same other (Table.ne_of_mem_keys_erase member)]

theorem finishing_withEnd
    (crowd : Crowd)
    (id other : SessionId)
    (phase : FinishPhase)
    (host : Host MemoryDriver) :
    (crowd.withEnd id phase host).finishing other =
      if other = id then phase.going?.getD .signalling
      else crowd.finishing other := by
  unfold finishing withEnd
  rw [Table.get?_assign]
  split <;> rfl

/-- An end that goes on leaves the others counted as they were. -/
theorem counted_withEnd
    (proper : crowd.host.sessions.IsProper)
    {id : SessionId}
    {session : Session}
    (found : crowd.host.sessions.get? id = some session)
    {phase : FinishPhase}
    (going : phase.going? = some phase)
    {host : Host MemoryDriver}
    (sessions : host.sessions = crowd.host.sessions) :
    (crowd.withEnd id phase host).counted +
        (if (crowd.finishing id).isCounted then 1 else 0) =
      crowd.counted + if phase.isCounted then 1 else 0 := by
  have proper' : (crowd.withEnd id phase host).host.sessions.IsProper := by
    change host.sessions.IsProper
    exact sessions ▸ proper
  have found' : (crowd.withEnd id phase host).host.sessions.get? id =
      some session := by
    change host.sessions.get? id = _
    exact sessions ▸ found
  rw [counted_eq proper found, counted_eq proper' found', finishing_withEnd,
    if_pos rfl, going]
  change ((host.sessions.erase id).keys.countP _) + _ + _ = _
  rw [sessions, countP_erase_congr _ fun other differs =>
    (finishing_withEnd crowd id other phase host).trans (if_neg differs)]
  simp only [Option.getD_some]
  omega

/-- A session that is not counted any more can be forgotten. -/
theorem counted_forgotten
    (proper : crowd.host.sessions.IsProper)
    {id : SessionId}
    {session : Session}
    (found : crowd.host.sessions.get? id = some session)
    (uncounted : (crowd.finishing id).isCounted = false) :
    ({ crowd with
        host := { crowd.host with sessions := crowd.host.sessions.erase id }
        ends := crowd.ends.erase id } : Crowd).counted = crowd.counted := by
  rw [counted_eq proper found, uncounted, if_neg Bool.false_ne_true,
    Nat.add_zero]
  refine countP_erase_congr _ fun other differs => ?_
  unfold finishing
  rw [Table.get?_erase, if_neg differs]

/-! ## Steps of a start -/

namespace Sound

variable {thread : ThreadId} {start : Start} {phase after : StartPhase}
  {adapter : Adapter} {next : Host MemoryDriver}

/-- The adapter of a start is there. -/
theorem adapter_of_start
    (sound : Sound crowd)
    (found : crowd.starts.get? thread = some (start, phase)) :
    ∃ adapter, crowd.host.adapters.get? start.adapter = some adapter := by
  obtain ⟨adapter, present, _⟩ := sound.held thread start phase found
  exact ⟨adapter, present⟩

/-- The driver has the session that a party runs. -/
theorem exists_of_runs
    (sound : Sound crowd)
    {party : Party}
    {stake : Stake}
    {handle : SessionHandle}
    (staked : crowd.berths.stake? party = some stake)
    (runs : stake.runs = some handle) :
    ∃ running, crowd.host.driver.sessions.get? handle.number = some running := by
  obtain ⟨_, device, _, running⟩ :=
    sound.kept.afloat party stake handle staked runs
  obtain ⟨running, found, _⟩ := Option.map_eq_some_iff.mp running
  exact ⟨running, found⟩

/-- The next session is not there yet. -/
theorem sessions_next (sound : Sound crowd) :
    crowd.host.sessions.get? (crowd.host.lastNumber + 1) = none := by
  rw [Option.eq_none_iff_forall_not_mem]
  exact fun session known =>
    Nat.not_succ_le_self _ (sound.session_le _ session known)

/-- No end of the next session is on its way. -/
theorem ends_next (sound : Sound crowd) :
    crowd.ends.get? (crowd.host.lastNumber + 1) = none := by
  rw [Option.eq_none_iff_forall_not_mem]
  intro phase ending
  obtain ⟨_, session, present⟩ := sound.ending _ phase ending
  cases sound.sessions_next.symm.trans present

/-- A session that is counted takes over what its start has claimed. -/
theorem berths_admitted
    (sound : Sound crowd)
    (thread : ThreadId)
    (start : Start)
    (manager : ManagerId)
    (handle : SessionHandle)
    (readEvent shutdownEvent : EventHandle)
    (outcome : Outcome SessionId) :
    (crowd.withStart thread start (.finished outcome)
      (crowd.host.admitted start manager handle readEvent
        shutdownEvent)).berths =
      { (crowd.berths.put (.start thread) none).put
          (.session (crowd.host.lastNumber + 1))
          (some ⟨start.adapter, true, some handle⟩) with
        claimed := (crowd.host.recounted manager (· + 1)).claimedAt
          crowd.manager } := by
  refine Berths.ext ?_ rfl rfl rfl rfl
  funext party
  refine Eq.trans ?_ (Berths.stake?_put _ _ party _).symm
  rw [Berths.stake?_put]
  cases party with
  | start other =>
      change (Option.map _ ((crowd.starts.erase thread).get? other)) = _
      rw [Table.get?_erase]
      by_cases same : other = thread
      · simp [same]
      · simp only [same, if_false, Party.start.injEq, reduceCtorEq]
        rfl
  | session id =>
      change ((crowd.host.sessions.insert _ _).get? id).map _ = _
      rw [Table.get?_insert]
      by_cases same : id = crowd.host.lastNumber + 1
      · subst same
        have idle : (crowd.withStart thread start (.finished outcome)
            (crowd.host.admitted start manager handle readEvent
              shutdownEvent)).finishing (crowd.host.lastNumber + 1) =
            .signalling := by
          change (crowd.ends.get? _).getD _ = _
          rw [sound.ends_next]
          rfl
        simp only [if_true, Option.map_some, idle]
        rfl
      · simp only [same, if_false, Party.session.injEq, reduceCtorEq]
        rfl

/-- What a step of a start comes to for names and sessions. -/
theorem berths_startStep
    (sound : Sound crowd)
    (found : crowd.starts.get? thread = some (start, phase))
    (present : crowd.host.adapters.get? start.adapter = some adapter)
    (step : StartStep crowd.host start adapter phase after next) :
    Berths.Step crowd.berths (crowd.withStart thread start after next).berths := by
  have stake := stake?_start found
  have key := berths_key? present
  obtain ⟨same, _⟩ := sound.moored.opened _ adapter present
  have keys := fun value => funext (key?_flagged crowd.host start.adapter value)
  have devices := fun value =>
    funext (device?_flagged crowd.host start.adapter value)
  obtain ⟨claims, managed⟩ := sound.moored.managed
  have claimed := claimedAt_of_managed managed
  cases step with
  | refused => exact step_withStart rfl rfl rfl (.leaves stake)
  | flagged => exact step_withStart rfl (keys true) (devices true) (.still stake)
  | taken => exact step_withStart rfl rfl rfl (.still stake)
  | @named entry managed' free =>
      rw [same] at managed' ⊢
      obtain rfl := Option.some.inj (managed.symm.trans managed')
      refine step_withStart rfl rfl rfl ?_
      rw [show claimedAt (crowd.host.named _ _) _ = _ from
        claimedAt_update managed _, ← claimed]
      refine .claims stake key ?_
      change deviceKey adapter.name ∉ crowd.host.claimedAt crowd.manager
      rw [claimed]
      exact free
  | returned =>
      exact step_withStart rfl (keys false) (devices false) (.leaves stake)
  | unstarted => exact step_withStart rfl rfl rfl (.still stake)
  | @launched entry opened idle =>
      refine step_withStart rfl rfl rfl ?_
      rw [runs?_started]
      refine .launches stake ?_ sound.moored.runs?_next
      change crowd.host.device? start.adapter = _
      simp [device?, present, opened]
  | eventless => exact step_withStart rfl rfl rfl (.still stake)
  | obtained => exact step_withStart rfl rfl rfl (.still stake)
  | made => exact step_withStart rfl rfl rfl (.still stake)
  | admitted handle readEvent shutdownEvent =>
      rw [sound.berths_admitted, same,
        show claimedAt (crowd.host.recounted _ _) _ = _ from
          claimedAt_update managed _, ← claimed]
      refine .passes stake ?_
      change (crowd.host.sessions.get? _).map _ = none
      rw [sound.sessions_next]
      rfl
  | ended handle failure runs =>
      refine step_withStart rfl rfl rfl ?_
      rw [runs?_dismissed]
      exact .ends stake
  | unnamed =>
      rw [same]
      refine step_withStart rfl rfl rfl ?_
      rw [show claimedAt (crowd.host.unnamed _ _) _ = _ from
        claimedAt_update managed _, ← claimed]
      exact .releases stake key
  | unflagged =>
      exact step_withStart rfl (keys false) (devices false) (.leaves stake)
  | concluded => exact step_withStart rfl rfl rfl (.leaves stake)

/-- A step of a start keeps what holds between steps. -/
theorem startStepping
    (sound : Sound crowd)
    (found : crowd.starts.get? thread = some (start, phase))
    (present : crowd.host.adapters.get? start.adapter = some adapter)
    (step : StartStep crowd.host start adapter phase after next) :
    Sound (crowd.withStart thread start after next) := by
  have held : ∀ id, (∃ adapter, crowd.host.adapters.get? id = some adapter ∧
      adapter.held = true) → ∃ adapter,
        next.adapters.get? id = some adapter ∧ adapter.held = true := by
    rintro id ⟨before, known, held⟩
    obtain ⟨later, known', same⟩ := step.adapter_held known
    exact ⟨later, known', same.trans held⟩
  obtain ⟨managed, _⟩ := sound.moored.opened _ adapter present
  have sessions := step.sessions_cases (managed ▸ sound.moored.managed)
  rw [managed] at sessions
  constructor
  case moored => exact sound.moored.startStepping step
  case kept => exact sound.kept.step (sound.berths_startStep found present step)
  case proper =>
    change next.sessions.IsProper
    rcases sessions with ⟨same, _⟩ | ⟨session, same, _⟩
    · exact same ▸ sound.proper
    · exact same ▸ sound.proper.insert _ _
  case session_le =>
    intro id session seen
    change next.sessions.get? id = _ at seen
    change id ≤ next.lastNumber
    rcases sessions with ⟨same, last, _⟩ | ⟨added, same, last, _⟩
    · rw [last]
      exact sound.session_le id session (same ▸ seen)
    · rw [same, Table.get?_insert] at seen
      rw [last]
      split at seen
      case isTrue new => exact new.le
      case isFalse => exact Nat.le_succ_of_le (sound.session_le id session seen)
  case held =>
    intro other start' phase' seen
    have seen := (Table.get?_assign crowd.starts thread other _).symm.trans seen
    split at seen
    · obtain ⟨_, _, same⟩ := Option.map_eq_some_iff.mp seen
      obtain ⟨rfl, rfl⟩ := Prod.mk.inj same
      exact held _ (sound.held thread start phase found)
    · exact held _ (sound.held other start' phase' seen)
  case ending =>
    intro id phase' ending
    obtain ⟨going, session, seen⟩ := sound.ending id phase' ending
    refine ⟨going, ?_⟩
    change ∃ session, next.sessions.get? id = some session
    rcases sessions with ⟨same, _⟩ | ⟨added, same, _⟩
    · exact ⟨session, same ▸ seen⟩
    · refine ⟨session, ?_⟩
      rw [same, Table.get?_insert, if_neg, seen]
      exact Nat.ne_of_lt (Nat.lt_succ_of_le (sound.session_le id session seen))
  case tally =>
    change next.activeAt crowd.manager = next.sessions.keys.countP _
    rcases sessions with ⟨same, _, active⟩ | ⟨added, same, _, active⟩
    · rw [active, same]
      exact sound.tally
    · have signalling : crowd.finishing (crowd.host.lastNumber + 1) =
          .signalling := by
        rw [finishing, sound.ends_next]
        rfl
      rw [active, same, Table.keys_insert_of_absent sound.sessions_next,
        List.countP_append, List.countP_singleton, sound.tally]
      change _ = crowd.counted + if (crowd.finishing _).isCounted then 1 else 0
      rw [signalling]
      rfl

/-! ## Letting go of adapters -/

section Unheld

variable
  (sound : Sound crowd)
  {id : AdapterId}
  (found : crowd.host.adapters.get? id = some adapter)
  (unheld : adapter.held = false)

include sound found unheld

/-- No thread starts a session on an adapter that its caller has let go of. -/
theorem starts_elsewhere
    (thread : ThreadId)
    (start : Start)
    (phase : StartPhase)
    (underway : crowd.starts.get? thread = some (start, phase)) :
    start.adapter ≠ id := by
  rintro rfl
  obtain ⟨other, known, held⟩ := sound.held thread start phase underway
  obtain rfl := Option.some.inj (found.symm.trans known)
  rw [unheld] at held
  cases held

/-- Nobody has a stake in an adapter without a holder and without sessions. -/
theorem stakes_elsewhere
    (unused : crowd.host.isUsed id = false)
    (party : Party)
    (stake : Stake)
    (seen : crowd.berths.stake? party = some stake) : stake.adapter ≠ id := by
  cases party with
  | start thread =>
      obtain ⟨⟨start, phase⟩, underway, rfl⟩ := Option.map_eq_some_iff.mp seen
      exact sound.starts_elsewhere found unheld thread start phase underway
  | session number =>
      obtain ⟨session, present, rfl⟩ := Option.map_eq_some_iff.mp seen
      rintro rfl
      have used : crowd.host.isUsed session.adapter = true :=
        List.any_eq_true.mpr ⟨session,
          sound.proper.mem_values_iff.mpr ⟨number, present⟩, decide_eq_true rfl⟩
      exact Bool.false_ne_true (unused.symm.trans used)

end Unheld

/-- An adapter that nobody holds any more is given back. -/
theorem lettingGo
    (sound : Sound crowd)
    {id : AdapterId}
    (letGo : LetGo crowd.host id next) : Sound { crowd with host := next } := by
  have moored := sound.moored.lettingGo letGo
  cases letGo with
  | kept => exact sound
  | @without adapter entry found opened unheld unused =>
      have started := sound.starts_elsewhere found unheld
      have staked := sound.stakes_elsewhere found unheld unused
      have claimed : claimedAt (crowd.host.without id adapter entry)
          crowd.manager = crowd.host.claimedAt crowd.manager := by
        obtain ⟨claims, managed⟩ := sound.moored.managed
        rw [(sound.moored.opened id adapter found).1.symm] at managed ⊢
        exact (claimedAt_update managed _).trans
          (claimedAt_of_managed managed).symm
      constructor
      case moored => exact moored
      case kept =>
        have shifted := sound.kept.shifted
          (fun party stake seen =>
            ⟨key?_removed adapter entry (staked party stake seen),
              sound.moored.device?_removed entry found
                (staked party stake seen)⟩)
          (sound.moored.removing entry found).alike
        have same : ({ crowd with
            host := crowd.host.without id adapter entry } : Crowd).berths =
            { crowd.berths with
              key? := (crowd.host.removed id adapter entry).key?
              device? := (crowd.host.removed id adapter entry).device? } :=
          Berths.ext rfl rfl rfl claimed rfl
        exact same ▸ shifted
      case proper => exact sound.proper
      case session_le => exact sound.session_le
      case held =>
        intro thread start phase underway
        obtain ⟨other, known, held⟩ := sound.held thread start phase underway
        exact ⟨other, (Table.get?_erase _ _ _).trans
          ((if_neg (started thread start phase underway)).trans known), held⟩
      case ending => exact sound.ending
      case tally =>
        have kept : activeAt (crowd.host.without id adapter entry)
            crowd.manager = crowd.host.activeAt crowd.manager :=
          activeAt_update rfl fun _ => rfl
        exact kept.trans sound.tally

/-- Noting that the caller has let go of an adapter on which no thread starts a
session. -/
theorem unholding
    (sound : Sound crowd)
    {id : AdapterId}
    (idle : ∀ thread start phase,
      crowd.starts.get? thread = some (start, phase) → start.adapter ≠ id) :
    Sound { crowd with host := crowd.host.unheld id } := by
  constructor
  case moored => exact sound.moored.unholding id
  case kept =>
    have same : ({ crowd with
        host := crowd.host.unheld id } : Crowd).berths = crowd.berths :=
      Berths.ext rfl (funext (key?_unheld _ _)) (funext (device?_unheld _ _))
        rfl rfl
    exact same ▸ sound.kept
  case proper => exact sound.proper
  case session_le => exact sound.session_le
  case held =>
    intro thread start phase underway
    obtain ⟨adapter, known, held⟩ := sound.held thread start phase underway
    exact ⟨adapter, (Table.get?_update _ _ _ _).trans
      ((if_neg (idle thread start phase underway)).trans known), held⟩
  case ending => exact sound.ending
  case tally => exact sound.tally

/-- Dropping an adapter on which no thread starts a session. -/
theorem dropping
    (sound : Sound crowd)
    {id : AdapterId}
    (idle : ∀ thread start phase,
      crowd.starts.get? thread = some (start, phase) → start.adapter ≠ id) :
    Sound { crowd with host := (dropAdapter id crowd.host).state } :=
  have unheld := sound.unholding idle
  have outcome : LetGo (crowd.host.unheld id) id
      (dropAdapter id crowd.host).state :=
    letGo (fun other adapter present =>
      (unheld.moored.opened other adapter present).2) id
  unheld.lettingGo outcome

/-! ## Steps of an end -/

/-- Forgetting a session that has nothing to do with names any more. -/
theorem forgetting
    (sound : Sound crowd)
    {id : SessionId}
    {session : Session}
    (found : crowd.host.sessions.get? id = some session)
    (ending : crowd.ends.get? id = some .lettingGo) :
    Sound
      { crowd with
        host := { crowd.host with sessions := crowd.host.sessions.erase id }
        ends := crowd.ends.erase id } := by
  have stake : crowd.berths.stake? (.session id) =
      some ⟨session.adapter, false, none⟩ := by
    rw [stake?_session found, finishing, ending]
    rfl
  constructor
  case moored => exact sound.moored.of_same rfl rfl rfl (Nat.le_refl _)
  case kept =>
    rw [berths_forgotten]
    exact sound.kept.step (.leaves stake)
  case proper => exact sound.proper.erase id
  case session_le =>
    intro other entry seen
    exact sound.session_le other entry (Table.of_get?_erase seen).2
  case held => exact sound.held
  case ending =>
    intro other phase underway
    obtain ⟨differs, underway⟩ := Table.of_get?_erase underway
    obtain ⟨going, entry, seen⟩ := sound.ending other phase underway
    exact ⟨going, entry, (Table.get?_erase _ _ _).trans
      ((if_neg differs).trans seen)⟩
  case tally =>
    rw [counted_forgotten sound.proper found (by rw [finishing, ending]; rfl)]
    exact sound.tally

/-- A step of an end that goes on afterwards keeps what holds between steps. -/
theorem ending_of_going
    (sound : Sound crowd)
    {id : SessionId}
    {session : Session}
    {host : Host MemoryDriver}
    (before after : FinishPhase)
    (begun : crowd.finishing id = before)
    (found : crowd.host.sessions.get? id = some session)
    (going : after.going? = some after)
    (moored : Moored crowd.manager host)
    (kept : (crowd.withEnd id after host).berths.Kept)
    (sessions : host.sessions = crowd.host.sessions)
    (last : host.lastNumber = crowd.host.lastNumber)
    (held : ∀ {other : AdapterId} {adapter : Adapter},
      crowd.host.adapters.get? other = some adapter → ∃ later,
        host.adapters.get? other = some later ∧ later.held = adapter.held)
    (tally : host.activeAt crowd.manager +
        (if before.isCounted then 1 else 0) =
      crowd.host.activeAt crowd.manager + if after.isCounted then 1 else 0) :
    Sound (crowd.withEnd id after host) := by
  constructor
  case moored => exact moored
  case kept => exact kept
  case proper =>
    change host.sessions.IsProper
    exact sessions ▸ sound.proper
  case session_le =>
    intro other entry seen
    change host.sessions.get? other = _ at seen
    change other ≤ host.lastNumber
    rw [last]
    exact sound.session_le other entry (sessions ▸ seen)
  case held =>
    intro thread start phase underway
    obtain ⟨before, known, held'⟩ := sound.held thread start phase underway
    obtain ⟨later, known', same⟩ := held known
    exact ⟨later, known', same.trans held'⟩
  case ending =>
    intro other phase' underway
    change _ ∧ ∃ entry, host.sessions.get? other = some entry
    rw [sessions]
    have underway :=
      (Table.get?_assign crowd.ends id other _).symm.trans underway
    split at underway
    case isTrue same =>
      obtain rfl := Option.some.inj (going.symm.trans underway)
      exact ⟨going, session, same ▸ found⟩
    case isFalse => exact sound.ending other phase' underway
  case tally =>
    have counted := counted_withEnd sound.proper found going sessions
    rw [begun] at counted
    change host.activeAt crowd.manager = _
    have tallied := sound.tally
    omega

/-- A step of an end keeps what holds between steps. -/
theorem finishStepping
    (sound : Sound crowd)
    {id : SessionId}
    {session : Session}
    {phase after : FinishPhase}
    (underway : crowd.ends.get? id = some phase)
    (found : crowd.host.sessions.get? id = some session)
    (present : crowd.host.adapters.get? session.adapter = some adapter)
    (step : FinishStep crowd.host id session adapter phase after next) :
    Sound (crowd.withEnd id after next) := by
  have begun : crowd.finishing id = phase := by
    rw [finishing, underway]
    rfl
  have stake : crowd.berths.stake? (.session id) =
      some (stakeIn session phase) := by
    rw [stake?_session found, begun]
  have key := berths_key? present
  obtain ⟨same, _⟩ := sound.moored.opened _ adapter present
  obtain ⟨claims, managed⟩ := sound.moored.managed
  have claimed := claimedAt_of_managed managed
  have moored := sound.moored.finishStepping step
  cases step with
  | signalled =>
      exact sound.ending_of_going .signalling .ending begun found rfl moored
        (sound.kept.step (step_withEnd found rfl rfl rfl rfl (.still stake)))
        rfl rfl (fun known => ⟨_, known, rfl⟩) rfl
  | ended runs =>
      refine sound.ending_of_going .ending .releasingName begun found rfl moored
        (sound.kept.step (step_withEnd found rfl rfl rfl rfl ?_))
        rfl rfl (fun known => ⟨_, known, rfl⟩) rfl
      rw [runs?_dismissed]
      exact .ends stake
  | unnamed =>
      refine sound.ending_of_going .releasingName .releasingFlag begun found rfl
        moored (sound.kept.step (step_withEnd found rfl rfl rfl rfl ?_))
        rfl rfl (fun known => ⟨_, known, rfl⟩)
        (congrArg (· + 1) (activeAt_update rfl fun _ => rfl))
      rw [same, show claimedAt (crowd.host.unnamed _ _) _ = _ from
        claimedAt_update managed _, ← claimed]
      exact .releases stake key
  | unflagged =>
      exact sound.ending_of_going .releasingFlag .uncounting begun found rfl
        moored (sound.kept.step (step_withEnd found rfl rfl
          (funext (key?_flagged _ _ _)) (funext (device?_flagged _ _ _))
          (.still stake)))
        rfl rfl exists_of_flagged rfl
  | uncounted =>
      have counts := sound.tally.trans (counted_eq sound.proper found)
      rw [begun, activeAt_of_managed managed] at counts
      have uncounts : activeAt (crowd.host.recounted crowd.manager (· - 1))
          crowd.manager = claims.activeSessions - 1 :=
        activeAt_of_update managed _
      rw [same] at moored ⊢
      refine sound.ending_of_going .uncounting .lettingGo begun found rfl moored
        (sound.kept.step (step_withEnd found rfl rfl rfl rfl ?_))
        rfl rfl (fun known => ⟨_, known, rfl⟩) ?_
      · rw [show claimedAt (crowd.host.recounted _ _) _ = _ from
          claimedAt_update managed _, ← claimed]
        exact .still stake
      · rw [uncounts, activeAt_of_managed managed]
        simp only [FinishPhase.isCounted, if_true, Bool.false_eq_true, if_false]
          at counts ⊢
        omega
  | forgotten letGo => exact (sound.forgetting found underway).lettingGo letGo
  | concluded =>
      exact absurd (sound.ending id _ underway).1 (by simp [FinishPhase.going?])

/-! ## Opening adapters -/

/-- The next adapter has no start yet. -/
theorem start_ne_new
    (sound : Sound crowd)
    (thread : ThreadId)
    (start : Start)
    (phase : StartPhase)
    (underway : crowd.starts.get? thread = some (start, phase)) :
    start.adapter ≠ crowd.host.lastNumber + 1 := by
  obtain ⟨adapter, known⟩ := sound.adapter_of_start underway
  exact sound.moored.ne_new known

/-- Keeping and counting an adapter that the driver has opened. -/
theorem adopting
    (sound : Sound crowd)
    {driver : MemoryDriver}
    {handle : AdapterHandle}
    {entry : OpenHandle}
    {name : String}
    (opens : Opens crowd.host driver handle entry name) :
    Sound { crowd with
      host := { crowd.host with driver }.adopted crowd.manager handle name } := by
  have moored := opens.mooring sound.moored
  have staked : ∀ party stake, crowd.berths.stake? party = some stake →
      stake.adapter ≠ crowd.host.lastNumber + 1 := by
    intro party stake seen
    obtain ⟨key, known⟩ := sound.kept.anchored party stake seen
    obtain ⟨adapter, present, _⟩ := Option.map_eq_some_iff.mp known
    exact sound.moored.ne_new present
  constructor
  case moored => exact moored.changeManager crowd.manager _
  case kept =>
    have shifted := sound.kept.shifted
      (fun party stake seen =>
        ⟨(key?_added crowd.host driver
            { manager := crowd.manager, handle, name } _).trans
              (if_neg (staked party stake seen)),
          (opens.device?_added sound.moored _).trans
            (if_neg (staked party stake seen))⟩)
      moored.alike
    obtain ⟨claims, managed⟩ := sound.moored.managed
    have same : ({ crowd with
        host := { crowd.host with driver }.adopted crowd.manager handle
          name } : Crowd).berths =
        { crowd.berths with
          key? := key? (crowd.host.added driver
            { manager := crowd.manager, handle, name })
          device? := device? (crowd.host.added driver
            { manager := crowd.manager, handle, name }) } := by
      refine Berths.ext rfl rfl rfl ?_ ?_
      · exact (claimedAt_update managed _).trans
          (claimedAt_of_managed managed).symm
      · funext number
        change (driver.sessions.get? number).map _ = _
        rw [opens.sessions]
        rfl
    exact same ▸ shifted
  case proper => exact sound.proper
  case session_le =>
    intro id session seen
    exact Nat.le_succ_of_le (sound.session_le id session seen)
  case held =>
    intro thread start phase underway
    obtain ⟨adapter, known, held⟩ := sound.held thread start phase underway
    exact ⟨adapter, (get?_added crowd.host driver _ _).trans
      ((if_neg (sound.start_ne_new thread start phase underway)).trans known),
      held⟩
  case ending => exact sound.ending
  case tally =>
    have kept : activeAt
        ({ crowd.host with driver }.adopted crowd.manager handle name)
        crowd.manager = crowd.host.activeAt crowd.manager :=
      activeAt_update rfl fun _ => rfl
    exact kept.trans sound.tally

/-- Keeping an adapter that the driver has opened, or dropping it again because
the driver is too old. -/
theorem receiving
    (sound : Sound crowd)
    {driver : MemoryDriver}
    {handle : AdapterHandle}
    {entry : OpenHandle}
    {name : String}
    (opens : Opens crowd.host driver handle entry name)
    (claims : Manager)
    (message : String) :
    Sound { crowd with
      host := (receiveAdapter crowd.manager claims message name (.ok handle)
        { crowd.host with driver }).state } := by
  have adopted := sound.adopting opens
  rcases @receiveAdapter_cases { crowd.host with driver } opens.installed
    crowd.manager claims message name handle with ⟨_, state⟩ | ⟨_, state⟩
  · rw [state]
    exact adopted
  · rw [state]
    exact adopted.dropping sound.start_ne_new

/-- Creating an adapter. -/
theorem creating
    (sound : Sound crowd)
    (config : AdapterConfig) : Sound (crowd.play (.create config)) := by
  obtain ⟨claims, managed⟩ := sound.moored.managed
  unfold play
  simp only [createAdapter, Action.state_bind, value_manager?, state_manager?,
    managed]
  cases config.validate with
  | error error => exact sound
  | ok =>
      simp only [Action.state_bind, state_ask, value_ask]
      rcases MemoryDriver.createAdapter_cases crowd.host.driver config.name
        config.tunnelType config.guid with
          ⟨failure, value, state⟩ | ⟨value, state⟩
      all_goals
        rw [show (Driver.createAdapter config.name config.tunnelType config.guid
            crowd.host.driver).value = _ from value,
          show (Driver.createAdapter config.name config.tunnelType config.guid
            crowd.host.driver).state = _ from state]
      · exact sound
      · exact sound.receiving
          (sound.moored.opens_registered config.name config.guid) claims _

/-- Opening an adapter once more. -/
theorem opening
    (sound : Sound crowd)
    (name : String) : Sound (crowd.play (.openNamed name)) := by
  obtain ⟨claims, managed⟩ := sound.moored.managed
  unfold play
  simp only [openAdapter, Action.state_bind, value_manager?, state_manager?,
    managed]
  cases validatePoolString "adapter name" name with
  | error error => exact sound
  | ok =>
      simp only [Action.state_bind, state_ask, value_ask]
      rcases MemoryDriver.openAdapter_cases crowd.host.driver name with
        ⟨failure, value, state⟩ | ⟨device, found, value, state⟩
      all_goals
        rw [show (Driver.openAdapter name crowd.host.driver).value = _ from value,
          show (Driver.openAdapter name crowd.host.driver).state = _ from state]
      · exact sound
      · exact sound.receiving (sound.moored.opens_reopened found) claims _

/-! ## Moves -/

/-- Nobody starts a session on an adapter that is free. -/
theorem idle_of_isFree
    {id : AdapterId}
    (free : crowd.isFree id = true)
    (thread : ThreadId)
    (start : Start)
    (phase : StartPhase)
    (underway : crowd.starts.get? thread = some (start, phase)) :
    start.adapter ≠ id := by
  have all := List.all_eq_true.mp (Bool.and_eq_true_iff.mp free).2
  exact of_decide_eq_true
    (all (start, phase) (Table.mem_values_of_get? underway))

/-- Beginning to start a session. -/
theorem beginningStart
    (sound : Sound crowd)
    {thread : ThreadId}
    {start : Start}
    (held : crowd.isHeld start.adapter = true)
    (absent : crowd.starts.get? thread = none) :
    Sound (crowd.withStart thread start .claimingFlag crowd.host) := by
  obtain ⟨adapter, present, held⟩ := (Option.any_eq_true _ _).mp held
  have key := berths_key? present
  have stake : crowd.berths.stake? (.start thread) = none := by
    change (crowd.starts.get? thread).map _ = none
    rw [absent]
    rfl
  constructor
  case moored => exact sound.moored
  case kept =>
    exact sound.kept.step (step_withStart rfl rfl rfl (.joins stake key))
  case proper => exact sound.proper
  case session_le => exact sound.session_le
  case held =>
    intro other start' phase seen
    have seen := (Table.get?_assign crowd.starts thread other _).symm.trans seen
    split at seen
    · obtain ⟨rfl, rfl⟩ := Prod.mk.inj (Option.some.inj seen)
      exact ⟨adapter, present, held⟩
    · exact sound.held other start' phase seen
  case ending => exact sound.ending
  case tally => exact sound.tally

/-- Beginning to end a session. -/
theorem beginningEnd
    (sound : Sound crowd)
    {id : SessionId}
    {session : Session}
    (found : crowd.host.sessions.get? id = some session)
    (absent : crowd.ends.get? id = none) :
    Sound (crowd.withEnd id .signalling crowd.host) := by
  have begun : crowd.finishing id = .signalling := by
    rw [finishing, absent]
    rfl
  have stake : crowd.berths.stake? (.session id) =
      some (stakeIn session .signalling) := by
    rw [stake?_session found, begun]
  exact sound.ending_of_going .signalling .signalling begun found rfl
    sound.moored
    (sound.kept.step (step_withEnd found rfl rfl rfl rfl (.still stake)))
    rfl rfl (fun known => ⟨_, known, rfl⟩) rfl

/-- Removals have nothing to do with names and sessions. -/
theorem removing
    (sound : Sound crowd)
    (thread : ThreadId)
    {phase : Deletion}
    {host : Host MemoryDriver}
    (outcome : host = crowd.host ∨
      host = { crowd.host with driver := crowd.host.driver.deleted }) :
    Sound (crowd.withRemoval thread phase host) := by
  rcases outcome with rfl | rfl
  · exact ⟨sound.moored, sound.kept, sound.proper, sound.session_le, sound.held,
      sound.ending, sound.tally⟩
  · exact ⟨sound.moored.deleting, sound.kept, sound.proper, sound.session_le,
      sound.held, sound.ending, sound.tally⟩

/-- Whatever a thread does next keeps what holds between steps. -/
theorem play (sound : Sound crowd) (move : Move) : Sound (crowd.play move) := by
  cases move with
  | create config => exact sound.creating config
  | openNamed name => exact sound.opening name
  | close id =>
      simp only [Crowd.play]
      split
      case isTrue free =>
        rw [state_closeAdapter]
        split
        · exact sound.dropping (idle_of_isFree free)
        · exact sound
      case isFalse => exact sound
  | drop id =>
      simp only [Crowd.play]
      split
      case isTrue free => exact sound.dropping (idle_of_isFree free)
      case isFalse => exact sound
  | beginStart thread id config =>
      simp only [Crowd.play]
      split
      case h_1 => exact sound
      case h_2 capacity _ =>
        split
        case isTrue allowed =>
          obtain ⟨held, absent⟩ := Bool.and_eq_true_iff.mp allowed
          exact sound.beginningStart held
            (Table.contains_eq_false_iff.mp (by simpa using absent))
        case isFalse => exact sound
  | stepStart thread =>
      simp only [Crowd.play]
      split
      case h_1 => exact sound
      case h_2 start phase found =>
        obtain ⟨adapter, present⟩ := sound.adapter_of_start found
        refine sound.startStepping found present
          (sound.moored.startStep phase present ?_)
        rintro handle failure rfl
        exact sound.exists_of_runs (stake?_start found) rfl
  | beginEnd id =>
      simp only [Crowd.play]
      split
      case isTrue allowed =>
        obtain ⟨present, absent⟩ := Bool.and_eq_true_iff.mp allowed
        obtain ⟨session, found⟩ := Option.isSome_iff_exists.mp present
        exact sound.beginningEnd found
          (Table.contains_eq_false_iff.mp (by simpa using absent))
      case isFalse => exact sound
  | stepEnd id =>
      simp only [Crowd.play]
      split
      case h_1 => exact sound
      case h_2 phase underway =>
        obtain ⟨_, session, found⟩ := sound.ending id phase underway
        have stake := stake?_session found
        rw [finishing, underway] at stake
        obtain ⟨key, known⟩ := sound.kept.anchored _ _ stake
        obtain ⟨adapter, present, _⟩ := Option.map_eq_some_iff.mp known
        refine sound.finishStepping underway found present
          (sound.moored.finishStep phase found present ?_)
        rintro rfl
        exact sound.exists_of_runs stake rfl
  | beginRemoval thread =>
      simp only [Crowd.play]
      split
      · exact sound
      · exact sound.removing thread (.inl rfl)
  | stepRemoval thread =>
      simp only [Crowd.play]
      split
      case h_1 => exact sound
      case h_2 phase _ =>
        exact sound.removing thread (sound.moored.deletionStep phase).host_cases

/-- Whatever threads do keeps what holds between steps. -/
theorem playAll
    (sound : Sound crowd)
    (moves : List Move) : Sound (crowd.playAll moves) := by
  induction moves generalizing crowd with
  | nil => exact sound
  | cons move rest hypothesis => exact hypothesis (sound.play move)

end Sound

/-- A new manager over a new driver is without sessions and claims. -/
theorem sound_opened
    (config : ManagerConfig)
    (version : DriverVersion)
    (slotBudget : Option Nat) : Sound (opened config version slotBudget) := by
  have linked := linked_newManager config version slotBudget
  have idle : ∀ party, (opened config version slotBudget).stake? party = none := by
    intro party
    cases party <;> rfl
  have claimed : (opened config version slotBudget).berths.claimed = [] := rfl
  constructor
  case moored => exact linked.moored
  case kept =>
    constructor
    case anchored =>
      intro party stake seen
      cases (idle party).symm.trans seen
    case afloat =>
      intro party stake handle seen
      cases (idle party).symm.trans seen
    case manned => exact fun _ _ running => nomatch running
    case alike => exact linked.alike
    case exclusive =>
      have nobody : ∀ party key,
          ¬ (opened config version slotBudget).berths.Holds party key := by
        rintro party key ⟨stake, seen, _⟩
        cases (idle party).symm.trans seen
      constructor
      case unique => exact fun party _ key held => absurd held (nobody party key)
      case claimed_iff =>
        intro key
        rw [claimed]
        simp [nobody]
  case proper => exact linked.proper
  case session_le => exact linked.session_le
  case held => exact fun _ _ _ underway => nomatch underway
  case ending => exact fun _ _ underway => nomatch underway
  case tally => rfl

/-! ## Every interleaving -/

/-- Whatever threads do with the adapters of one manager over its own driver, in
steps that follow each other in any order: a name is held by one start or
session at most, the manager's names are those that are held, and whenever the
driver is about to be asked for a session, none runs on the device. -/
theorem name_keeps_sessions_apart
    (config : ManagerConfig)
    (version : DriverVersion)
    (slotBudget : Option Nat)
    (moves : List Move) :
    let crowd := (opened config version slotBudget).playAll moves
    (∀ first second key, crowd.berths.Holds first key →
      crowd.berths.Holds second key → first = second) ∧
    (∀ key, key ∈ crowd.host.claimedAt crowd.manager ↔
      ∃ party, crowd.berths.Holds party key) ∧
    (∀ thread start, crowd.starts.get? thread = some (start, .starting) →
      ∃ device, crowd.host.device? start.adapter = some device ∧
        ∀ number running,
          crowd.host.driver.sessions.get? number = some running →
            running.device ≠ device) := by
  intro crowd
  have sound : Sound crowd :=
    (sound_opened config version slotBudget).playAll moves
  refine ⟨sound.kept.exclusive.unique, sound.kept.exclusive.claimed_iff, ?_⟩
  intro thread start underway
  obtain ⟨adapter, present⟩ := sound.adapter_of_start underway
  obtain ⟨entry, _, on⟩ := sound.moored.device_of_adapter present
  refine ⟨entry.device, on, fun number running runs same => ?_⟩
  -- Who runs that session holds the name, and so does the start.
  have stake := stake?_start underway
  have runs : crowd.host.runs? number = some entry.device := by
    rw [runs?, runs, Option.map_some, same]
  obtain ⟨party, other, found, running⟩ := sound.kept.manned number _ runs
  obtain ⟨claims, device, on', runs'⟩ :=
    sound.kept.afloat party other ⟨number⟩ found running
  obtain rfl := Option.some.inj (runs.symm.trans runs')
  obtain ⟨key, known⟩ := sound.kept.anchored _ _ stake
  have alike := sound.kept.alike _ _ _ on on'
  obtain rfl := sound.kept.exclusive.unique (.start thread) party key
    ⟨_, stake, rfl, known⟩ ⟨other, found, claims, alike ▸ known⟩
  obtain rfl := Option.some.inj (stake.symm.trans found)
  cases running

/-- Two threads start sessions on two handles of one device at the same time.
The first one has claimed the name, and no session runs on the device yet; the
second one was refused. -/
theorem name_keeps_sessions_apart_of_two_handles :
    let crowd := (opened {} Memory.defaultVersion none).playAll
      [.create { name := "Tun" }, .openNamed "tUN", .beginStart 1 2 {},
        .beginStart 2 3 {}, .stepStart 1, .stepStart 2, .stepStart 1,
        .stepStart 2]
    crowd.host.claimedAt crowd.manager = ["tun"] ∧
    crowd.starts.get? 1 = some (⟨2, {}, 256⟩, .starting) ∧
    crowd.starts.get? 2 = some (⟨3, {}, 256⟩, .returningFlag) ∧
    ∃ device, crowd.host.device? 2 = some device ∧
      ∀ number running,
        crowd.host.driver.sessions.get? number = some running →
          running.device ≠ device := by
  refine ⟨rfl, rfl, rfl, ?_⟩
  exact (name_keeps_sessions_apart {} Memory.defaultVersion none
    [.create { name := "Tun" }, .openNamed "tUN", .beginStart 1 2 {},
      .beginStart 2 3 {}, .stepStart 1, .stepStart 2, .stepStart 1,
      .stepStart 2]).2.2 1 ⟨2, {}, 256⟩ rfl

end Crowd
end Host
end VirtualAdapter

import VirtualAdapter.Proofs.Exchange.Adapters
import VirtualAdapter.Proofs.Exchange.Tasks

/-!
# Starts and ends of sessions keep the books

Each step of a start or an end keeps the books, whatever else is on its way.  A
start that fails ends the session that the driver has started for it, and an
end closes the adapter if nobody else holds it.
-/

namespace VirtualAdapter
namespace Host

open Ledger

variable {State : Type} [Driver State]
variable {hands : Hands}

/-! ## Starts -/

/-- The books are right with a start on its way; if it has come to a session,
that one keeps the adapter. -/
structure Underway
    (hands : Hands)
    (start : Start)
    (phase : StartPhase)
    (kept : Holdings) : Prop where
  /-- The books are right. -/
  books : Books ((Task.starting start phase).hands ++ hands) none kept
  /-- A session keeps the adapter. -/
  stands : ∀ id, phase = .finished (.ok id) →
    ∃ session, kept.sessions.get? id = some session ∧
      session.adapter = start.adapter

omit [Driver State] in
theorem claimFlag_leads (start : Start) (adapter : Adapter) :
    Leads
      (Books ((Task.starting start .claimingFlag).hands ++ hands) none)
      (Start.claimFlag start.adapter adapter :
        Action (Host (Recorded State)) StartPhase)
      (Underway hands start) := by
  unfold Start.claimFlag
  split
  · exact Leads.answer fun _ _ books => ⟨books.unlocking, nofun⟩
  · refine Leads.bind (changeAdapter_leads _ ?_) fun _ =>
      Leads.answer fun _ _ books => ⟨books, nofun⟩
    exact fun _ => rfl

omit [Driver State] in
theorem claimName_leads (start : Start) (adapter : Adapter) :
    Leads
      (Books ((Task.starting start .claimingName).hands ++ hands) none)
      (Start.claimName adapter : Action (Host (Recorded State)) StartPhase)
      (Underway hands start) := by
  unfold Start.claimName
  refine (Leads.of_same fun _ => rfl).bind fun _ => ?_
  dsimp only
  split
  · exact Leads.answer fun _ _ books => ⟨books, nofun⟩
  · exact (Leads.of_same fun _ => rfl).bind fun _ =>
      Leads.answer fun _ _ books => ⟨books, nofun⟩

omit [Driver State] in
theorem releaseFlag_leads {before : Holdings → Prop} (id : AdapterId) :
    Leads before
      (Start.releaseFlag id : Action (Host (Recorded State)) Unit)
      fun _ => before :=
  changeAdapter_leads id fun _ => rfl

/-- A session that the driver has started is pending. -/
theorem launched_leads (start : Start) (adapter : Adapter) :
    Leads
      (fun kept =>
        Books ((Task.starting start .starting).hands ++ hands) none kept ∧
        kept.adapters.get? start.adapter = some adapter.core)
      (start.advance adapter .starting :
        Action (Host (Recorded State)) StartPhase)
      (Underway hands start) := by
  refine (Leads.of_call (.started adapter.handle) fun _ => rfl).bind
    fun outcome => ?_
  cases outcome with
  | error failure =>
      apply Leads.answer
      rintro _ dependable ⟨earlier, ⟨books, found⟩, rfl⟩
      have refused : Books
          ((Task.starting start .starting).hands ++ hands) none
          (earlier.record (.started adapter.handle (.error failure))) := by
        refine books.note ⟨rfl, rfl, rfl, rfl, rfl, rfl⟩ ?_ nofun
        rintro _ ⟨⟩
        exact books.isOpen dependable.of_record found
      cases failure with
      | refused error => exact ⟨refused, nofun⟩
      | crashed message => exact ⟨refused.unlocking, nofun⟩
  | ok handle =>
      apply Leads.answer
      rintro _ dependable ⟨earlier, ⟨books, found⟩, rfl⟩
      refine ⟨?_, nofun⟩
      exact books.starting dependable.of_record found handle

omit [Driver State] in
/-- A call about an event of a pending session. -/
theorem Books.asking
    {start : Start}
    {handle : SessionHandle}
    {kept : Holdings}
    {exchange : Exchange}
    (books : Books ((Task.starting start (.obtainingEvent handle)).hands ++
      hands) none kept)
    (dependable : Dependable (kept.record exchange).log)
    (plain : exchange.IsPlain)
    (names_no_adapter : exchange.adapter? = none)
    (names : ∀ session, exchange.session? = some session →
      session = handle) :
    Books ((Task.starting start (.obtainingEvent handle)).hands ++ hands)
      none (kept.record exchange) := by
  refine books.note plain (by simp [names_no_adapter]) ?_
  intro session named
  obtain rfl := names session named
  exact books.isRunning dependable.of_record
    (Books.mem_pending List.mem_cons_self)

omit [Driver State] in
/-- A call about an event that broke off is nothing a dependable driver does. -/
theorem not_dependable_of_crashed
    {kept earlier : Holdings}
    {exchange : Exchange}
    (breaks : exchange.breaksOff = true)
    (same : kept = earlier.record exchange) : ¬ Dependable kept.log := by
  rintro dependable
  have member : exchange ∈ kept.log :=
    same ▸ List.mem_append_right _ List.mem_cons_self
  have unbroken := dependable.unbroken exchange member
  rw [breaks] at unbroken
  simp at unbroken

omit [Driver State] in
theorem holdings_admission
    (host : Host (Recorded State))
    (start : Start)
    (adapter : Adapter)
    (handle : SessionHandle)
    (readEvent shutdownEvent : EventHandle) :
    holdings (start.admission adapter handle readEvent shutdownEvent
      host).state = (holdings host).launch start.adapter handle := by
  have added := Table.map_insert Session.core host.sessions
    (host.lastNumber + 1)
    { adapter := start.adapter, handle, readEvent, shutdownEvent
      capacity := start.capacity, config := start.config }
  have same : (⟨start.adapter, handle⟩ : LiveSession) = Session.core
      { adapter := start.adapter, handle, readEvent, shutdownEvent
        capacity := start.capacity, config := start.config } := rfl
  simp only [holdings, Holdings.launch, Holdings.number, same, ← added]
  rfl

omit [Driver State] in
theorem admission_leads
    (orderly : hands.Orderly)
    (start : Start)
    (adapter : Adapter)
    (handle : SessionHandle)
    (readEvent shutdownEvent : EventHandle) :
    Leads
      (Books ((Task.starting start
        (.counting handle readEvent shutdownEvent)).hands ++ hands) none)
      (start.admission adapter handle readEvent shutdownEvent :
        Action (Host (Recorded State)) StartPhase)
      (Underway hands start) where
  grows := fun host => by
    rw [holdings_admission]
    exact List.prefix_rfl
  leads := by
    intro host _ books
    rw [holdings_admission]
    refine ⟨books.launching hands orderly, ?_⟩
    rintro _ ⟨⟩
    exact ⟨_, (Table.get?_insert _ _ _ _).trans (if_pos rfl), rfl⟩

/-- A step of a start on an adapter that is open. -/
theorem startAdvance_leads
    (orderly : hands.Orderly)
    (start : Start)
    (adapter : Adapter)
    (phase : StartPhase) :
    Leads
      (fun kept => Underway hands start phase kept ∧
        kept.adapters.get? start.adapter = some adapter.core)
      (start.advance adapter phase :
        Action (Host (Recorded State)) StartPhase)
      (Underway hands start) := by
  cases phase with
  | claimingFlag =>
      exact (claimFlag_leads start adapter).given fun _ _ given => given.1.books
  | claimingName =>
      exact (claimName_leads start adapter).given fun _ _ given => given.1.books
  | returningFlag =>
      refine (releaseFlag_leads _).bind fun _ => ?_
      refine (Leads.of_same fun _ => rfl).bind fun _ => ?_
      exact Leads.answer fun _ _ given => ⟨given.1.books.unlocking, by rintro _ ⟨⟩⟩
  | starting =>
      exact (launched_leads start adapter).given fun _ _ given =>
        ⟨given.1.books, given.2⟩
  | obtainingEvent handle =>
      refine (Leads.of_call (.askedEvent handle) fun _ => rfl).bind
        fun outcome => ?_
      split
      case h_1 failure =>
        apply Leads.answer
        rintro _ dependable ⟨earlier, ⟨⟨books, _⟩, _⟩, rfl⟩
        cases failure with
        | refused error =>
            refine ⟨Books.asking books dependable ?_ rfl ?_, by rintro _ ⟨⟩⟩
            · exact ⟨rfl, rfl, rfl, rfl, rfl, rfl⟩
            · rintro _ ⟨⟩
              rfl
        | crashed message =>
            exact absurd dependable (not_dependable_of_crashed rfl rfl)
      case h_2 readEvent =>
        apply Leads.answer
        rintro _ dependable ⟨earlier, ⟨⟨books, _⟩, _⟩, rfl⟩
        refine ⟨Books.asking books dependable ?_ rfl ?_, by rintro _ ⟨⟩⟩
        · exact ⟨rfl, rfl, rfl, rfl, rfl, rfl⟩
        · rintro _ ⟨⟩
          rfl
  | makingEvent handle readEvent =>
      refine (Leads.of_call .madeEvent fun _ => rfl).bind fun outcome => ?_
      split
      case h_1 failure =>
        apply Leads.answer
        rintro _ dependable ⟨earlier, ⟨⟨books, _⟩, _⟩, rfl⟩
        cases failure with
        | refused error =>
            exact ⟨Books.asking books dependable
              ⟨rfl, rfl, rfl, rfl, rfl, rfl⟩ rfl (by rintro _ ⟨⟩),
                by rintro _ ⟨⟩⟩
        | crashed message =>
            exact absurd dependable (not_dependable_of_crashed rfl rfl)
      case h_2 shutdownEvent =>
        apply Leads.answer
        rintro _ dependable ⟨earlier, ⟨⟨books, _⟩, _⟩, rfl⟩
        exact ⟨Books.asking books dependable
          ⟨rfl, rfl, rfl, rfl, rfl, rfl⟩ rfl (by rintro _ ⟨⟩),
                by rintro _ ⟨⟩⟩
  | counting handle readEvent shutdownEvent =>
      exact (admission_leads orderly start adapter handle readEvent
        shutdownEvent).given fun _ _ given => given.1.books
  | ending handle failure =>
      refine (Leads.of_call (fun _ => .ended handle) fun _ => rfl).bind
        fun _ => ?_
      apply Leads.answer
      rintro _ dependable ⟨earlier, ⟨⟨books, _⟩, _⟩, rfl⟩
      have locked : Hands.Orderly
          ((Task.starting start (.releasingName failure)).hands ++ hands) :=
        (Task.orderly _).append orderly
      exact ⟨books.aborting _ locked dependable.of_record, by rintro _ ⟨⟩⟩
  | releasingName failure =>
      refine (Leads.of_same fun _ => rfl).bind fun _ => ?_
      exact Leads.answer fun _ _ given => ⟨given.1.books, by rintro _ ⟨⟩⟩
  | releasingFlag failure =>
      refine (releaseFlag_leads _).bind fun _ => ?_
      exact Leads.answer fun _ _ given => ⟨given.1.books.unlocking, by rintro _ ⟨⟩⟩
  | finished outcome => exact Leads.answer fun _ _ given => given.1

/-- A step of a start keeps the books. -/
theorem startStep_leads
    (orderly : hands.Orderly)
    (start : Start)
    (phase : StartPhase) :
    Leads (Underway hands start phase)
      (start.step phase : Action (Host (Recorded State)) StartPhase)
      (Underway hands start) := by
  unfold Start.step
  refine (Leads.adapter? start.adapter).bind fun found => ?_
  cases found with
  | some adapter => exact startAdvance_leads orderly start adapter phase
  | none =>
      apply Leads.answer
      rintro kept _ ⟨⟨books, stands⟩, gone⟩
      have locked_gone (locked : start.adapter ∈
          ((Task.starting start phase).hands ++ hands).locked) : False := by
        obtain ⟨adapter, found, _⟩ := books.locked_held _ locked
        rw [gone] at found
        simp at found
      cases phase with
      | finished outcome =>
          cases outcome with
          | error failure => exact ⟨books, nofun⟩
          | ok id =>
              obtain ⟨session, found, same⟩ := stands id rfl
              obtain ⟨adapter, present, _⟩ := books.based id session found
              rw [same, gone] at present
              simp at present
      | _ => exact (locked_gone List.mem_cons_self).elim

/-! ## Ends -/

omit [Driver State] in
theorem forgetSession_leads
    {id : SessionId}
    {session : LiveSession} :
    Leads
      (fun kept =>
        Books ((Task.finishing id .lettingGo).hands ++ hands) none kept ∧
        kept.sessions.get? id = some session)
      (forgetSession id : Action (Host (Recorded State)) Unit)
      fun _ => Books hands (some session.adapter) := by
  apply Leads.of_change (·.dropSession id)
  case effect =>
    intro host
    simp [forgetSession, holdings, Holdings.dropSession, Table.map_erase]
  case grows => exact fun _ => List.prefix_rfl
  case leads =>
    rintro _ kept _ ⟨books, found⟩
    exact Books.forgetting hands books found

/-- A session that was ended is let go of, with an adapter that nobody else
holds. -/
theorem letGo_leads
    (orderly : hands.Orderly)
    (id : SessionId)
    (session : Session) :
    Leads
      (fun kept =>
        Books ((Task.finishing id .lettingGo).hands ++ hands) none kept ∧
        kept.sessions.get? id = some session.core)
      (Finish.letGo id session : Action (Host (Recorded State)) Unit)
      fun _ => Books hands none := by
  refine forgetSession_leads.bind fun _ => ?_
  refine (giveBackUnheld_leads orderly session.adapter).bind fun _ => ?_
  exact Leads.of_same fun _ => rfl

/-- A shutdown fails only by breaking off. -/
theorem shutdown_leads (id : SessionId) :
    Leads (Books hands none)
      (shutdown id : Action (Host (Recorded State)) (Outcome Unit))
      fun outcome kept => Books hands none kept ∧
        (outcome ≠ .ok () → ¬ Dependable kept.log) := by
  unfold shutdown
  refine (Leads.of_same fun _ => rfl).bind fun found => ?_
  cases found with
  | none => exact Leads.answer fun _ _ books => ⟨books, fun no => absurd rfl no⟩
  | some session =>
      refine (Leads.of_call (.setEvent session.shutdownEvent)
        fun _ => rfl).bind fun outcome => ?_
      have noted {earlier : Holdings} (books : Books hands none earlier) :
          Books hands none
            (earlier.record (.setEvent session.shutdownEvent outcome)) :=
        books.note ⟨rfl, rfl, rfl, rfl, rfl, rfl⟩ nofun nofun
      cases outcome with
      | ok =>
          apply Leads.answer
          rintro _ _ ⟨earlier, books, rfl⟩
          exact ⟨noted books, fun no => absurd rfl no⟩
      | error failure =>
          cases failure with
          | refused error =>
              refine (Leads.of_same fun _ => rfl).bind fun _ => ?_
              apply Leads.answer
              rintro _ _ ⟨earlier, books, rfl⟩
              exact ⟨noted books, fun no => absurd rfl no⟩
          | crashed message =>
              apply Leads.answer
              rintro _ _ ⟨earlier, books, rfl⟩
              exact ⟨noted books, fun _ => not_dependable_of_crashed rfl rfl⟩

theorem shutdown_keeps (id : SessionId) :
    Keeps hands (shutdown id :
      Action (Host (Recorded State)) (Outcome Unit)) :=
  (shutdown_leads id).gives fun _ _ _ given => given.1

/-- A step of an end on an adapter that is open. -/
theorem finishAdvance_leads
    (orderly : hands.Orderly)
    (id : SessionId)
    (session : Session)
    (adapter : Adapter)
    (phase : FinishPhase) :
    Leads
      (fun kept =>
        Books ((Task.finishing id phase).hands ++ hands) none kept ∧
        kept.sessions.get? id = some session.core)
      (Finish.advance id session adapter phase :
        Action (Host (Recorded State)) FinishPhase)
      fun next =>
        Books ((Task.finishing id next).hands ++ hands) none := by
  cases phase with
  | signalling =>
      refine Leads.bind
        ((shutdown_leads id).given fun _ _ given => given.1) fun outcome => ?_
      cases outcome with
      | ok => exact Leads.answer fun _ _ given => given.1
      | error failure =>
          refine Leads.bind (Leads.of_undependable
            (letGo_leads orderly id session)
            fun kept given => given.2 nofun)
            fun _ => Leads.answer fun _ _ (books : Books hands none _) => books
  | ending =>
      refine (Leads.of_call (fun _ => .ended session.handle)
        fun _ => rfl).bind fun _ => ?_
      apply Leads.answer
      rintro _ dependable ⟨earlier, ⟨books, found⟩, rfl⟩
      have whole : Hands.Orderly
          ((Task.finishing id .ending).hands ++ hands) :=
        (Task.orderly _).append orderly
      refine books.ending whole dependable.of_record found
        List.mem_cons_self fun past => ?_
      exact (List.nodup_cons.mp books.single).1 (orderly.past_ending id past)
  | releasingName =>
      refine (Leads.of_same fun _ => rfl).bind fun _ => ?_
      exact Leads.answer fun _ _ given => given.1
  | releasingFlag =>
      refine (releaseFlag_leads _).bind fun _ => ?_
      exact Leads.answer fun _ _ given => given.1
  | uncounting =>
      refine (Leads.of_same fun _ => rfl).bind fun _ => ?_
      refine (Leads.of_same fun _ => rfl).bind fun _ => ?_
      exact Leads.answer fun _ _ given => given.1
  | lettingGo =>
      exact (letGo_leads orderly id session).bind fun _ =>
        Leads.answer fun _ _ books => books
  | finished outcome => exact Leads.answer fun _ _ given => given.1

/-- A step of an end keeps the books. -/
theorem finishStep_leads
    (orderly : hands.Orderly)
    (id : SessionId)
    (phase : FinishPhase) :
    Leads (Books ((Task.finishing id phase).hands ++ hands) none)
      (Finish.step id phase : Action (Host (Recorded State)) FinishPhase)
      fun next =>
        Books ((Task.finishing id next).hands ++ hands) none := by
  unfold Finish.step
  refine (Leads.session? id).bind fun found => ?_
  cases found with
  | none =>
      apply Leads.answer
      rintro kept _ ⟨books, gone⟩
      have ending_gone (ending : id ∈
          ((Task.finishing id phase).hands ++ hands).ending) : False := by
        obtain ⟨session, found⟩ := books.ending_found _ ending
        rw [gone] at found
        simp at found
      cases phase with
      | finished outcome => exact books
      | _ => exact (ending_gone List.mem_cons_self).elim
  | some session =>
      refine (Leads.adapter? session.adapter).bind fun found => ?_
      cases found with
      | none =>
          apply Leads.answer
          rintro kept _ ⟨⟨books, found⟩, gone⟩
          obtain ⟨adapter, present, _⟩ := books.based id _ found
          have absent := gone.symm.trans present
          simp at absent
      | some adapter =>
          exact (finishAdvance_leads orderly id session adapter phase).given
            fun _ _ given => given.1

/-! ## Whole starts and ends -/

/-- The most steps that are left of a start. -/
def StartPhase.rank : StartPhase → Nat
  | claimingFlag => 8
  | claimingName => 7
  | starting => 6
  | obtainingEvent _ => 5
  | makingEvent _ _ => 4
  | ending _ _ => 3
  | releasingName _ => 2
  | counting _ _ _ | returningFlag | releasingFlag _ => 1
  | finished _ => 0

/-- The steps that are left of an end. -/
def FinishPhase.rank : FinishPhase → Nat
  | signalling => 6
  | ending => 5
  | releasingName => 4
  | releasingFlag => 3
  | uncounting => 2
  | lettingGo => 1
  | finished _ => 0

section Ranks

variable {Other : Type}

theorem rank_afterFailure
    (failure : Failure)
    (undoing : StartPhase) :
    (Start.afterFailure failure undoing).rank ≤ undoing.rank := by
  cases failure with
  | refused error => exact Nat.le_refl _
  | crashed message => exact Nat.zero_le _

theorem rank_claimFlag (id : AdapterId) (adapter : Adapter) :
    (Start.claimFlag id adapter : Action (Host Other) StartPhase).Answers
      (·.rank ≤ 7) := by
  unfold Start.claimFlag
  split
  · exact .pure (Nat.zero_le _)
  · exact .bind fun _ => .pure (Nat.le_refl _)

theorem rank_claimName (adapter : Adapter) :
    (Start.claimName adapter : Action (Host Other) StartPhase).Answers
      (·.rank ≤ 6) := by
  unfold Start.claimName
  refine .bind fun _ => ?_
  dsimp only
  split
  · exact .pure (by decide)
  · exact .bind fun _ => .pure (Nat.le_refl _)

variable [Driver Other]

/-- Every step of a start brings it closer to its end. -/
theorem rank_startStep (start : Start) (phase : StartPhase) :
    (start.step phase : Action (Host Other) StartPhase).Answers
      (·.rank ≤ phase.rank - 1) := by
  refine .bind fun found => ?_
  cases found with
  | none => exact .pure (Nat.zero_le _)
  | some adapter =>
      cases phase with
      | claimingFlag => exact rank_claimFlag start.adapter adapter
      | claimingName => exact rank_claimName adapter
      | returningFlag => exact .bind fun _ => .bind fun _ => .pure (Nat.le_refl _)
      | starting =>
          refine .bind fun outcome => ?_
          cases outcome with
          | error failure =>
              exact .pure (Nat.le_trans (rank_afterFailure _ _)
                (by decide : 2 ≤ 5))
          | ok handle => exact .pure (Nat.le_refl _)
      | obtainingEvent handle =>
          refine .bind fun outcome => ?_
          cases outcome with
          | error failure =>
              exact .pure (Nat.le_trans (rank_afterFailure _ _)
                (by decide : 3 ≤ 4))
          | ok readEvent => exact .pure (Nat.le_refl _)
      | makingEvent handle readEvent =>
          refine .bind fun outcome => ?_
          cases outcome with
          | error failure => exact .pure (rank_afterFailure _ _)
          | ok shutdownEvent => exact .pure (by decide : 1 ≤ 3)
      | _ => exact fun _ => Nat.le_refl _

/-- Every step of an end brings it closer to its end. -/
theorem rank_finishStep (id : SessionId) (phase : FinishPhase) :
    (Finish.step id phase : Action (Host Other) FinishPhase).Answers
      (·.rank ≤ phase.rank - 1) := by
  refine .bind fun found => ?_
  cases found with
  | none => exact .pure (Nat.zero_le _)
  | some session =>
      refine .bind fun found => ?_
      cases found with
      | none => exact .pure (Nat.zero_le _)
      | some adapter =>
          cases phase with
          | signalling =>
              refine .bind fun outcome => ?_
              cases outcome with
              | ok => exact .pure (Nat.le_refl _)
              | error failure => exact .bind fun _ => .pure (Nat.zero_le _)
          | _ => exact fun _ => Nat.le_refl _

theorem rank_startSteps (start : Start) (count : Nat) (phase : StartPhase) :
    (start.steps count phase : Action (Host Other) StartPhase).Answers
      (·.rank ≤ phase.rank - count) := by
  induction count generalizing phase with
  | zero => exact .pure (Nat.le_refl _)
  | succ count hypothesis =>
      intro host
      have first := rank_startStep start phase host
      have rest := hypothesis (start.step phase host).value
        (start.step phase host).state
      unfold Start.steps
      rw [Action.value_bind]
      omega

theorem rank_finishSteps
    (id : SessionId)
    (count : Nat)
    (phase : FinishPhase) :
    (Finish.steps id count phase : Action (Host Other) FinishPhase).Answers
      (·.rank ≤ phase.rank - count) := by
  induction count generalizing phase with
  | zero => exact .pure (Nat.le_refl _)
  | succ count hypothesis =>
      intro host
      have first := rank_finishStep id phase host
      have rest := hypothesis (Finish.step id phase host).value
        (Finish.step id phase host).state
      unfold Finish.steps
      rw [Action.value_bind]
      omega

end Ranks

theorem startSteps_leads
    (orderly : hands.Orderly)
    (start : Start)
    (count : Nat)
    (phase : StartPhase) :
    Leads (Underway hands start phase)
      (start.steps count phase : Action (Host (Recorded State)) StartPhase)
      (Underway hands start) := by
  induction count generalizing phase with
  | zero => exact Leads.answer fun _ _ underway => underway
  | succ count hypothesis =>
      exact (startStep_leads orderly start phase).bind hypothesis

theorem finishSteps_leads
    (orderly : hands.Orderly)
    (id : SessionId)
    (count : Nat)
    (phase : FinishPhase) :
    Leads (Books ((Task.finishing id phase).hands ++ hands) none)
      (Finish.steps id count phase :
        Action (Host (Recorded State)) FinishPhase)
      fun next =>
        Books ((Task.finishing id next).hands ++ hands) none := by
  induction count generalizing phase with
  | zero => exact Leads.answer fun _ _ books => books
  | succ count hypothesis =>
      exact (finishStep_leads orderly id phase).bind hypothesis

/-- A whole start on an adapter that is held. -/
theorem startSession_leads
    (orderly : hands.Orderly)
    (adapter : AdapterId)
    (config : SessionConfig) :
    Leads
      (fun kept => Books hands none kept ∧
        ∃ entry, kept.adapters.get? adapter = some entry ∧ entry.held = true)
      (startSession adapter config :
        Action (Host (Recorded State)) (Outcome SessionId))
      fun outcome => Books ((Held.ofSession outcome).hands ++ hands) none := by
  unfold startSession
  refine (Leads.of_same fun _ => rfl).bind fun bounds => ?_
  split
  case h_1 => exact Leads.answer fun _ _ given => given.1
  case h_2 capacity _ =>
    refine Leads.bind (((startSteps_leads orderly _ _ _).and_value
      (rank_startSteps _ _ _)).given ?_) fun next => Leads.answer ?_
    · rintro kept _ ⟨books, entry, found, held⟩
      exact ⟨books.locking found held, by rintro _ ⟨⟩⟩
    · rintro kept _ ⟨⟨books, _⟩, short⟩
      cases next with
      | finished outcome => exact books
      | _ => exact absurd short (Nat.not_succ_le_zero _)

/-- Ending a session that is not there does nothing. -/
theorem state_finishSteps_of_gone
    {host : Host State}
    {id : SessionId}
    (gone : host.sessions.get? id = none)
    (count : Nat)
    (phase : FinishPhase) : (Finish.steps id count phase host).state = host := by
  induction count generalizing phase with
  | zero => rfl
  | succ count hypothesis =>
      have step : (Finish.step id phase host).state = host := by
        unfold Finish.step
        simp [gone]
      unfold Finish.steps
      rw [Action.state_bind, step]
      exact hypothesis _

/-- A whole end of a session that no packet keeps. -/
theorem endSession_leads
    (orderly : hands.Orderly)
    {id : SessionId}
    (staying : id ∉ hands.ending) :
    Leads
      (fun kept =>
        Books { hands with sessions := id :: hands.sessions } none kept ∧
        ∀ number packet, kept.packets.get? number = some packet →
          packet.session ≠ id)
      (endSession id : Action (Host (Recorded State)) (Outcome Unit))
      fun _ => Books hands none := by
  have present : Leads
      (fun kept =>
        Books ((Task.finishing id .signalling).hands ++ hands) none kept)
      (endSession id : Action (Host (Recorded State)) (Outcome Unit))
      fun _ => Books hands none := by
    unfold endSession
    refine Leads.bind ((finishSteps_leads orderly id _ _).and_value
      (rank_finishSteps _ _ _)) fun next => Leads.answer ?_
    rintro kept _ ⟨books, short⟩
    cases next with
    | finished outcome => exact books
    | _ => exact absurd short (Nat.not_succ_le_zero _)
  refine ⟨present.grows, fun host dependable ⟨books, unkept⟩ => ?_⟩
  cases found : (holdings host).sessions.get? id with
  | some session =>
      exact present.leads host dependable (books.leaving found staying unkept)
  | none =>
      have gone : host.sessions.get? id = none := by
        rw [holdings, Table.get?_map] at found
        simpa using found
      have same : (endSession id host).state = host := by
        unfold endSession
        rw [Action.state_bind, Action.state_pure]
        exact state_finishSteps_of_gone gone _ _
      rw [same]
      exact books.of_session_gone found

end Host
end VirtualAdapter

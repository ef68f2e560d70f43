import VirtualAdapter.Proofs.Exchange.Entries
import VirtualAdapter.Host.Finish

/-!
# Sessions on their way

A start and an end of a session take several steps, between which everything
else may happen.  What a start holds of the driver and nobody else does, and
what an end has given back and is still kept, follows from its phase.
-/

namespace VirtualAdapter
namespace Host

open Ledger

/-! ## Hands together -/

/-- Some hands hold at least what others do, and the same sessions are on their
way. -/
structure Hands.Covers (second first : Hands) : Prop where
  /-- They hold the adapters. -/
  adapters : first.adapters ⊆ second.adapters
  /-- They hold the sessions. -/
  sessions : first.sessions ⊆ second.sessions
  /-- They hold the packets. -/
  packets : first.packets ⊆ second.packets
  /-- Sessions are being started on the same adapters. -/
  locked : first.locked.Perm second.locked
  /-- The same sessions are held by nobody yet. -/
  pending : first.pending.Perm second.pending
  /-- The same sessions are being ended. -/
  ending : first.ending.Perm second.ending
  /-- The same sessions are ended. -/
  past : first.past.Perm second.past

namespace Hands

variable {first second third : Hands}

theorem Orderly.append
    (left : first.Orderly)
    (right : second.Orderly) : (first ++ second).Orderly where
  pending_locked := fun id handle pending =>
    (List.mem_append.mp pending).elim
      (fun member =>
        List.mem_append_left _ (left.pending_locked id handle member))
      fun member =>
        List.mem_append_right _ (right.pending_locked id handle member)
  past_ending := fun id past =>
    (List.mem_append.mp past).elim
      (fun member => List.mem_append_left _ (left.past_ending id member))
      fun member => List.mem_append_right _ (right.past_ending id member)

namespace Covers

theorem refl (hands : Hands) : hands.Covers hands where
  adapters := List.Subset.refl _
  sessions := List.Subset.refl _
  packets := List.Subset.refl _
  locked := .refl _
  pending := .refl _
  ending := .refl _
  past := .refl _

theorem trans
    (left : second.Covers first)
    (right : third.Covers second) : third.Covers first where
  adapters := List.Subset.trans left.adapters right.adapters
  sessions := List.Subset.trans left.sessions right.sessions
  packets := List.Subset.trans left.packets right.packets
  locked := left.locked.trans right.locked
  pending := left.pending.trans right.pending
  ending := left.ending.trans right.ending
  past := left.past.trans right.past

theorem append_left
    (covers : second.Covers first)
    (hands : Hands) : (hands ++ second).Covers (hands ++ first) := by
  have both {Id : Type} {fewer more : List Id} (held : List Id)
      (among : fewer ⊆ more) : held ++ fewer ⊆ held ++ more :=
    List.append_subset.mpr
      ⟨List.subset_append_left held more,
        List.subset_append_of_subset_right held among⟩
  exact {
    adapters := both _ covers.adapters
    sessions := both _ covers.sessions
    packets := both _ covers.packets
    locked := covers.locked.append_left _
    pending := covers.pending.append_left _
    ending := covers.ending.append_left _
    past := covers.past.append_left _ }

/-- What is held can be taken together. -/
theorem assoc (first second : Held) (hands : Hands) :
    ((first ++ second).hands ++ hands).Covers
      (first.hands ++ (second.hands ++ hands)) where
  adapters := (List.Perm.of_eq (List.append_assoc _ _ _).symm).subset
  sessions := (List.Perm.of_eq (List.append_assoc _ _ _).symm).subset
  packets := (List.Perm.of_eq (List.append_assoc _ _ _).symm).subset
  locked := .refl _
  pending := .refl _
  ending := .refl _
  past := .refl _

/-- What is taken out of hands can be put beside them. -/
theorem without (held lost : Held) (hands : Hands) :
    (lost.hands ++ ((held.without lost).hands ++ hands)).Covers
      (held.hands ++ hands) := by
  have both (listed gone more : List Nat) :
      listed ++ more ⊆ gone ++ (listed.filter (· ∉ gone) ++ more) := by
    intro id member
    simp only [List.mem_append, List.mem_filter, decide_eq_true_eq] at member ⊢
    by_cases out : id ∈ gone
    · exact .inl out
    · exact .inr (member.imp_left fun present => ⟨present, out⟩)
  exact {
    adapters := both _ _ _
    sessions := both _ _ _
    packets := both _ _ _
    locked := .refl _
    pending := .refl _
    ending := .refl _
    past := .refl _ }

/-- The order of hands makes no difference. -/
theorem swap (first second third : Hands) :
    (second ++ (first ++ third)).Covers (first ++ (second ++ third)) where
  adapters := (List.perm_append_comm_assoc _ _ _).subset
  sessions := (List.perm_append_comm_assoc _ _ _).subset
  packets := (List.perm_append_comm_assoc _ _ _).subset
  locked := List.perm_append_comm_assoc _ _ _
  pending := List.perm_append_comm_assoc _ _ _
  ending := List.perm_append_comm_assoc _ _ _
  past := List.perm_append_comm_assoc _ _ _

end Covers
end Hands

/-- The books do not depend on the order in which things are held, nor on what
is held of which nothing is left. -/
theorem Books.of_covers
    {hands other : Hands}
    {loose : Option AdapterId}
    {kept : Holdings}
    (books : Books hands loose kept)
    (covers : other.Covers hands) : Books other loose kept where
  toNumbered := books.toNumbered
  toAccounts := by
    have running : kept.running other.past = kept.running hands.past := by
      unfold Holdings.running
      congr 2
      funext entry
      rw [decide_eq_decide]
      exact not_congr covers.past.symm.mem_iff
    refine books.toAccounts.of_eq rfl rfl ?_ rfl
    rw [running]
    exact (covers.pending.symm.map _).append_left _
  toRooted :=
    { books.toRooted with
      claimed := fun id handle pending =>
        books.claimed id handle (covers.pending.mem_iff.mpr pending)
      locked_held := fun id locked =>
        books.locked_held id (covers.locked.mem_iff.mpr locked)
      borrowed := fun id packet found =>
        let ⟨staying, lender⟩ := books.borrowed id packet found
        ⟨fun ending => staying (covers.ending.mem_iff.mpr ending), lender⟩
      single := covers.ending.nodup_iff.mp books.single
      ending_found := fun id ending =>
        books.ending_found id (covers.ending.mem_iff.mpr ending)
      adapter_known := fun id adapter found held =>
        covers.adapters (books.adapter_known id adapter found held)
      session_known := fun id session found =>
        (books.session_known id session found).imp
          (fun member => covers.sessions member) covers.ending.mem_iff.mp
      packet_known := fun id packet found =>
        covers.packets (books.packet_known id packet found) }
  admissible := books.admissible

/-! ## Tasks -/

/-- A start or an end of a session on its way. -/
inductive Task
  /-- A session is being started. -/
  | starting (start : Start) (phase : StartPhase)
  /-- A session is being ended. -/
  | finishing (session : SessionId) (phase : FinishPhase)

/-- What a task has to do with; a start that is over has a session in its hands
if it has not failed. -/
def Task.hands : Task → Hands
  | .starting start phase =>
      match phase with
      | .finished outcome => (Held.ofSession outcome).hands
      | .obtainingEvent handle | .makingEvent handle _
      | .counting handle _ _ | .ending handle _ =>
          { locked := [start.adapter], pending := [(start.adapter, handle)] }
      | .claimingFlag | .claimingName | .returningFlag | .starting
      | .releasingName _ | .releasingFlag _ => { locked := [start.adapter] }
  | .finishing session phase =>
      match phase with
      | .finished _ => {}
      | .signalling | .ending => { ending := [session] }
      | .releasingName | .releasingFlag | .uncounting | .lettingGo =>
          { ending := [session], past := [session] }

/-- What a task that is over has left in its caller's hands. -/
def Task.result? : Task → Option Held
  | .starting _ (.finished outcome) => some (.ofSession outcome)
  | .finishing _ (.finished _) => some {}
  | _ => none

/-- What all tasks have to do with. -/
def handsOf : List Task → Hands
  | [] => {}
  | task :: rest => task.hands ++ handsOf rest

theorem Task.hands_of_result?
    {task : Task}
    {held : Held}
    (result : task.result? = some held) : task.hands = held.hands := by
  unfold Task.result? at result
  split at result
  · cases result
    rfl
  · cases result
    rfl
  · simp at result

theorem Task.orderly (task : Task) : task.hands.Orderly := by
  unfold Task.hands
  split <;> split <;> constructor <;> simp [Held.hands]

theorem handsOf_orderly (tasks : List Task) : (handsOf tasks).Orderly := by
  induction tasks with
  | nil => exact ⟨nofun, nofun⟩
  | cons task rest hypothesis => exact task.orderly.append hypothesis

theorem orderly_beside
    (held : Held)
    (tasks : List Task) : (held.hands ++ handsOf tasks).Orderly :=
  Hands.Orderly.append ⟨nofun, nofun⟩ (handsOf_orderly tasks)

/-- The order of tasks makes no difference. -/
theorem handsOf_perm
    {first second : List Task}
    (same : first.Perm second) : (handsOf second).Covers (handsOf first) := by
  induction same with
  | nil => exact .refl _
  | cons task _ hypothesis => exact hypothesis.append_left _
  | swap left right rest => exact .swap _ _ _
  | trans _ _ left right => exact left.trans right

/-! ## Steps of tasks -/

namespace Books

variable {hands : Hands} {loose : Option AdapterId} {kept : Holdings}

/-- A start begins on an adapter that is held. -/
theorem locking
    (books : Books hands loose kept)
    {start : Start}
    {adapter : OpenAdapter}
    (found : kept.adapters.get? start.adapter = some adapter)
    (held : adapter.held = true) :
    Books ((Task.starting start .claimingFlag).hands ++ hands) loose kept :=
  { books with
    locked_held := by
      intro id locked
      obtain rfl | old := List.mem_cons.mp locked
      · exact ⟨adapter, found, held⟩
      · exact books.locked_held id old }

/-- A start without a session is over. -/
theorem unlocking
    {start : Start}
    (books : Books ((Task.starting start .claimingFlag).hands ++ hands)
      loose kept) : Books hands loose kept :=
  { books with
    locked_held := fun id locked =>
      books.locked_held id (List.mem_cons_of_mem _ locked) }

/-- An end begins on a session that no packet keeps. -/
theorem leaving
    {id : SessionId}
    {session : LiveSession}
    (books : Books { hands with sessions := id :: hands.sessions } loose kept)
    (found : kept.sessions.get? id = some session)
    (staying : id ∉ hands.ending)
    (unkept : ∀ number packet, kept.packets.get? number = some packet →
      packet.session ≠ id) :
    Books ((Task.finishing id .signalling).hands ++ hands) loose kept :=
  { books with
    borrowed := fun number packet present =>
      let ⟨elsewhere, lender⟩ := books.borrowed number packet present
      ⟨List.not_mem_cons_of_ne_of_not_mem
        (unkept number packet present) elsewhere, lender⟩
    single := List.nodup_cons.mpr ⟨staying, books.single⟩
    ending_found := by
      intro number ending
      obtain rfl | old := List.mem_cons.mp ending
      · exact ⟨session, found⟩
      · exact books.ending_found number old
    session_known := by
      intro number other present
      obtain held | ending := books.session_known number other present
      case inl =>
        obtain rfl | held := List.mem_cons.mp held
        · exact .inr List.mem_cons_self
        · exact .inl held
      case inr => exact .inr (List.mem_cons_of_mem _ ending) }

end Books
end Host
end VirtualAdapter

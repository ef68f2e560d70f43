import VirtualAdapter.Proofs.Host.Exclusion
import VirtualAdapter.Proofs.Host.Requests

/-!
# Removing the driver beside starts

A removal counts the manager's sessions first and calls the driver in a second
step.  A start launches its session before the session is counted.  So the call
can meet a running session, but only one whose start had not come to its count:
no session that was counted is under the driver when it is removed.
-/

namespace VirtualAdapter
namespace Host

open Memory (MemoryDriver RunningSession deletedEarly)
open Memory.MemoryDriver (Since)

/-- The driver runs a session until its end has taken it out of the count. -/
theorem FinishPhase.isCounted_of_isRunning
    {phase : FinishPhase}
    (running : phase.isRunning = true) : phase.isCounted = true := by
  cases phase <;> simp_all [isRunning, isCounted]

namespace Crowd

variable {crowd : Crowd}

/-! ## What runs at a count -/

/-- A session that the driver runs is counted, or its start is on its way. -/
theorem Sound.counts_or_starts
    (sound : Sound crowd)
    {number : Nat}
    {running : RunningSession}
    (runs : crowd.host.driver.sessions.get? number = some running) :
    0 < crowd.host.activeAt crowd.manager ∨
      ∃ thread start phase, crowd.starts.get? thread = some (start, phase) ∧
        phase.runs = some ⟨number⟩ := by
  have known : crowd.host.runs? number = some running.device := by
    rw [runs?, runs]
    rfl
  obtain ⟨party, stake, staked, launched⟩ := sound.kept.manned number _ known
  cases party with
  | start thread =>
      obtain ⟨⟨start, phase⟩, underway, rfl⟩ := Option.map_eq_some_iff.mp staked
      exact .inr ⟨thread, start, phase, underway, launched⟩
  | session id =>
      obtain ⟨session, found, rfl⟩ := Option.map_eq_some_iff.mp staked
      have going : (crowd.finishing id).isRunning = true := by
        by_contra ended
        change (if (crowd.finishing id).isRunning then _ else _) = _ at launched
        rw [if_neg ended] at launched
        cases launched
      have counted := counted_eq sound.proper found
      rw [if_pos (FinishPhase.isCounted_of_isRunning going)] at counted
      refine .inl ?_
      rw [sound.tally, counted]
      exact Nat.succ_pos _

/-- A removal that is about to call the driver has found no session counted. -/
theorem Sound.activeAt_of_calling
    (sound : Sound crowd)
    {thread : ThreadId}
    (counting : crowd.removals.get? thread = some .counting)
    (calling : (crowd.play (.stepRemoval thread)).removals.get? thread =
      some .calling) :
    crowd.host.activeAt crowd.manager = 0 := by
  simp only [Crowd.play, counting] at calling
  have after := (Table.get?_assign crowd.removals thread thread _).symm.trans
    calling
  rw [if_pos rfl] at after
  have step := sound.moored.deletionStep .counting
  generalize (Deletion.step crowd.manager .counting crowd.host).value = phase,
    (Deletion.step crowd.manager .counting crowd.host).state = next
    at step after
  cases step with
  | refused => cases after
  | counted managed idle =>
      rw [activeAt_of_managed managed]
      exact idle

/-! ## What comes to run since -/

/-- Whatever a thread does next, no session runs afterwards but those that ran
before and those that were started since. -/
theorem since_play (crowd : Crowd) (move : Move) :
    Since crowd.host.driver (crowd.play move).host.driver := by
  cases move with
  | create config => exact (createAdapter_moves _ _).since _
  | openNamed name => exact (openAdapter_moves _ _).since _
  | close id =>
      simp only [play]
      split
      · exact (closeAdapter_moves id).since _
      · exact .refl _
  | drop id =>
      simp only [play]
      split
      · exact (dropAdapter_moves id).since _
      · exact .refl _
  | beginStart thread id config =>
      simp only [play]
      split
      · exact .refl _
      · split <;> exact .refl _
  | stepStart thread =>
      simp only [play]
      split
      · exact .refl _
      · exact since_startStep _ _ _
  | beginEnd id =>
      simp only [play]
      split <;> exact .refl _
  | stepEnd id =>
      simp only [play]
      split
      · exact .refl _
      · exact (finishStep_moves id _).since _
  | beginRemoval thread =>
      simp only [play]
      split <;> exact .refl _
  | stepRemoval thread =>
      simp only [play]
      split
      · exact .refl _
      · exact (deletionStep_moves _ _).since _

theorem since_playAll (crowd : Crowd) (moves : List Move) :
    Since crowd.host.driver (crowd.playAll moves).host.driver := by
  induction moves generalizing crowd with
  | nil => exact .refl _
  | cons move rest hypothesis =>
      exact (since_play crowd move).trans (hypothesis (crowd.play move))

/-! ## The call -/

/-- A removal that has counted no session calls the driver. -/
theorem driver_of_calling
    {thread : ThreadId}
    (calling : crowd.removals.get? thread = some .calling) :
    (crowd.play (.stepRemoval thread)).host.driver =
      crowd.host.driver.deleted := by
  have asked : (Driver.deleteDriver crowd.host.driver).state =
      crowd.host.driver.deleted :=
    MemoryDriver.state_deleteDriver crowd.host.driver
  simp only [play, calling, withRemoval, Deletion.step, Action.state_bind,
    value_ask, state_ask, asked]
  cases (Driver.deleteDriver crowd.host.driver).value <;> rfl

/-- Whatever threads do between the two steps of a removal: the call of the
driver is a violation exactly if a session runs, and every session that runs
then was launched by a start that had not been counted when the removal
counted. -/
theorem removal_meets_only_uncounted
    (config : ManagerConfig)
    (version : DriverVersion)
    (slotBudget : Option Nat)
    (before between : List Move)
    (thread : ThreadId) :
    let crowd := (opened config version slotBudget).playAll before
    let counted := crowd.play (.stepRemoval thread)
    let later := counted.playAll between
    let called := later.play (.stepRemoval thread)
    crowd.removals.get? thread = some .counting →
    counted.removals.get? thread = some .calling →
    later.removals.get? thread = some .calling →
    called.host.driver.calls = later.host.driver.calls ++ [.delete] ∧
    called.host.driver.violations = later.host.driver.violations ++
      (if later.host.driver.sessions.isEmpty then [] else [deletedEarly]) ∧
    ∀ number running,
      later.host.driver.sessions.get? number = some running →
        crowd.host.driver.lastNumber < number ∨
        ∃ other start phase, crowd.starts.get? other = some (start, phase) ∧
          phase.runs = some ⟨number⟩ := by
  intro crowd counted later called counting calling stillCalling
  have sound : Sound crowd :=
    (sound_opened config version slotBudget).playAll before
  have call : called.host.driver = later.host.driver.deleted :=
    driver_of_calling stillCalling
  refine ⟨by rw [call]; rfl, by rw [call]; rfl, fun number running runs => ?_⟩
  by_cases given : number ≤ crowd.host.driver.lastNumber
  case neg => exact .inl (Nat.lt_of_not_le given)
  case pos =>
    have since : Since crowd.host.driver later.host.driver :=
      (since_play crowd _).trans (since_playAll counted between)
    obtain ⟨earlier, ran⟩ := since.ran number running runs given
    refine .inr ((sound.counts_or_starts ran).resolve_left ?_)
    rw [sound.activeAt_of_calling counting calling]
    exact Nat.lt_irrefl 0

/-- A start has launched its session and not counted it yet.  A removal counts
none, calls the driver, and the driver records the violation. -/
theorem removal_meets_only_uncounted_of_overtaken :
    let crowd := (opened {} Memory.defaultVersion none).playAll
      [.create { name := "Tun" }, .beginStart 1 2 {}, .stepStart 1,
        .stepStart 1, .stepStart 1, .beginRemoval 2]
    let later := crowd.play (.stepRemoval 2)
    let called := later.play (.stepRemoval 2)
    crowd.removals.get? 2 = some .counting ∧
    later.removals.get? 2 = some .calling ∧
    called.host.driver.calls = later.host.driver.calls ++ [.delete] ∧
    called.host.driver.violations = [deletedEarly] ∧
    ∃ number running,
      later.host.driver.sessions.get? number = some running ∧
      ∃ other start phase, crowd.starts.get? other = some (start, phase) ∧
        phase.runs = some ⟨number⟩ := by
  obtain ⟨calls, violations, uncounted⟩ :=
    removal_meets_only_uncounted {} Memory.defaultVersion none
      [.create { name := "Tun" }, .beginStart 1 2 {}, .stepStart 1,
        .stepStart 1, .stepStart 1, .beginRemoval 2] [] 2 rfl rfl rfl
  refine ⟨rfl, rfl, calls, violations, 3, _, rfl, ?_⟩
  exact (uncounted 3 _ rfl).resolve_left (by decide)

end Crowd
end Host
end VirtualAdapter

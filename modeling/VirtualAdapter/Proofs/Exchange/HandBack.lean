import VirtualAdapter.Proofs.Exchange.Operations
import VirtualAdapter.Faulty
import VirtualAdapter.Memory.Driver
import VirtualAdapter.Memory.Peer
import Mathlib.Data.List.Perm.Basic

/-!
# Everything is handed back exactly once

Callers use the library in any order that the borrows allow, in several
threads, and calls of the driver fail on the way.  Over every run after which
callers hold nothing any more, every session was ended once and every adapter
closed once, after its sessions, and every packet went back to its session once.
-/

namespace VirtualAdapter
namespace Host

open Ledger

/-! ## Runs -/

/-- What one thread does next. -/
inductive Call (State : Type)
  /-- Something that is done in one go. -/
  | perform (operation : Operation State)
  /-- Begin to start a session. -/
  | beginStart (adapter : AdapterId) (config : SessionConfig)
  /-- Begin to end or drop a session. -/
  | beginEnd (session : SessionId)
  /-- One step of a start or an end that was begun. -/
  | advance (index : Nat)

/-- A host, the starts and ends that were begun, and what callers hold. -/
structure Scene (State : Type) where
  /-- The host. -/
  host : Host (Recorded State)
  /-- The starts and ends that are not over, first ones first. -/
  tasks : List Task := []
  /-- What callers hold. -/
  held : Held := {}

/-- One step of a task. -/
def Task.step {State : Type} [Driver State] :
    Task → Action (Host (Recorded State)) Task
  | starting start phase => do return .starting start (← start.step phase)
  | finishing session phase => do
      return .finishing session (← Finish.step session phase)

namespace Scene

variable {State : Type}

/-- A new driver of which nothing is held. -/
def ofDriver (driver : State) : Scene State :=
  { host := { driver := ⟨driver, []⟩ } }

/-- What was written down about the driver. -/
def log (scene : Scene State) : List Exchange := scene.host.driver.log

/-- What callers hold and what the tasks have to do with. -/
def hands (scene : Scene State) : Hands :=
  scene.held.hands ++ handsOf scene.tasks

/-- Nothing is held any more: every start and end is over, and callers have
dropped all adapters, sessions and packets that they were given. -/
def isDropped (scene : Scene State) : Bool :=
  scene.tasks.isEmpty && scene.held.isEmpty

variable [Driver State]

/-- Perform an operation, if the borrows allow it. -/
def perform (scene : Scene State) (operation : Operation State) : Scene State :=
  if operation.isAllowed scene.hands (holdings scene.host) then
    let reply := operation.action scene.host
    { scene with
      host := reply.state
      held := reply.value ++ scene.held.without operation.takes }
  else scene

/-- Begin to start a session, if the borrows allow it. -/
def beginStart
    (scene : Scene State)
    (adapter : AdapterId)
    (config : SessionConfig) : Scene State :=
  if (Operation.startSession adapter config : Operation State).isAllowed
      scene.hands (holdings scene.host) then
    match Start.capacity? (Driver.capacityBounds scene.host.driver) config with
    | .error _ => scene
    | .ok capacity =>
        let task := .starting { adapter, config, capacity } .claimingFlag
        { scene with tasks := scene.tasks ++ [task] }
  else scene

/-- Begin to end a session that is there, if the borrows allow it. -/
def beginEnd (scene : Scene State) (session : SessionId) : Scene State :=
  let operation : Operation State := .endSession session
  if operation.isAllowed scene.hands (holdings scene.host) &&
      (scene.host.sessions.get? session).isSome then
    { scene with
      tasks := scene.tasks ++ [.finishing session .signalling]
      held := scene.held.without operation.takes }
  else scene

/-- One step of a task; one that is over leaves something with its caller. -/
def advance (scene : Scene State) (index : Nat) : Scene State :=
  match scene.tasks[index]? with
  | none => scene
  | some task =>
      let reply := task.step scene.host
      match reply.value.result? with
      | none =>
          { scene with
            host := reply.state
            tasks := scene.tasks.set index reply.value }
      | some left =>
          { host := reply.state
            tasks := scene.tasks.eraseIdx index
            held := left ++ scene.held }

/-- Carry out a call. -/
def play (scene : Scene State) : Call State → Scene State
  | .perform operation => scene.perform operation
  | .beginStart adapter config => scene.beginStart adapter config
  | .beginEnd session => scene.beginEnd session
  | .advance index => scene.advance index

/-- Carry out calls in a row. -/
def playAll (scene : Scene State) (calls : List (Call State)) : Scene State :=
  calls.foldl play scene

end Scene

variable {State : Type} [Driver State] {hands : Hands}

/-- A step of a task that is not over keeps the books, with the task before and
after it. -/
theorem taskStep_leads (orderly : hands.Orderly) (task : Task) :
    Leads
      (fun kept => Books (task.hands ++ hands) none kept ∧ task.result? = none)
      (task.step : Action (Host (Recorded State)) Task)
      fun next => Books (next.hands ++ hands) none := by
  cases task with
  | starting start phase =>
      refine Leads.bind ((startStep_leads orderly start phase).given ?_)
        fun _ => Leads.answer fun _ _ underway => underway.books
      rintro kept _ ⟨books, going⟩
      refine ⟨books, ?_⟩
      rintro id rfl
      simp [Task.result?] at going
  | finishing session phase =>
      exact ((finishStep_leads orderly session phase).given
        fun _ _ given => given.1).bind fun _ =>
          Leads.answer fun _ _ books => books

namespace Scene

/-- No task in the list is over, and the books are right as long as the driver
is dependable. -/
structure IsRight (scene : Scene State) : Prop where
  /-- No task is over. -/
  going : ∀ task ∈ scene.tasks, task.result? = none
  /-- The books are right. -/
  books : Dependable scene.log → Books scene.hands none (holdings scene.host)

omit [Driver State] in
theorem isRight_ofDriver (driver : State) : (ofDriver driver).IsRight := by
  refine ⟨fun _ member => absurd member List.not_mem_nil, fun _ => ?_⟩
  have empty : ∀ {Key Value : Type}, (⟨[]⟩ : Table Key Value).IsProper :=
    List.nodup_nil
  exact {
    adapters_proper := empty
    sessions_proper := empty
    packets_proper := empty
    adapter_le := nofun
    session_le := nofun
    packet_le := nofun
    adapters := .refl _
    sessions := .refl _
    packets := .refl _
    based := nofun
    claimed := nofun
    locked_held := nofun
    borrowed := nofun
    single := List.nodup_nil
    ending_found := nofun
    attended := nofun
    adapter_known := nofun
    session_known := nofun
    packet_known := nofun
    admissible := admissible_nil }

/-- What was written down stays, and the books stay right. -/
structure Advances (scene next : Scene State) : Prop where
  /-- What was written down stays. -/
  grows : scene.log <+: next.log
  /-- The books stay right. -/
  keeps : scene.IsRight → next.IsRight

namespace Advances

variable {scene : Scene State}

omit [Driver State] in
theorem refl (scene : Scene State) : scene.Advances scene :=
  ⟨List.prefix_rfl, id⟩

omit [Driver State] in
/-- A new task is right beside what is held and the other tasks. -/
theorem joins
    {task : Task}
    (held : Held)
    (going : task.result? = none)
    (books : Books scene.hands none (holdings scene.host) →
      Books (task.hands ++ (held.hands ++ handsOf scene.tasks)) none
        (holdings scene.host)) :
    scene.Advances { scene with tasks := scene.tasks ++ [task], held } where
  grows := List.prefix_rfl
  keeps := fun right => {
    going := fun other member =>
      (List.mem_append.mp member).elim (right.going other) fun last =>
        List.mem_singleton.mp last ▸ going
    books := fun dependable => by
      refine (books (right.books dependable)).of_covers
        ((Hands.Covers.swap _ _ _).trans (.append_left ?_ _))
      exact handsOf_perm (List.perm_append_singleton task scene.tasks).symm }

theorem perform (operation : Operation State) :
    scene.Advances (scene.perform operation) := by
  unfold Scene.perform
  split
  case isFalse => exact refl scene
  case isTrue allowed =>
    have leads := action_leads
      (orderly_beside (scene.held.without operation.takes) scene.tasks)
      operation ((operation.isAllowed_taken _ _ _).trans allowed)
    refine ⟨leads.grows scene.host, fun right => ⟨right.going, ?_⟩⟩
    intro dependable
    have books := right.books (dependable.of_prefix (leads.grows scene.host))
    have taken := books.of_covers
      (Hands.Covers.without scene.held operation.takes _)
    exact (leads.leads scene.host dependable ⟨taken, rfl⟩).of_covers
      (Hands.Covers.assoc _ _ _)

theorem beginStart
    (adapter : AdapterId)
    (config : SessionConfig) :
    scene.Advances (scene.beginStart adapter config) := by
  unfold Scene.beginStart
  split
  case isFalse => exact refl scene
  case isTrue allowed =>
    split
    case h_1 => exact refl scene
    case h_2 capacity _ =>
      obtain ⟨entry, found, held⟩ := (Option.any_eq_true _ _).mp allowed
      exact joins scene.held rfl fun books => books.locking found held

omit [Driver State] in
theorem beginEnd (session : SessionId) :
    scene.Advances (scene.beginEnd session) := by
  unfold Scene.beginEnd
  dsimp only
  split
  case isFalse => exact refl scene
  case isTrue allowed =>
    obtain ⟨allowed, present⟩ := Bool.and_eq_true_iff.mp allowed
    obtain ⟨staying, unborrowed⟩ := Bool.and_eq_true_iff.mp allowed
    obtain ⟨entry, found⟩ := Option.isSome_iff_exists.mp present
    refine joins _ rfl fun books => ?_
    have taken := books.of_covers
      (Hands.Covers.without scene.held { sessions := [session] } _)
    have live : (holdings scene.host).sessions.get? session =
        some entry.core := by
      rw [holdings, Table.get?_map, found]
      rfl
    exact taken.leaving live (of_decide_eq_true staying)
      (books.unkept unborrowed)

/-- The task is taken out of the list, stepped, and put back if it is not
over. -/
theorem advance (index : Nat) : scene.Advances (scene.advance index) := by
  unfold Scene.advance
  cases found : scene.tasks[index]? with
  | none => exact refl scene
  | some task =>
      obtain ⟨inside, rfl⟩ := List.getElem?_eq_some_iff.mp found
      have leads : Leads _
          (scene.tasks[index].step : Action (Host (Recorded State)) Task) _ :=
        taskStep_leads
          (orderly_beside scene.held (scene.tasks.eraseIdx index)) _
      have grows := leads.grows scene.host
      have taken := handsOf_perm (List.getElem_cons_eraseIdx_perm inside).symm
      have stepped (right : scene.IsRight)
          (dependable : Dependable
            (holdings (scene.tasks[index].step scene.host).state).log) :=
        leads.leads scene.host dependable
          ⟨(right.books (dependable.of_prefix grows)).of_covers
            ((taken.append_left _).trans (.swap _ _ _)),
          right.going _ (List.getElem_mem inside)⟩
      dsimp only
      split
      case h_1 going =>
        refine ⟨grows, fun right => ⟨?_, fun dependable => ?_⟩⟩
        · intro task member
          obtain member | rfl := List.mem_or_eq_of_mem_set member
          · exact right.going task member
          · exact going
        · have put := handsOf_perm
            (List.set_perm_cons_eraseIdx inside
              (scene.tasks[index].step scene.host).value).symm
          exact (stepped right dependable).of_covers
            ((Hands.Covers.swap _ _ _).trans (put.append_left _))
      case h_2 left result =>
        refine ⟨grows, fun right => ⟨?_, fun dependable => ?_⟩⟩
        · exact fun task member =>
            right.going task (List.mem_of_mem_eraseIdx member)
        · have books := stepped right dependable
          rw [Task.hands_of_result? result] at books
          exact books.of_covers (Hands.Covers.assoc _ _ _)

/-- Every call keeps the books. -/
theorem play (call : Call State) : scene.Advances (scene.play call) := by
  cases call with
  | perform operation => exact perform operation
  | beginStart adapter config => exact beginStart adapter config
  | beginEnd session => exact beginEnd session
  | advance index => exact advance index

end Advances

/-- What was written down stays. -/
theorem grows_playAll
    (scene : Scene State)
    (calls : List (Call State)) : scene.log <+: (scene.playAll calls).log := by
  induction calls generalizing scene with
  | nil => exact List.prefix_rfl
  | cons call rest hypothesis =>
      exact (Advances.play call).grows.trans (hypothesis (scene.play call))

/-- Every run keeps the books. -/
theorem isRight_playAll
    {scene : Scene State}
    (right : scene.IsRight)
    (calls : List (Call State)) : (scene.playAll calls).IsRight := by
  induction calls generalizing scene with
  | nil => exact right
  | cons call rest hypothesis =>
      exact hypothesis ((Advances.play call).keeps right)

end Scene

/-! ## What is left at the end -/

omit [Driver State] in
/-- When nothing is in anybody's hands, everything was handed back. -/
theorem Books.handedBack
    {kept : Holdings}
    (books : Books {} none kept)
    (dependable : Dependable kept.log) : HandedBack kept.log := by
  have no_session (id : SessionId) (session : LiveSession) :
      kept.sessions.get? id ≠ some session := fun found =>
    (books.session_known id session found).elim nofun nofun
  have handles : kept.handles = [] := by
    apply List.eq_nil_iff_forall_not_mem.mpr
    intro handle member
    obtain ⟨adapter, listed, _⟩ := List.mem_map.mp member
    obtain ⟨id, found⟩ := books.adapters_proper.mem_values_iff.mp listed
    cases held : adapter.held with
    | true => exact absurd (books.adapter_known id adapter found held) nofun
    | false =>
        -- An adapter that nobody holds is used, so a session would be left.
        obtain ⟨number, session, uses, _⟩ :=
          books.attended id adapter found held nofun
        exact no_session number session uses
  have running : kept.running [] = [] := by
    apply List.eq_nil_iff_forall_not_mem.mpr
    intro handle member
    obtain ⟨id, session, found, _⟩ :=
      Holdings.exists_of_mem_running books.toNumbered member
    exact no_session id session found
  have loans : kept.loans = [] := by
    apply List.eq_nil_iff_forall_not_mem.mpr
    intro loan member
    obtain ⟨_, packet, session, _, found, _⟩ :=
      Holdings.exists_of_mem_loans books.toNumbered member
    exact no_session packet.session session found
  have adapters := books.adapters
  have sessions := books.sessions
  have packets := books.packets
  rw [handles, Balanced, List.append_nil] at adapters
  rw [running, Balanced, List.map_nil, List.append_nil,
    List.append_nil] at sessions
  rw [loans, Balanced, List.append_nil] at packets
  exact books.admissible.handedBack dependable adapters sessions packets

namespace Scene

omit [Driver State] in
theorem IsRight.handedBack
    {scene : Scene State}
    (right : scene.IsRight)
    (dependable : Dependable scene.log)
    (dropped : scene.isDropped = true) : HandedBack scene.log := by
  obtain ⟨host, tasks, ⟨adapters, sessions, packets⟩⟩ := scene
  simp only [isDropped, Held.isEmpty, Bool.and_eq_true,
    List.isEmpty_iff] at dropped
  obtain ⟨rfl, ⟨rfl, rfl⟩, rfl⟩ := dropped
  exact Books.handedBack (right.books dependable) dependable

/-- Dropping a buffer that is to be sent fills it with zeros and sends it on the
session that it was borrowed from. -/
def DropsZeroed (scene : Scene State) (packet : PacketId) : Prop :=
  ∀ held, scene.host.packets.get? packet = some held →
    held.direction = .outbound →
      ∃ session, scene.host.sessions.get? held.session = some session ∧
        (scene.play (.perform (.drop packet))).log = scene.log ++
          [.wrote held.raw 0 (Bytes.zeros held.raw.length),
            .sent session.handle held.raw]

theorem dropsZeroed
    {scene : Scene State}
    (right : scene.IsRight)
    (dependable : Dependable scene.log)
    (packet : PacketId) : scene.DropsZeroed packet := by
  intro held found outbound
  obtain ⟨_, core, live⟩ := (right.books dependable).borrowed packet held found
  rw [holdings, Table.get?_map] at live
  obtain ⟨session, lender, _⟩ := Option.map_eq_some_iff.mp live
  have discards : (dropPacket packet scene.host).state =
      (discardPacket packet held session scene.host).state := by
    simp only [dropPacket, withPacket, Action.state_bind, value_packet?,
      state_packet?, value_session?, state_session?, found, lender, outbound]
  have drops : (scene.play (.perform (.drop packet))).log =
      (dropPacket packet scene.host).state.driver.log := rfl
  refine ⟨session, lender, ?_⟩
  rw [drops, discards]
  exact List.append_assoc _ _ _

end Scene

/-- Over every run after which callers hold nothing any more, everything that a
dependable driver gave out was handed back exactly once, and each buffer that
was dropped unsent was filled with zeros. -/
theorem handedBack_of_dropped
    (driver : State)
    (calls : List (Call State))
    (dependable : Dependable ((Scene.ofDriver driver).playAll calls).log)
    (dropped : ((Scene.ofDriver driver).playAll calls).isDropped = true) :
    HandedBack ((Scene.ofDriver driver).playAll calls).log ∧
      ∀ earlier packet later,
        calls = earlier ++ .perform (.drop packet) :: later →
        ((Scene.ofDriver driver).playAll earlier).DropsZeroed packet := by
  have right (run : List (Call State)) :
      ((Scene.ofDriver driver).playAll run).IsRight :=
    Scene.isRight_playAll (Scene.isRight_ofDriver driver) run
  refine ⟨(right calls).handedBack dependable dropped, ?_⟩
  rintro earlier packet later rfl
  apply Scene.dropsZeroed (right earlier)
  apply dependable.of_prefix
  unfold Scene.playAll
  rw [List.foldl_append]
  exact Scene.grows_playAll _ (.perform (.drop packet) :: later)

/-- Two adapters: a start on one of them is refused its event; the other one is
dropped under its session, which gets a buffer that is too short, drops a
buffer unsent and sends another. -/
theorem handedBack_of_dropped_two_adapters :
    let config : SessionConfig := { ringCapacity := some 4 }
    let refuseEvent (faulty : Faulty Memory.MemoryDriver) :=
      (Faulty.plant .newEvent ⟨0, 1, .refused .interrupted⟩ faulty).state
    let inject (content : Bytes) (faulty : Faulty Memory.MemoryDriver) :=
      { faulty with
        driver :=
          (Memory.MemoryDriver.inject "a" content faulty.driver).state }
    let earlier : List (Call (Faulty Memory.MemoryDriver)) :=
      [.perform (.newManager {}),
        .perform (.createAdapter 1 { name := "a" }),
        .perform (.createAdapter 1 { name := "b" }),
        .perform (.elsewhere refuseEvent 0),
        .beginStart 3 config] ++
      List.replicate 8 (.advance 0) ++
      [.perform (.startSession 2 config),
        .perform (.dropAdapter 2),
        .perform (.elsewhere (inject [1, 2, 3]) 0),
        .perform (.receiveInto 4 [0]),
        .perform (.elsewhere (inject [4]) 0),
        .perform (.receive 4),
        .perform (.allocate 4 2),
        .perform (.write 7 0 [9])]
    let later : List (Call (Faulty Memory.MemoryDriver)) :=
      [.perform (.send 4 [8, 8]),
        .perform (.finish 6),
        .beginEnd 4] ++
      List.replicate 6 (.advance 0) ++
      [.perform (.closeAdapter 3), .perform (.dropManager 1)]
    let fresh := Scene.ofDriver (⟨{}, ∅, none⟩ : Faulty Memory.MemoryDriver)
    let last := fresh.playAll (earlier ++ .perform (.drop 7) :: later)
    begun last.log = [⟨5⟩, ⟨6⟩] ∧ opened last.log = [⟨2⟩, ⟨4⟩] ∧
      (lent last.log).length = 4 ∧ HandedBack last.log ∧
      ((fresh.playAll earlier).host.packets.get? 7).map (·.direction) =
        some .outbound ∧
      (fresh.playAll earlier).DropsZeroed 7 := by
  intro config refuseEvent inject earlier later fresh last
  obtain ⟨handedBack, zeroed⟩ := handedBack_of_dropped ⟨{}, ∅, none⟩
    (earlier ++ .perform (.drop 7) :: later) (by decide +kernel)
    (by decide +kernel)
  exact ⟨by decide +kernel, by decide +kernel, by decide +kernel, handedBack,
    by decide +kernel, zeroed earlier 7 later rfl⟩

end Host
end VirtualAdapter

import Mathlib.Logic.Function.Basic
import VirtualAdapter.Host.State

/-!
# Who holds a name

Starts and sessions claim the names of their adapters and run sessions at the
driver.  Here only that is looked at: who has claimed what, and who runs what.
A name that is claimed once keeps all sessions of its device apart.
-/

namespace VirtualAdapter
namespace Host

/-- What a start or a session has to do with names and with the driver. -/
structure Stake where
  /-- The adapter on which it was begun. -/
  adapter : AdapterId
  /-- It has claimed the adapter's name and not released it. -/
  claims : Bool
  /-- The driver's session that was started for it and not ended. -/
  runs : Option SessionHandle

/-- Parties with their stakes, adapters with their names and devices, the names
that are claimed and the sessions that the driver runs. -/
@[ext]
structure Berths (Party : Type) where
  /-- The stake of a party. -/
  stake? : Party → Option Stake
  /-- The name by which an adapter is known. -/
  key? : AdapterId → Option String
  /-- The device of an adapter. -/
  device? : AdapterId → Option Nat
  /-- The names that are claimed. -/
  claimed : List String
  /-- The device on which the driver runs a session. -/
  runs? : Nat → Option Nat

/-- Every key is held by one party at most, and the keys in a list are those that
are held. -/
structure Exclusive
    {Party Key : Type}
    (holds : Party → Key → Prop)
    (claimed : List Key) : Prop where
  /-- A key is held by one party at most. -/
  unique : ∀ first second key, holds first key → holds second key →
    first = second
  /-- The keys that are claimed are those that are held. -/
  claimed_iff : ∀ key, key ∈ claimed ↔ ∃ party, holds party key

namespace Exclusive

variable {Party Key : Type} {holds next : Party → Key → Prop}
  {claimed : List Key} {party : Party} {key : Key}

/-- Nobody gains or loses a key. -/
theorem of_same
    (exclusive : Exclusive holds claimed)
    (same : ∀ party key, next party key ↔ holds party key) :
    Exclusive next claimed := by
  have equal : next = holds := by
    funext party key
    exact propext (same party key)
  exact equal ▸ exclusive

/-- A party claims a key that nobody holds. -/
theorem claim
    (exclusive : Exclusive holds claimed)
    (party : Party)
    (free : key ∉ claimed)
    (gains : ∀ other held, next other held ↔
      holds other held ∨ other = party ∧ held = key) :
    Exclusive next (claimed ++ [key]) := by
  have unheld : ∀ other, ¬ holds other key := fun other held =>
    free ((exclusive.claimed_iff key).mpr ⟨other, held⟩)
  constructor
  case unique =>
    intro first second held found_first found_second
    rcases (gains first held).mp found_first with before | ⟨rfl, rfl⟩ <;>
      rcases (gains second _).mp found_second with before' | ⟨rfl, same⟩
    · exact exclusive.unique first second held before before'
    · exact absurd (same ▸ before) (unheld first)
    · exact absurd before' (unheld second)
    · rfl
  case claimed_iff =>
    intro held
    rw [List.mem_append, List.mem_singleton, exclusive.claimed_iff]
    simp only [gains]
    constructor
    · rintro (⟨other, before⟩ | rfl)
      · exact ⟨other, .inl before⟩
      · exact ⟨party, .inr ⟨rfl, rfl⟩⟩
    · rintro ⟨other, before | ⟨-, rfl⟩⟩
      · exact .inl ⟨other, before⟩
      · exact .inr rfl

/-- A party releases the only key that it holds. -/
theorem release
    [DecidableEq Key]
    (exclusive : Exclusive holds claimed)
    (held : holds party key)
    (only : ∀ other, holds party other → other = key)
    (loses : ∀ other held, next other held ↔ holds other held ∧ other ≠ party) :
    Exclusive next (claimed.filter (· ≠ key)) := by
  constructor
  case unique =>
    intro first second other found_first found_second
    exact exclusive.unique first second other
      ((loses first other).mp found_first).1
      ((loses second other).mp found_second).1
  case claimed_iff =>
    intro other
    rw [List.mem_filter, exclusive.claimed_iff]
    simp only [loses, decide_eq_true_eq]
    constructor
    · rintro ⟨⟨holder, before⟩, differs⟩
      exact ⟨holder, before, fun same => differs (only other (same ▸ before))⟩
    · rintro ⟨holder, before, differs⟩
      exact ⟨⟨holder, before⟩, fun same =>
        differs (exclusive.unique holder party key (same ▸ before) held)⟩

/-- A party hands what it holds to another one, which held nothing. -/
theorem pass
    (exclusive : Exclusive holds claimed)
    (giver taker : Party)
    (empty : ∀ key, ¬ holds taker key)
    (moves : ∀ other key, next other key ↔
      other = taker ∧ holds giver key ∨ other ≠ giver ∧ holds other key) :
    Exclusive next claimed := by
  constructor
  case unique =>
    intro first second key found_first found_second
    rcases (moves first key).mp found_first with ⟨rfl, before⟩ | ⟨gone, before⟩ <;>
      rcases (moves second key).mp found_second with
        ⟨rfl, before'⟩ | ⟨gone', before'⟩
    · rfl
    · exact absurd (exclusive.unique second giver key before' before) gone'
    · exact absurd (exclusive.unique first giver key before before') gone
    · exact exclusive.unique first second key before before'
  case claimed_iff =>
    intro key
    rw [exclusive.claimed_iff]
    simp only [moves]
    constructor
    · rintro ⟨holder, before⟩
      by_cases same : holder = giver
      · exact ⟨taker, .inl ⟨rfl, same ▸ before⟩⟩
      · exact ⟨holder, .inr ⟨same, before⟩⟩
    · rintro ⟨_, ⟨-, before⟩ | ⟨-, before⟩⟩
      · exact ⟨giver, before⟩
      · exact ⟨_, before⟩

end Exclusive

namespace Berths

variable {Party : Type}

/-- A party holds a name: it has claimed the one of its adapter. -/
def Holds (berths : Berths Party) (party : Party) (key : String) : Prop :=
  ∃ stake, berths.stake? party = some stake ∧ stake.claims = true ∧
    berths.key? stake.adapter = some key

/-- Names are held by one party each, and parties run what the driver runs. -/
structure Kept (berths : Berths Party) : Prop where
  /-- Adapters are there as long as somebody has a stake in them. -/
  anchored : ∀ party stake, berths.stake? party = some stake →
    ∃ key, berths.key? stake.adapter = some key
  /-- Who runs a session has claimed a name, and the session is on the device
  of that name. -/
  afloat : ∀ party stake handle, berths.stake? party = some stake →
    stake.runs = some handle →
      stake.claims = true ∧ ∃ device,
        berths.device? stake.adapter = some device ∧
          berths.runs? handle.number = some device
  /-- Somebody runs every session. -/
  manned : ∀ number device, berths.runs? number = some device →
    ∃ party stake, berths.stake? party = some stake ∧
      stake.runs = some ⟨number⟩
  /-- Adapters of one device are known by one name. -/
  alike : ∀ first second device, berths.device? first = some device →
    berths.device? second = some device →
      berths.key? first = berths.key? second
  /-- Names are held by one party each. -/
  exclusive : Exclusive berths.Holds berths.claimed

variable [DecidableEq Party]

/-- Give a party a stake, or take it away. -/
def put
    (berths : Berths Party)
    (party : Party)
    (stake : Option Stake) : Berths Party :=
  { berths with stake? := Function.update berths.stake? party stake }

theorem stake?_put
    (berths : Berths Party)
    (party other : Party)
    (stake : Option Stake) :
    (berths.put party stake).stake? other =
      if other = party then stake else berths.stake? other :=
  Function.update_apply _ _ _ _

/-- A party that keeps its stake stays as it is. -/
theorem put_eq_self
    {berths : Berths Party}
    {party : Party}
    {stake : Option Stake}
    (found : berths.stake? party = stake) : berths.put party stake = berths := by
  subst found
  unfold put
  rw [Function.update_eq_self]

/-- What one step of a start or an end, or of anybody else, comes to. -/
inductive Step (berths : Berths Party) : Berths Party → Prop
  /-- Nothing that matters. -/
  | stays : Step berths berths
  /-- A party begins to have something to do with an adapter. -/
  | joins {party : Party} {adapter : AdapterId} {key : String}
      (absent : berths.stake? party = none)
      (known : berths.key? adapter = some key) :
      Step berths (berths.put party (some ⟨adapter, false, none⟩))
  /-- A party claims the name of its adapter, which nobody has claimed. -/
  | claims {party : Party} {adapter : AdapterId} {key : String}
      (found : berths.stake? party = some ⟨adapter, false, none⟩)
      (known : berths.key? adapter = some key)
      (free : key ∉ berths.claimed) :
      Step berths
        { berths.put party (some ⟨adapter, true, none⟩) with
          claimed := berths.claimed ++ [key] }
  /-- The driver starts a session for a party that has claimed the name. -/
  | launches {party : Party} {adapter : AdapterId} {device number : Nat}
      (found : berths.stake? party = some ⟨adapter, true, none⟩)
      (on : berths.device? adapter = some device)
      (fresh : berths.runs? number = none) :
      Step berths
        { berths.put party (some ⟨adapter, true, some ⟨number⟩⟩) with
          runs? := Function.update berths.runs? number (some device) }
  /-- The driver ends the session of a party. -/
  | ends {party : Party} {adapter : AdapterId} {handle : SessionHandle}
      (found : berths.stake? party = some ⟨adapter, true, some handle⟩) :
      Step berths
        { berths.put party (some ⟨adapter, true, none⟩) with
          runs? := Function.update berths.runs? handle.number none }
  /-- A party releases the name of its adapter. -/
  | releases {party : Party} {adapter : AdapterId} {key : String}
      (found : berths.stake? party = some ⟨adapter, true, none⟩)
      (known : berths.key? adapter = some key) :
      Step berths
        { berths.put party (some ⟨adapter, false, none⟩) with
          claimed := berths.claimed.filter (· ≠ key) }
  /-- A party hands its stake to another one. -/
  | passes {giver taker : Party} {stake : Stake}
      (found : berths.stake? giver = some stake)
      (absent : berths.stake? taker = none) :
      Step berths ((berths.put giver none).put taker (some stake))
  /-- A party without claims goes. -/
  | leaves {party : Party} {adapter : AdapterId}
      (found : berths.stake? party = some ⟨adapter, false, none⟩) :
      Step berths (berths.put party none)
  /-- Adapters in which nobody has a stake come and go. -/
  | shifts {key? : AdapterId → Option String} {device? : AdapterId → Option Nat}
      (keeps : ∀ party stake, berths.stake? party = some stake →
        key? stake.adapter = berths.key? stake.adapter ∧
          device? stake.adapter = berths.device? stake.adapter)
      (alike : ∀ first second device, device? first = some device →
        device? second = some device → key? first = key? second) :
      Step berths { berths with key?, device? }

/-- A step that leaves the stake of a party as it is. -/
theorem Step.still
    {berths : Berths Party}
    {party : Party}
    {stake : Option Stake}
    (found : berths.stake? party = stake) :
    Step berths (berths.put party stake) :=
  (put_eq_self found).symm ▸ .stays

namespace Kept

variable {berths next : Berths Party}

omit [DecidableEq Party] in
/-- Two parties never run sessions on one device. -/
theorem eq_of_runs
    (kept : berths.Kept)
    {first second : Party}
    {left right : Stake}
    {left_handle right_handle : SessionHandle}
    {device : Nat}
    (found_left : berths.stake? first = some left)
    (found_right : berths.stake? second = some right)
    (runs_left : left.runs = some left_handle)
    (runs_right : right.runs = some right_handle)
    (on_left : berths.runs? left_handle.number = some device)
    (on_right : berths.runs? right_handle.number = some device) :
    first = second := by
  obtain ⟨claims_left, _, device_left, runs_left⟩ :=
    kept.afloat first left left_handle found_left runs_left
  obtain ⟨claims_right, _, device_right, runs_right⟩ :=
    kept.afloat second right right_handle found_right runs_right
  obtain rfl := Option.some.inj (runs_left.symm.trans on_left)
  obtain rfl := Option.some.inj (runs_right.symm.trans on_right)
  obtain ⟨key, known⟩ := kept.anchored first left found_left
  have same := kept.alike _ _ _ device_left device_right
  exact kept.exclusive.unique first second key
    ⟨left, found_left, claims_left, known⟩
    ⟨right, found_right, claims_right, same ▸ known⟩

end Kept

section Put

variable {berths : Berths Party} {party other : Party} {key : String}
  {stake : Option Stake}

/-- The others hold what they held. -/
theorem holds_put_of_ne (differs : other ≠ party) :
    (berths.put party stake).Holds other key ↔ berths.Holds other key := by
  unfold Holds
  rw [stake?_put, if_neg differs]
  rfl

/-- A party holds what its stake says. -/
theorem holds_put_self :
    (berths.put party stake).Holds party key ↔
      ∃ present, stake = some present ∧ present.claims = true ∧
        berths.key? present.adapter = some key := by
  unfold Holds
  rw [stake?_put, if_pos rfl]
  rfl

omit [DecidableEq Party] in
/-- A party holds what its stake says. -/
theorem holds_iff_of_stake
    {adapter : AdapterId}
    {claims : Bool}
    {runs : Option SessionHandle}
    (found : berths.stake? party = some ⟨adapter, claims, runs⟩) :
    berths.Holds party key ↔
      claims = true ∧ berths.key? adapter = some key := by
  unfold Holds
  simp [found]

end Put

/-- A stake with the same claim holds the same name. -/
theorem holds_put_congr
    {berths : Berths Party}
    {party : Party}
    {adapter : AdapterId}
    {claims : Bool}
    {before after : Option SessionHandle}
    (found : berths.stake? party = some ⟨adapter, claims, before⟩)
    (other : Party)
    (key : String) :
    (berths.put party (some ⟨adapter, claims, after⟩)).Holds other key ↔
      berths.Holds other key := by
  by_cases same : other = party
  · subst same
    rw [holds_put_self, holds_iff_of_stake found]
    simp
  · exact holds_put_of_ne same

/-- A party without claims can come or go. -/
theorem holds_put_unclaimed
    {berths : Berths Party}
    {party : Party}
    {stake : Option Stake}
    (before : ∀ present, berths.stake? party = some present →
      present.claims = false)
    (after : ∀ present, stake = some present → present.claims = false)
    (other : Party)
    (key : String) :
    (berths.put party stake).Holds other key ↔ berths.Holds other key := by
  by_cases same : other = party
  · subst same
    rw [holds_put_self]
    refine iff_of_false ?_ ?_
    · rintro ⟨present, found, claims, _⟩
      rw [after present found] at claims
      cases claims
    · rintro ⟨present, found, claims, _⟩
      rw [before present found] at claims
      cases claims
  · exact holds_put_of_ne same

namespace Kept

variable {berths next : Berths Party} {party : Party}

/-- A party that runs nothing, before and after. -/
theorem idle
    (kept : berths.Kept)
    {stake : Option Stake}
    {claimed : List String}
    (before : ∀ present, berths.stake? party = some present →
      present.runs = none)
    (after : ∀ present, stake = some present →
      present.runs = none ∧ ∃ key, berths.key? present.adapter = some key)
    (exclusive : Exclusive (berths.put party stake).Holds claimed) :
    Kept { berths.put party stake with claimed } := by
  constructor
  case anchored =>
    intro other present found
    rw [show _ = _ from stake?_put berths party other stake] at found
    split at found
    · exact (after present found).2
    · exact kept.anchored other present found
  case afloat =>
    intro other present handle found runs
    rw [show _ = _ from stake?_put berths party other stake] at found
    split at found
    · rw [(after present found).1] at runs
      cases runs
    · exact kept.afloat other present handle found runs
  case manned =>
    intro number device running
    obtain ⟨other, present, found, runs⟩ := kept.manned number device running
    have differs : other ≠ party := by
      rintro rfl
      rw [before present found] at runs
      cases runs
    refine ⟨other, present, ?_, runs⟩
    exact (stake?_put berths party other stake).trans
      ((if_neg differs).trans found)
  case alike => exact kept.alike
  case exclusive => exact exclusive

/-- The driver starts a session for a party that has claimed its name. -/
theorem launched
    (kept : berths.Kept)
    {adapter : AdapterId}
    {device number : Nat}
    (found : berths.stake? party = some ⟨adapter, true, none⟩)
    (on : berths.device? adapter = some device)
    (fresh : berths.runs? number = none) :
    Kept
      { berths.put party (some ⟨adapter, true, some ⟨number⟩⟩) with
        runs? := Function.update berths.runs? number (some device) } := by
  have stakes := fun other =>
    stake?_put berths party other (some ⟨adapter, true, some ⟨number⟩⟩)
  have runs_other : ∀ other session,
      berths.runs? other = some session →
        Function.update berths.runs? number (some device) other =
          some session := by
    intro other session running
    rw [Function.update_of_ne, running]
    rintro rfl
    rw [fresh] at running
    cases running
  have known : ∃ key, berths.key? adapter = some key :=
    kept.anchored party _ found
  constructor
  case anchored =>
    intro other present seen
    rw [stakes] at seen
    split at seen
    · obtain rfl := Option.some.inj seen
      exact known
    · exact kept.anchored other present seen
  case afloat =>
    intro other present handle seen runs
    rw [stakes] at seen
    split at seen
    · obtain rfl := Option.some.inj seen
      obtain rfl := Option.some.inj runs
      exact ⟨rfl, device, on, Function.update_self _ _ _⟩
    · obtain ⟨claims, target, on', running⟩ :=
        kept.afloat other present handle seen runs
      exact ⟨claims, target, on', runs_other _ _ running⟩
  case manned =>
    intro other target running
    by_cases same : other = number
    · exact ⟨party, _, (stakes party).trans (if_pos rfl), same ▸ rfl⟩
    · have running := (Function.update_of_ne same _ _).symm.trans running
      obtain ⟨holder, present, seen, runs⟩ := kept.manned other target running
      have differs : holder ≠ party := by
        rintro rfl
        obtain rfl := Option.some.inj (seen.symm.trans found)
        cases runs
      exact ⟨holder, present, (stakes holder).trans ((if_neg differs).trans seen),
        runs⟩
  case alike => exact kept.alike
  case exclusive => exact kept.exclusive.of_same (holds_put_congr found)

/-- The driver ends the session of a party. -/
theorem ended
    (kept : berths.Kept)
    {adapter : AdapterId}
    {handle : SessionHandle}
    (found : berths.stake? party = some ⟨adapter, true, some handle⟩) :
    Kept
      { berths.put party (some ⟨adapter, true, none⟩) with
        runs? := Function.update berths.runs? handle.number none } := by
  have stakes := fun other =>
    stake?_put berths party other (some ⟨adapter, true, none⟩)
  obtain ⟨_, device, _, running⟩ := kept.afloat party _ handle found rfl
  have known : ∃ key, berths.key? adapter = some key :=
    kept.anchored party _ found
  constructor
  case anchored =>
    intro other present seen
    rw [stakes] at seen
    split at seen
    · obtain rfl := Option.some.inj seen
      exact known
    · exact kept.anchored other present seen
  case afloat =>
    intro other present own seen runs
    rw [stakes] at seen
    split at seen
    · obtain rfl := Option.some.inj seen
      cases runs
    case isFalse differs =>
      obtain ⟨claims, target, on, running'⟩ :=
        kept.afloat other present own seen runs
      refine ⟨claims, target, on,
        (Function.update_of_ne ?_ _ _).trans running'⟩
      -- One session would be run by two parties.
      intro same
      rw [same] at running'
      obtain rfl := Option.some.inj (running.symm.trans running')
      exact differs (kept.eq_of_runs seen found runs rfl (same ▸ running) running)
  case manned =>
    intro number target running'
    by_cases same : number = handle.number
    · subst same
      cases (Function.update_self _ _ _).symm.trans running'
    · have running' := (Function.update_of_ne same _ _).symm.trans running'
      obtain ⟨holder, present, seen, runs⟩ := kept.manned number target running'
      have differs : holder ≠ party := by
        rintro rfl
        obtain rfl := Option.some.inj (seen.symm.trans found)
        exact same (congrArg SessionHandle.number (Option.some.inj runs)).symm
      exact ⟨holder, present, (stakes holder).trans ((if_neg differs).trans seen),
        runs⟩
  case alike => exact kept.alike
  case exclusive => exact kept.exclusive.of_same (holds_put_congr found)

/-- A party hands its stake to another one. -/
theorem passed
    (kept : berths.Kept)
    {giver taker : Party}
    {stake : Stake}
    (found : berths.stake? giver = some stake)
    (absent : berths.stake? taker = none) :
    ((berths.put giver none).put taker (some stake)).Kept := by
  have differs : giver ≠ taker := by
    rintro rfl
    rw [found] at absent
    cases absent
  have stakes : ∀ other,
      ((berths.put giver none).put taker (some stake)).stake? other =
        if other = taker then some stake
        else if other = giver then none else berths.stake? other := by
    intro other
    rw [stake?_put, stake?_put]
  constructor
  case anchored =>
    intro other present seen
    rw [stakes] at seen
    split at seen
    · obtain rfl := Option.some.inj seen
      exact kept.anchored giver stake found
    · split at seen
      · cases seen
      · exact kept.anchored other present seen
  case afloat =>
    intro other present handle seen runs
    rw [stakes] at seen
    split at seen
    · obtain rfl := Option.some.inj seen
      exact kept.afloat giver stake handle found runs
    · split at seen
      · cases seen
      · exact kept.afloat other present handle seen runs
  case manned =>
    intro number device running
    obtain ⟨holder, present, seen, runs⟩ := kept.manned number device running
    by_cases same : holder = giver
    · subst same
      obtain rfl := Option.some.inj (seen.symm.trans found)
      exact ⟨taker, present, (stakes taker).trans (if_pos rfl), runs⟩
    · have other : holder ≠ taker := by
        rintro rfl
        rw [absent] at seen
        cases seen
      exact ⟨holder, present, (stakes holder).trans
        ((if_neg other).trans ((if_neg same).trans seen)), runs⟩
  case alike => exact kept.alike
  case exclusive =>
    refine kept.exclusive.pass giver taker ?_ ?_
    · rintro key ⟨present, seen, _⟩
      rw [absent] at seen
      cases seen
    · intro other key
      unfold Holds
      rw [stakes]
      by_cases taken : other = taker
      · subst taken
        simp [absent, found, put]
      · by_cases given : other = giver
        · subst given
          simp [taken]
        · simp [taken, given, put]

omit [DecidableEq Party] in
/-- Adapters in which nobody has a stake come and go. -/
theorem shifted
    (kept : berths.Kept)
    {key? : AdapterId → Option String}
    {device? : AdapterId → Option Nat}
    (keeps : ∀ party stake, berths.stake? party = some stake →
      key? stake.adapter = berths.key? stake.adapter ∧
        device? stake.adapter = berths.device? stake.adapter)
    (alike : ∀ first second device, device? first = some device →
      device? second = some device → key? first = key? second) :
    Kept { berths with key?, device? } := by
  constructor
  case anchored =>
    intro other present seen
    obtain ⟨key, known⟩ := kept.anchored other present seen
    exact ⟨key, (keeps other present seen).1.trans known⟩
  case afloat =>
    intro other present handle seen runs
    obtain ⟨claims, device, on, running⟩ :=
      kept.afloat other present handle seen runs
    exact ⟨claims, device, (keeps other present seen).2.trans on, running⟩
  case manned => exact kept.manned
  case alike => exact alike
  case exclusive =>
    refine kept.exclusive.of_same fun other key => ?_
    refine exists_congr fun present => and_congr_right fun seen => ?_
    have same : key? present.adapter = berths.key? present.adapter :=
      (keeps other present seen).1
    exact and_congr_right fun _ => by rw [← same]

/-- Every step keeps names with one party each. -/
theorem step (kept : berths.Kept) (step : Step berths next) : next.Kept := by
  cases step with
  | stays => exact kept
  | joins absent known =>
      exact kept.idle (by simp [absent]) (by simp [known])
        (kept.exclusive.of_same
          (holds_put_unclaimed (by simp [absent]) (by simp)))
  | @claims party adapter key found known free =>
      refine kept.idle (by simp [found]) (by simp [known])
        (kept.exclusive.claim party free fun other held => ?_)
      by_cases same : other = party
      · subst same
        rw [holds_put_self, holds_iff_of_stake found]
        simpa [known] using eq_comm
      · rw [holds_put_of_ne same]
        simp [same]
  | launches found on fresh => exact kept.launched found on fresh
  | ends found => exact kept.ended found
  | @releases party adapter key found known =>
      have holds : ∀ other, berths.Holds party other ↔ other = key := by
        intro other
        rw [holds_iff_of_stake found]
        simpa [known] using eq_comm
      refine kept.idle (by simp [found]) (by simp [known])
        (kept.exclusive.release ((holds key).mpr rfl)
          (fun other => (holds other).mp) fun other held => ?_)
      by_cases same : other = party
      · subst same
        rw [holds_put_self]
        simp
      · rw [holds_put_of_ne same]
        simp [same]
  | passes found absent => exact kept.passed found absent
  | leaves found =>
      exact kept.idle (by simp [found]) (by simp)
        (kept.exclusive.of_same
          (holds_put_unclaimed (by simp [found]) (by simp)))
  | shifts keeps alike => exact kept.shifted keeps alike

end Kept
end Berths
end Host
end VirtualAdapter

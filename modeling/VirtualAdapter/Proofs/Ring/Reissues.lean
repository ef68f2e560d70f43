import Mathlib.Data.Int.CardIntervalMod
import VirtualAdapter.Proofs.Ring.History
import VirtualAdapter.Proofs.Ring.Issued

/-!
# Handles and the allocations of their slots

The allocations of a ring go round its slots, and the generation in a handle is
the number of the round.  So a handle is refused as stale unless its slot was
not allocated since, or so often that the generation has come round as well.
-/

namespace VirtualAdapter
namespace Ring

/-- The handle that a call is given. -/
def Call.handle? : Call → Option SlotHandle
  | .alloc _ | .pop => none
  | .write handle _ | .commit handle | .release handle | .bytes handle
  | .bufferPointer handle | .resolve handle _ _ => some handle

/-- How often a slot was allocated after the allocation at a position. -/
def History.takenSince
    (history : History)
    (index : UInt32)
    (position : Nat) : Nat :=
  (history.allocations.drop (position + 1)).countP (·.handle.index = index)

namespace PacketRing

variable {ring : PacketRing} {history : History}

/-! ## Rounds -/

/-- A place was taken once in each round before that of a position. -/
theorem takings_place
    (nonempty : 0 < ring.capacity)
    (position : Nat) :
    ring.takings (ring.place position) position = position / ring.capacity := by
  have round := Nat.count_modEq_card position nonempty position
  rw [if_neg (Nat.lt_irrefl _), Nat.add_zero] at round
  exact round

/-- The place and the round of a position are in its handle. -/
theorem toNat_issued
    (arranged : Arranged ring)
    (position : Nat) :
    (ring.issued position).index.toNat = position % ring.capacity ∧
      (ring.issued position).generation.toNat =
        (position / ring.capacity + 1) % 2 ^ 32 := by
  constructor
  · exact toNat_ofNat_place arranged.nonempty arranged.addressable position
  · rw [issued, UInt32.toNat_ofNat', takings_succ, if_pos rfl,
      takings_place arranged.nonempty]

/-- Two positions have one handle exactly if they are a multiple of all rounds
that a generation can tell apart from each other. -/
theorem issued_eq_issued_iff
    (arranged : Arranged ring)
    {first second : Nat}
    (ordered : first ≤ second) :
    ring.issued first = ring.issued second ↔
      ring.capacity * 2 ^ 32 ∣ second - first := by
  obtain ⟨first_index, first_generation⟩ := toNat_issued arranged first
  obtain ⟨second_index, second_generation⟩ := toNat_issued arranged second
  have parts : ring.issued first = ring.issued second ↔
      first % ring.capacity = second % ring.capacity ∧
        (first / ring.capacity + 1) % 2 ^ 32 =
          (second / ring.capacity + 1) % 2 ^ 32 := by
    rw [← first_index, ← second_index, ← first_generation, ← second_generation,
      UInt32.toNat_inj, UInt32.toNat_inj, ← SlotHandle.mk.injEq]
  rw [parts, ← Nat.modEq_iff_dvd' ordered, Nat.ModEq, Nat.mod_mul, Nat.mod_mul]
  constructor
  · rintro ⟨place, round⟩
    have round : first / ring.capacity % 2 ^ 32 =
        second / ring.capacity % 2 ^ 32 := by omega
    rw [place, round]
  · intro whole
    have place : first % ring.capacity = second % ring.capacity := by
      have := congrArg (· % ring.capacity) whole
      simpa using this
    rw [place, Nat.add_left_cancel_iff,
      Nat.mul_right_inj arranged.nonempty.ne'] at whole
    exact ⟨place, by omega⟩

/-! ## What every run keeps -/

/-- Every call keeps the count of allocations in the generations. -/
theorem Counted.perform
    (counted : Counted ring)
    (arranged : Arranged ring)
    (call : Call) : Counted (ring.perform call).2 := by
  have done := performed arranged call
  generalize (ring.perform call).1 = answer at done
  generalize (ring.perform call).2 = next at done ⊢
  cases done with
  | alloc length => exact counted.grown length
  | write | commit => exact counted.of_coeval (.changedAt rfl)
  | pop => exact counted.of_coeval (.delivering ring)
  | release =>
      exact counted.of_coeval ((Coeval.changedAt rfl).trans (.reclaim _))
  | refused | nothing | bytes | bufferPointer | resolve => exact counted

theorem Counted.run
    (counted : Counted ring)
    (layout : Layout ring)
    (calls : List Call) : Counted (ring.run calls).2 := by
  induction calls generalizing ring with
  | nil => exact counted
  | cons call rest hypothesis =>
      exact hypothesis (counted.perform layout.toArranged call)
        (layout.perform call)

/-- The allocations of a history were given the handles of their positions. -/
def Numbers (ring : PacketRing) (history : History) : Prop :=
  history.allocations.map (·.handle) = (List.range ring.head).map ring.issued

/-- Noting something about a slot leaves every handle as it was given out. -/
theorem map_handle_onSlot
    (index : UInt32)
    {change : Allocation → Allocation}
    (keeps : ∀ allocation, (change allocation).handle = allocation.handle) :
    (history.onSlot index change).allocations.map (·.handle) =
      history.allocations.map (·.handle) := by
  rw [History.onSlot, List.map_map]
  apply List.map_congr_left
  intro allocation _
  simp only [Function.comp_apply]
  split
  · exact keeps allocation
  · rfl

namespace Numbers

/-- The handles of positions depend on the capacity only. -/
theorem of_same
    {next : PacketRing}
    {later : History}
    (numbers : Numbers ring history)
    (capacity_eq : next.capacity = ring.capacity)
    (head_eq : next.head = ring.head)
    (handles_eq : later.allocations.map (·.handle) =
      history.allocations.map (·.handle)) : Numbers next later := by
  have issued_eq : next.issued = ring.issued :=
    funext (issued_eq_of_capacity_eq capacity_eq)
  rw [Numbers, handles_eq, head_eq, issued_eq]
  exact numbers

/-- The next allocation is given the next handle. -/
theorem grown
    (numbers : Numbers ring history)
    (layout : Layout ring)
    (counted : Counted ring)
    (room : ring.head < ring.tail + ring.capacity)
    (length : Nat) :
    Numbers (ring.grown length)
      { history with
        allocations := history.allocations ++
          [{ handle := (ring.grown length).handleAt ring.head, length }] } := by
  have issued_eq : (ring.grown length).issued = ring.issued :=
    funext (issued_eq_of_capacity_eq (capacity_grown length))
  have given : (ring.grown length).handleAt ring.head = ring.issued ring.head := by
    rw [← issued_eq]
    exact (counted.grown length).handleAt_eq_issued
      (layout.grown room length).toArranged
      (layout.tail_le_read.trans layout.read_le_head) (Nat.lt_succ_self _)
  have head_eq : (ring.grown length).head = ring.head + 1 := rfl
  rw [Numbers, List.map_append, numbers, issued_eq, head_eq, List.range_succ,
    List.map_append, given]
  rfl

theorem perform
    (numbers : Numbers ring history)
    (layout : Layout ring)
    (counted : Counted ring)
    (call : Call) :
    Numbers (ring.perform call).2
      (history.note (call, (ring.perform call).1)) := by
  have done := performed layout.toArranged call
  generalize (ring.perform call).1 = answer at done ⊢
  generalize (ring.perform call).2 = next at done ⊢
  cases done with
  | alloc length room => exact numbers.grown layout counted room length
  | write content names state =>
      refine numbers.of_same (capacity_changedAt _ _) rfl
        (map_handle_onSlot _ fun allocation => ?_)
      unfold Allocation.write
      split <;> rfl
  | commit =>
      exact numbers.of_same (capacity_changedAt _ _) rfl
        (map_handle_onSlot _ fun _ => rfl)
  | pop => exact numbers.of_same capacity_delivering rfl rfl
  | release =>
      exact numbers.of_same (capacity_reclaim.trans (capacity_changedAt _ _))
        rfl (map_handle_onSlot _ fun _ => rfl)
  | refused call => cases call <;> exact numbers
  | nothing | bytes | bufferPointer | resolve => exact numbers

theorem run
    (numbers : Numbers ring history)
    (layout : Layout ring)
    (counted : Counted ring)
    (calls : List Call) :
    Numbers (ring.run calls).2 ((ring.run calls).1.foldl .note history) := by
  induction calls generalizing ring history with
  | nil => exact numbers
  | cons call rest hypothesis =>
      exact hypothesis (numbers.perform layout counted call)
        (layout.perform call) (counted.perform layout.toArranged call)

/-! ## What the handles tell -/

/-- An allocation was given the handle of its position. -/
theorem handle_eq
    (numbers : Numbers ring history)
    {position : Nat}
    {allocation : Allocation}
    (found : history.allocations[position]? = some allocation) :
    position < ring.head ∧ allocation.handle = ring.issued position := by
  have given : ((List.range ring.head).map ring.issued)[position]? =
      some allocation.handle := by
    rw [← numbers, List.getElem?_map, found]
    rfl
  rw [List.getElem?_map, Option.map_eq_some_iff] at given
  obtain ⟨number, present, same⟩ := given
  obtain ⟨inside, rfl⟩ := List.getElem?_eq_some_iff.mp present
  rw [List.length_range] at inside
  rw [List.getElem_range] at same
  exact ⟨inside, same.symm⟩

/-- Among the first allocations a slot occurs as often as it was taken. -/
theorem countP_take
    (numbers : Numbers ring history)
    (arranged : Arranged ring)
    (position : Nat)
    {stop : Nat}
    (before : stop ≤ ring.head) :
    (history.allocations.take stop).countP
        (·.handle.index = (ring.issued position).index) =
      ring.takings (ring.place position) stop := by
  have same : ∀ other, (ring.issued other).index =
      (ring.issued position).index ↔ ring.place other = ring.place position := by
    intro other
    rw [← UInt32.toNat_inj, (toNat_issued arranged other).1,
      (toNat_issued arranged position).1]
    rfl
  have handles : (history.allocations.take stop).map (·.handle) =
      (List.range stop).map ring.issued := by
    rw [List.map_take, numbers, ← List.map_take, List.take_range,
      Nat.min_eq_left before]
  have counted : (history.allocations.take stop).countP
      (·.handle.index = (ring.issued position).index) =
      ((history.allocations.take stop).map (·.handle)).countP
        (·.index = (ring.issued position).index) := by
    rw [List.countP_map]
    rfl
  rw [counted, handles, List.countP_map]
  clear counted handles before
  induction stop with
  | zero => rfl
  | succ stop hypothesis =>
      rw [List.range_succ, List.countP_append, hypothesis, takings_succ]
      simp [List.countP_cons, same]

/-- Since an allocation its slot was taken as often as the ring has taken its
place behind it. -/
theorem takenSince_eq
    (numbers : Numbers ring history)
    (arranged : Arranged ring)
    {position : Nat}
    {allocation : Allocation}
    (found : history.allocations[position]? = some allocation) :
    ring.takings (ring.place position) (position + 1) +
        history.takenSince allocation.handle.index position =
      ring.takings (ring.place position) ring.head := by
  obtain ⟨lt_head, given⟩ := numbers.handle_eq found
  have length : history.allocations.length = ring.head := by
    have := congrArg List.length numbers
    simpa using this
  have whole := numbers.countP_take arranged position (Nat.le_refl ring.head)
  rw [← length, List.take_length, length] at whole
  rw [History.takenSince, given, ← numbers.countP_take arranged position lt_head,
    ← List.countP_append, List.take_append_drop, whole]

end Numbers

/-! ## Stale handles -/

/-- Which calls are refused as stale depends on their handle only. -/
theorem perform_eq_stale_iff
    {call : Call}
    {handle : SlotHandle}
    (given : call.handle? = some handle) :
    (ring.perform call).1 = .refused .staleGeneration ↔
      ring.validate handle = .error .staleGeneration := by
  have checks : ∀ state, ring.check handle state = .error .staleGeneration ↔
      ring.validate handle = .error .staleGeneration := by
    intro state
    unfold check
    split
    case h_1 error refused => simp [refused]
    case h_2 slot valid => split <;> simp [valid]
  cases call with
  | alloc | pop => cases given
  | write other content =>
      obtain rfl := Option.some.inj given
      rw [← checks .allocated, perform, write]
      cases ring.check other .allocated <;> simp [settle]
  | commit other =>
      obtain rfl := Option.some.inj given
      rw [← checks .allocated, perform, commit, transition]
      cases ring.check other .allocated <;> simp [settle]
  | release other =>
      obtain rfl := Option.some.inj given
      rw [← checks .delivered, perform, release, transition]
      cases ring.check other .delivered <;> simp [settle, Except.map]
  | bytes other =>
      obtain rfl := Option.some.inj given
      rw [perform, bytes]
      cases ring.validate other with
      | error error => simp [look, Except.map]
      | ok slot =>
          dsimp only
          split <;> simp [look, Except.map]
  | bufferPointer other =>
      obtain rfl := Option.some.inj given
      rw [perform, bufferPointer]
      cases ring.validate other <;> simp [look, Except.map]
  | resolve other pointer state =>
      obtain rfl := Option.some.inj given
      rw [← checks state, perform, resolve]
      cases ring.check other state with
      | error error => simp [look, Except.map]
      | ok slot =>
          dsimp only
          split <;> simp [look, Except.map]

/-- A handle is stale exactly if its slot has another generation. -/
theorem validate_eq_stale_iff
    {handle : SlotHandle}
    (inside : handle.index.toNat < ring.capacity) :
    ring.validate handle = .error .staleGeneration ↔
      (ring.slot handle.index.toNat).generation ≠ handle.generation := by
  have shown : ring.slots[handle.index.toNat]? =
      some (ring.slot handle.index.toNat) := by
    rw [PacketRing.slot, Array.getD_eq_getD_getElem?,
      Array.getElem?_eq_getElem inside]
    rfl
  rw [validate, shown]
  dsimp only
  split <;> simp_all

/-- The handle of an allocation is stale unless its slot was taken a multiple of
2³² times since. -/
theorem Numbers.validate_eq_stale_iff
    (numbers : Numbers ring history)
    (arranged : Arranged ring)
    (counted : Counted ring)
    {position : Nat}
    {allocation : Allocation}
    (found : history.allocations[position]? = some allocation) :
    ring.validate allocation.handle = .error .staleGeneration ↔
      ¬ 2 ^ 32 ∣ history.takenSince allocation.handle.index position := by
  have since := numbers.takenSince_eq arranged found
  obtain ⟨lt_head, given⟩ := numbers.handle_eq found
  have place_eq : allocation.handle.index.toNat = ring.place position :=
    given ▸ (toNat_issued arranged position).1
  have inside : ring.place position < ring.capacity :=
    place_lt arranged.nonempty position
  have generation : allocation.handle.generation =
      UInt32.ofNat (ring.takings (ring.place position) (position + 1)) := by
    rw [given]
    rfl
  rw [PacketRing.validate_eq_stale_iff (place_eq ▸ inside), place_eq,
    counted _ inside, generation, Ne, ← UInt32.toNat_inj, UInt32.toNat_ofNat',
    UInt32.toNat_ofNat']
  omega

/-- After any calls on a new ring, the allocation at a position was given the
place of the position and the number of its round, in 32 bits.  So two of them
were given one handle exactly if they are a multiple of the capacity times 2³²
apart, and every call with the handle of an allocation is refused as stale
exactly if the slot was not allocated a multiple of 2³² times since. -/
theorem handles_count_allocations
    (capacity : UInt32)
    (power : isPowerOfTwo capacity = true)
    (calls : List Call) :
    let ring := ((ofCapacity capacity).run calls).2
    let history := History.ofLog ((ofCapacity capacity).run calls).1
    (∀ position allocation, history.allocations[position]? = some allocation →
      allocation.handle.index.toNat = position % capacity.toNat ∧
      allocation.handle.generation.toNat =
        (position / capacity.toNat + 1) % 2 ^ 32) ∧
    (∀ first second earlier later, first ≤ second →
      history.allocations[first]? = some earlier →
      history.allocations[second]? = some later →
        (earlier.handle = later.handle ↔
          capacity.toNat * 2 ^ 32 ∣ second - first)) ∧
    ∀ position allocation, history.allocations[position]? = some allocation →
      ∀ call : Call, call.handle? = some allocation.handle →
        ((ring.perform call).1 = .refused .staleGeneration ↔
          ¬ 2 ^ 32 ∣ history.takenSince allocation.handle.index position) := by
  intro ring history
  have start : Layout (ofCapacity capacity) :=
    layout_ofCapacity (Nat.pos_of_isPowerOfTwo (toNat_isPowerOfTwo power))
  obtain ⟨layout, same, _⟩ := start.run calls
  have arranged : Arranged ring := layout.toArranged
  have size : ring.capacity = capacity.toNat := same.trans Array.size_replicate
  have counted : Counted ring := (counted_ofCapacity capacity).run start calls
  have first : Numbers (ofCapacity capacity) {} := rfl
  have numbers : Numbers ring history :=
    first.run start (counted_ofCapacity capacity) calls
  refine ⟨fun position allocation found => ?_,
    fun first second earlier later ordered found_first found_second => ?_,
    fun position allocation found call given => ?_⟩
  · rw [(numbers.handle_eq found).2, ← size]
    exact toNat_issued arranged position
  · rw [(numbers.handle_eq found_first).2, (numbers.handle_eq found_second).2,
      ← size]
    exact issued_eq_issued_iff arranged ordered
  · rw [perform_eq_stale_iff given]
    exact numbers.validate_eq_stale_iff arranged counted found

/-- A ring of two slots, the first of which was given back and taken again: its
second handle has the next generation, every call with the first one is refused
as stale, and the other slot is not concerned. -/
theorem handles_count_allocations_of_two :
    let calls : List Call :=
      [.alloc 3, .alloc 2, .commit ⟨0, 1⟩, .pop, .release ⟨0, 1⟩, .alloc 1]
    let ring := ((ofCapacity 2).run calls).2
    let history := History.ofLog ((ofCapacity 2).run calls).1
    isPowerOfTwo 2 = true ∧
    history.allocations.map (·.handle) = [⟨0, 1⟩, ⟨1, 1⟩, ⟨0, 2⟩] ∧
    (∀ call : Call, call.handle? = some ⟨0, 1⟩ →
      (ring.perform call).1 = .refused .staleGeneration) ∧
    ∀ call : Call, call.handle? = some ⟨1, 1⟩ →
      (ring.perform call).1 ≠ .refused .staleGeneration := by
  intro calls ring history
  obtain ⟨_, _, stale⟩ := handles_count_allocations 2 (by decide) calls
  have once : history.takenSince 0 0 = 1 := rfl
  have never : history.takenSince 1 1 = 0 := rfl
  refine ⟨by decide, rfl, fun call given => ?_, fun call given => ?_⟩
  · apply (stale 0 _ rfl call given).mpr
    change ¬ 2 ^ 32 ∣ history.takenSince 0 0
    rw [once]
    decide
  · apply mt (stale 1 _ rfl call given).mp
    change ¬¬ 2 ^ 32 ∣ history.takenSince 1 1
    rw [never]
    decide

end PacketRing
end Ring
end VirtualAdapter

import VirtualAdapter.Proofs.Ring.History
import VirtualAdapter.Proofs.Ring.Ready
import VirtualAdapter.Proofs.Ring.Restated

/-!
# No slot is lost

The tail stands behind the longest prefix of the allocations that was released.
So a ring is full exactly if a capacity of allocations came after this prefix,
and when everything was committed, delivered and released, in whatever order,
every slot can be allocated again.
-/

namespace VirtualAdapter
namespace Ring

/-- Every call was answered with a handle. -/
def AllHanded (log : List (Call × Answer)) : Prop :=
  ∀ entry ∈ log, ∃ handle, entry.2 = .handle handle

/-- The length of the longest prefix of the allocations that was released. -/
def History.released (history : History) : Nat :=
  (history.allocations.takeWhile (·.freed)).length

namespace PacketRing

variable {ring : PacketRing} {history : History}

theorem run_cons (ring : PacketRing) (call : Call) (rest : List Call) :
    ring.run (call :: rest) =
      ((call, (ring.perform call).1) :: ((ring.perform call).2.run rest).1,
        ((ring.perform call).2.run rest).2) :=
  rfl

/-- Calls after other calls go on from the ring that those left. -/
theorem run_append (ring : PacketRing) (first second : List Call) :
    ring.run (first ++ second) =
      ((ring.run first).1 ++ ((ring.run first).2.run second).1,
        ((ring.run first).2.run second).2) := by
  induction first generalizing ring with
  | nil => rfl
  | cons call rest hypothesis =>
      rw [List.cons_append, run_cons, run_cons, hypothesis]
      rfl

/-! ## The tail and the history -/

namespace Records

/-- The tail has passed the allocations up to the oldest one that was not
released. -/
theorem tail_eq_released
    (records : Records ring history)
    (layout : Layout ring) : ring.tail = history.released := by
  have tail_le := layout.tail_le_read.trans layout.read_le_head
  have passed : ∀ allocation ∈ history.allocations.take ring.tail,
      allocation.freed = true := by
    intro allocation member
    obtain ⟨position, inside, rfl⟩ := List.mem_take_iff_getElem.mp member
    exact (records.past position _ (by omega)
      (List.getElem?_eq_getElem (by omega))).2
  have stops : (history.allocations.drop ring.tail).takeWhile (·.freed) = [] := by
    rw [List.takeWhile_eq_nil_iff]
    intro inside freed
    rw [List.length_drop] at inside
    have found : history.allocations[ring.tail]? =
        some history.allocations[ring.tail] := List.getElem?_eq_getElem (by omega)
    have free := (records.present ring.tail _ (Nat.le_refl _) found).freed_iff.mp
      (by simpa using freed)
    rcases Nat.lt_or_ge ring.tail ring.read with delivered | pending
    · simp [layout.oldest delivered] at free
    · have waits := layout.pending ring.tail pending (records.lt_head found)
      simp [free] at waits
  have bound : ring.tail ≤ history.allocations.length :=
    records.length_eq ▸ tail_le
  rw [History.released,
    ← List.take_append_drop ring.tail history.allocations,
    List.takeWhile_append_of_pos passed, stops, List.append_nil,
    List.length_take, Nat.min_eq_left bound]

/-- An allocation is refused exactly while a capacity of allocations came after
the prefix that was released. -/
theorem alloc_eq_full_iff
    (records : Records ring history)
    (layout : Layout ring)
    (length : Nat) :
    ring.alloc length = .error .full ↔
      history.allocations.length - history.released = ring.capacity := by
  have full : ring.alloc length = .error .full ↔ ring.isFull = true := by
    rw [alloc_eq layout.toArranged]
    split <;> simp_all
  have tail_le := layout.tail_le_read.trans layout.read_le_head
  rw [full, isFull_iff layout.toArranged, records.length_eq,
    ← records.tail_eq_released layout]
  omega

end Records

/-! ## Committing and delivering everything -/

/-- Every slot that is being written can be committed, and then all that wait
can be delivered. -/
theorem Layout.commit_all
    (layout : Layout ring)
    {commits : List SlotHandle}
    (perm : commits.Perm (ring.handlesIn .allocated)) :
    AllDone (ring.run (commits.map .commit)).1 ∧
      Ready (ring.run (commits.map .commit)).2 := by
  obtain ⟨done, restated⟩ := restates_commit.run layout
    (perm.nodup_iff.mpr (nodup_handlesIn layout.addressable)) perm.subset
  obtain ⟨kept, _, _⟩ := layout.run (commits.map .commit)
  refine ⟨done, kept, fun position beyond lt_head => ?_⟩
  have finished := restated.state_ne layout.addressable perm.symm.subset
    (by simp) (restated.capacity_eq ▸ place_lt kept.nonempty position)
  exact (kept.pending position beyond lt_head).resolve_left finished

/-- As many slots as wait can be delivered, one after the other. -/
theorem Ready.run_pops
    (ready : Ready ring)
    {count : Nat}
    (waiting : ring.read + count ≤ ring.head) :
    AllHanded (ring.run (List.replicate count .pop)).1 ∧
      (ring.run (List.replicate count .pop)).2.head = ring.head ∧
      (ring.run (List.replicate count .pop)).2.read = ring.read + count := by
  induction count generalizing ring with
  | zero => exact ⟨fun _ member => (nomatch member), rfl, rfl⟩
  | succ count hypothesis =>
      have behind : ring.read < ring.head := by omega
      have delivered : ring.perform .pop =
          (.handle (ring.handleAt ring.read), ring.delivering) := by
        rw [PacketRing.perform, pop_eq, ready.isDrained_eq_false_iff.mpr behind]
        rfl
      have moved : ring.delivering.read = ring.read + 1 := rfl
      have same : ring.delivering.head = ring.head := rfl
      obtain ⟨handed, head_eq, read_eq⟩ :=
        hypothesis (ready.delivering behind) (by omega)
      rw [List.replicate_succ, run_cons, delivered]
      exact ⟨List.forall_mem_cons.mpr ⟨⟨_, rfl⟩, handed⟩,
        head_eq.trans same, read_eq.trans (by omega)⟩

/-- All slots that wait can be delivered, and then there is nothing more to
deliver. -/
theorem Ready.pop_all (ready : Ready ring) :
    let emptied := ring.run (List.replicate (ring.head - ring.read) .pop)
    AllHanded emptied.1 ∧ emptied.2.read = emptied.2.head ∧
      emptied.2.pop = none := by
  intro emptied
  have read_le := ready.read_le_head
  obtain ⟨handed, head_eq, read_eq⟩ :=
    @Ready.run_pops ring ready (ring.head - ring.read) (by omega)
  have ended : emptied.2.read = emptied.2.head := by
    rw [read_eq, head_eq, Nat.add_sub_cancel' read_le]
  refine ⟨handed, ended, ?_⟩
  simp [pop, isDrained, ended]

/-! ## Releasing and allocating everything -/

/-- When everything was delivered, all that is held can be released, and then
no slot is in use. -/
theorem Layout.release_all
    (layout : Layout ring)
    (same : ring.read = ring.head)
    {releases : List SlotHandle}
    (perm : releases.Perm (ring.handlesIn .delivered)) :
    AllDone (ring.run (releases.map .release)).1 ∧
      (ring.run (releases.map .release)).2.inUse = 0 := by
  obtain ⟨done, restated⟩ := restates_release.run layout
    (perm.nodup_iff.mpr (nodup_handlesIn layout.addressable)) perm.subset
  obtain ⟨last, _, _⟩ := layout.run (releases.map .release)
  refine ⟨done, ?_⟩
  generalize (ring.run (releases.map .release)).2 = released at restated last ⊢
  have passed : ¬ released.tail < released.read := fun behind =>
    restated.state_ne layout.addressable perm.symm.subset (by simp)
      (restated.capacity_eq ▸ place_lt last.nonempty released.tail)
      (last.oldest behind)
  have read_eq := restated.read_eq
  have head_eq := restated.head_eq
  rw [inUse]
  omega

/-- As many slots as are free can be allocated, one after the other. -/
theorem Layout.run_allocs
    (layout : Layout ring)
    {lengths : List Nat}
    (room : ring.head + lengths.length ≤ ring.tail + ring.capacity) :
    AllHanded (ring.run (lengths.map .alloc)).1 ∧
      (ring.run (lengths.map .alloc)).2.head = ring.head + lengths.length ∧
      (ring.run (lengths.map .alloc)).2.tail = ring.tail := by
  induction lengths generalizing ring with
  | nil => exact ⟨fun _ member => (nomatch member), rfl, rfl⟩
  | cons length rest hypothesis =>
      rw [List.length_cons] at room ⊢
      have space : ring.head < ring.tail + ring.capacity := by omega
      have notFull : ring.isFull ≠ true := by
        rw [Ne, isFull_iff layout.toArranged]
        omega
      have allocated : ring.perform (.alloc length) =
          (.handle ((ring.grown length).handleAt ring.head),
            ring.grown length) := by
        rw [PacketRing.perform, alloc_eq layout.toArranged, if_neg notFull]
      have moved : (ring.grown length).head = ring.head + 1 := rfl
      have kept : (ring.grown length).tail = ring.tail := rfl
      have size := @capacity_grown ring length
      obtain ⟨handed, head_eq, tail_eq⟩ :=
        hypothesis (layout.grown space length) (by omega)
      rw [List.map_cons, run_cons, allocated]
      exact ⟨List.forall_mem_cons.mpr ⟨⟨_, rfl⟩, handed⟩,
        head_eq.trans (by omega), tail_eq.trans kept⟩

/-- All slots of an unused ring can be allocated, and then no more. -/
theorem Layout.alloc_all
    (layout : Layout ring)
    (unused : ring.inUse = 0)
    {lengths : List Nat}
    (whole : lengths.length = ring.capacity) :
    AllHanded (ring.run (lengths.map .alloc)).1 ∧
      ∀ length,
        (ring.run (lengths.map .alloc)).2.alloc length = .error .full := by
  have tail_le := layout.tail_le_read.trans layout.read_le_head
  rw [inUse] at unused
  obtain ⟨handed, head_eq, tail_eq⟩ :=
    @Layout.run_allocs ring layout lengths (by omega)
  obtain ⟨filled, same, _⟩ := layout.run (lengths.map .alloc)
  refine ⟨handed, fun length => ?_⟩
  rw [alloc_eq filled.toArranged, if_pos]
  rw [isFull_iff filled.toArranged]
  omega

/-- After any calls on a new ring: releasing distinct handles of delivered slots
succeeds and ends in the same ring in every order, with the tail at the oldest
allocation that was not released.  An allocation is refused as the ring is full
exactly if a capacity of allocations came after the longest prefix of them that
was released.  And when all slots that are being written are committed, all are
delivered and all are released, in any order, no slot is in use, and exactly a
capacity of allocations succeeds. -/
theorem loses_no_slot
    (capacity : UInt32)
    (power : isPowerOfTwo capacity = true)
    (calls : List Call) :
    let fresh := ofCapacity capacity
    let ring := (fresh.run calls).2
    let history := History.ofLog (fresh.run calls).1
    (∀ handles : List SlotHandle, handles.Nodup →
      handles ⊆ ring.handlesIn .delivered →
      ∃ next, ∀ order : List SlotHandle, order.Perm handles →
        AllDone (ring.run (order.map .release)).1 ∧
        (ring.run (order.map .release)).2 = next ∧
        next.tail = (History.ofLog
          (fresh.run (calls ++ order.map .release)).1).released) ∧
    (∀ length, ring.alloc length = .error .full ↔
      history.allocations.length - history.released = capacity.toNat) ∧
    ∀ commits : List SlotHandle, commits.Perm (ring.handlesIn .allocated) →
      let committed := ring.run (commits.map .commit)
      AllDone committed.1 ∧
      ∃ pops,
        let emptied := committed.2.run (List.replicate pops .pop)
        AllHanded emptied.1 ∧ emptied.2.pop = none ∧
        ∀ releases : List SlotHandle,
          releases.Perm (emptied.2.handlesIn .delivered) →
          let released := emptied.2.run (releases.map .release)
          AllDone released.1 ∧ released.2.inUse = 0 ∧
          ∀ lengths : List Nat, lengths.length = capacity.toNat →
            let filled := released.2.run (lengths.map .alloc)
            AllHanded filled.1 ∧
            ∀ length, filled.2.alloc length = .error .full := by
  intro fresh ring history
  have start : Layout fresh :=
    layout_ofCapacity (Nat.pos_of_isPowerOfTwo (toNat_isPowerOfTwo power))
  obtain ⟨layout, same, _⟩ := start.run calls
  have size : ring.capacity = capacity.toNat :=
    same.trans Array.size_replicate
  have records : ∀ calls, Records (fresh.run calls).2
      (History.ofLog (fresh.run calls).1) :=
    (records_ofCapacity capacity).run start
  refine ⟨fun handles distinct present => ?_, fun length => ?_,
    fun commits perm => ?_⟩
  · refine ⟨(ring.run (handles.map .release)).2, fun order perm => ?_⟩
    obtain ⟨done, ends⟩ :=
      restates_release.run_perm layout distinct present perm
    have tail_eq := (records (calls ++ order.map .release)).tail_eq_released
      (start.run _).1
    rw [run_append] at tail_eq ⊢
    exact ⟨done, ends, ends ▸ tail_eq⟩
  · rw [(records calls).alloc_eq_full_iff layout, size]
  · intro committed
    obtain ⟨done, ready⟩ := layout.commit_all perm
    obtain ⟨kept, committed_size, _⟩ := layout.run (commits.map .commit)
    obtain ⟨handed, ended, nothing⟩ := ready.pop_all
    refine ⟨done, committed.2.head - committed.2.read, handed, nothing,
      fun releases perm => ?_⟩
    obtain ⟨held, emptied_size, _⟩ := kept.run
      (List.replicate (committed.2.head - committed.2.read) .pop)
    obtain ⟨freed, unused⟩ := held.release_all ended perm
    obtain ⟨last, released_size, _⟩ := held.run (releases.map .release)
    refine ⟨freed, unused, fun lengths whole => last.alloc_all unused ?_⟩
    rw [whole, released_size, emptied_size, committed_size, size]

/-- A ring of four slots, two of them delivered and one being written: releasing
the newer slot first comes to the same, and in the end four slots can be
allocated. -/
theorem loses_no_slot_of_three :
    let calls : List Call :=
      [.alloc 1, .alloc 2, .alloc 3, .commit ⟨0, 1⟩, .commit ⟨1, 1⟩, .pop,
        .pop]
    let ring := ((ofCapacity 4).run calls).2
    let history := History.ofLog ((ofCapacity 4).run calls).1
    let committed := (ring.run [.commit ⟨2, 1⟩]).2
    isPowerOfTwo 4 = true ∧
    ring.handlesIn .delivered = [⟨0, 1⟩, ⟨1, 1⟩] ∧
    ring.handlesIn .allocated = [⟨2, 1⟩] ∧
    (ring.run [.release ⟨1, 1⟩, .release ⟨0, 1⟩]).2 =
      (ring.run [.release ⟨0, 1⟩, .release ⟨1, 1⟩]).2 ∧
    history.allocations.length - history.released = 3 ∧
    ring.alloc 1 ≠ .error .full ∧
    ∃ pops,
      let emptied := (committed.run (List.replicate pops .pop)).2
      let released :=
        (emptied.run ((emptied.handlesIn .delivered).map .release)).2
      emptied.pop = none ∧ released.inUse = 0 ∧
        AllHanded (released.run ([5, 6, 7, 8].map .alloc)).1 := by
  intro calls ring history committed
  obtain ⟨anyOrder, full, emptying⟩ := loses_no_slot 4 (by decide) calls
  have delivered : ring.handlesIn .delivered = [⟨0, 1⟩, ⟨1, 1⟩] := by decide
  have allocated : ring.handlesIn .allocated = [⟨2, 1⟩] := by decide
  obtain ⟨next, ends⟩ := anyOrder [⟨0, 1⟩, ⟨1, 1⟩] (by decide)
    (delivered ▸ List.Subset.refl _)
  have older := (ends [⟨0, 1⟩, ⟨1, 1⟩] (.refl _)).2.1
  have newer := (ends [⟨1, 1⟩, ⟨0, 1⟩] (.swap _ _ _)).2.1
  have unfilled : history.allocations.length - history.released = 3 := rfl
  obtain ⟨_, pops, _, ended, releasing⟩ :=
    emptying [⟨2, 1⟩] (allocated ▸ .refl _)
  obtain ⟨_, unused, allocating⟩ := releasing _ (.refl _)
  refine ⟨by decide, delivered, allocated, newer.trans older.symm, unfilled,
    fun refused => ?_, pops, ended, unused,
    (allocating [5, 6, 7, 8] rfl).1⟩
  have := unfilled.symm.trans ((full 1).mp refused)
  simp at this

end PacketRing
end Ring
end VirtualAdapter

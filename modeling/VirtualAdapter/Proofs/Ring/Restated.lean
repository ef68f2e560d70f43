import VirtualAdapter.Proofs.Ring.Run

/-!
# Moving several slots on

Committing or releasing many slots comes to the same ring in every order.  Such
a run changes the states of the slots that its handles name and nothing else,
and where the layout holds, the slots and the other two positions determine the
tail.  So the outcome depends on the set of the handles only.
-/

namespace VirtualAdapter
namespace Ring

/-- Every call was carried out. -/
def AllDone (log : List (Call × Answer)) : Prop :=
  ∀ entry ∈ log, entry.2 = .done

namespace PacketRing

/-- The handles of the slots in a state, by place. -/
def handlesIn (ring : PacketRing) (state : SlotState) : List SlotHandle :=
  ((List.range ring.capacity).filter fun index =>
    (ring.slot index).state = state).map fun index =>
      ⟨UInt32.ofNat index, (ring.slot index).generation⟩

/-- A ring differs from another in the states of the slots that some handles
name, and perhaps in its tail. -/
structure Restated
    (ring : PacketRing)
    (handles : List SlotHandle)
    (state : SlotState)
    (next : PacketRing) : Prop where
  /-- The slots are as many. -/
  capacity_eq : next.capacity = ring.capacity
  /-- Nothing was allocated. -/
  head_eq : next.head = ring.head
  /-- Nothing was delivered. -/
  read_eq : next.read = ring.read
  /-- Exactly the slots of the handles changed. -/
  slot_eq : ∀ index, next.slot index =
    if ∃ handle ∈ handles, handle.index.toNat = index then
      { ring.slot index with state }
    else ring.slot index

variable {ring next : PacketRing} {handle : SlotHandle}
  {handles : List SlotHandle} {source target : SlotState}

/-! ## Handles by state -/

/-- The handles of the slots in a state are those that are accepted in it. -/
theorem mem_handlesIn (addressable : ring.capacity ≤ UInt32.size) :
    handle ∈ ring.handlesIn source ↔
      ∃ slot, ring.check handle source = .ok slot := by
  simp only [handlesIn, List.mem_map, List.mem_filter, List.mem_range,
    decide_eq_true_eq, check_eq_ok_iff]
  constructor
  · rintro ⟨index, ⟨inside, state⟩, rfl⟩
    have same : (UInt32.ofNat index).toNat = index :=
      UInt32.toNat_ofNat_of_lt' (by omega)
    exact ⟨_, by simpa [same] using inside, rfl, by simp [same],
      by simpa [same] using state⟩
  · rintro ⟨slot, inside, rfl, current, state⟩
    refine ⟨handle.index.toNat, ⟨inside, state⟩, ?_⟩
    rw [UInt32.ofNat_toNat, current]

/-- No handle is listed twice. -/
theorem nodup_handlesIn (addressable : ring.capacity ≤ UInt32.size) :
    (ring.handlesIn source).Nodup := by
  refine List.Nodup.map_on ?_ (List.nodup_range.filter _)
  intro first first_mem second second_mem same
  have first_lt := List.mem_range.mp (List.mem_filter.mp first_mem).1
  have second_lt := List.mem_range.mp (List.mem_filter.mp second_mem).1
  have equal := congrArg UInt32.toNat (congrArg SlotHandle.index same)
  rwa [UInt32.toNat_ofNat_of_lt' (by omega),
    UInt32.toNat_ofNat_of_lt' (by omega)] at equal

/-- Handles that are accepted in one state and name one slot are the same. -/
theorem eq_of_mem_handlesIn
    (addressable : ring.capacity ≤ UInt32.size)
    {other : SlotHandle}
    (member : handle ∈ ring.handlesIn source)
    (other_mem : other ∈ ring.handlesIn source)
    (same : handle.index = other.index) : handle = other := by
  obtain ⟨_, checked⟩ := (mem_handlesIn addressable).mp member
  obtain ⟨_, other_checked⟩ := (mem_handlesIn addressable).mp other_mem
  obtain ⟨_, rfl, current, _⟩ := check_eq_ok_iff.mp checked
  obtain ⟨_, rfl, other_current, _⟩ := check_eq_ok_iff.mp other_checked
  obtain ⟨index, generation⟩ := handle
  obtain ⟨other_index, other_generation⟩ := other
  simp_all

/-! ## The tail follows from the slots -/

/-- Two rings with the same slots are the same if their heads and read
positions are. -/
theorem Layout.eq_of_slots_eq
    {first second : PacketRing}
    (layout : Layout first)
    (other : Layout second)
    (slots_eq : first.slots = second.slots)
    (head_eq : first.head = second.head)
    (read_eq : first.read = second.read) : first = second := by
  -- A tail behind the other would stand at a slot that is held, but the place of
  -- that slot comes again among the spare ones of the ring that is ahead.
  have stays : ∀ {behind ahead : PacketRing}, Layout behind → Layout ahead →
      behind.slots = ahead.slots → behind.head = ahead.head →
      behind.read = ahead.read → ahead.tail ≤ behind.tail := by
    intro behind ahead held spared same heads reads
    refine Nat.le_of_not_lt fun lt => ?_
    have capacity : behind.capacity = ahead.capacity :=
      congrArg Array.size same
    have delivered := held.oldest
      (lt.trans_le (spared.tail_le_read.trans reads.ge))
    have free := spared.spare (behind.tail + ahead.capacity)
      (by have := held.head_le; omega) (by omega)
    have shown : ahead.slotAt (behind.tail + ahead.capacity) =
        behind.slotAt behind.tail := by
      unfold slotAt place PacketRing.slot PacketRing.capacity
      rw [Nat.add_mod_right, same]
    rw [shown, delivered] at free
    cases free
  have tail_eq : first.tail = second.tail :=
    Nat.le_antisymm
      (stays other layout slots_eq.symm head_eq.symm read_eq.symm)
      (stays layout other slots_eq head_eq read_eq)
  obtain ⟨_, _, _, _⟩ := first
  obtain ⟨_, _, _, _⟩ := second
  simp_all

namespace Restated

/-- Without handles nothing changes. -/
theorem refl (ring : PacketRing) (state : SlotState) :
    Restated ring [] state ring :=
  ⟨rfl, rfl, rfl, fun _ => by simp⟩

/-- The slots of the first handle and of the others change one after the
other. -/
theorem cons
    {last : PacketRing}
    (first : Restated ring [handle] target next)
    (rest : Restated next handles target last) :
    Restated ring (handle :: handles) target last where
  capacity_eq := rest.capacity_eq.trans first.capacity_eq
  head_eq := rest.head_eq.trans first.head_eq
  read_eq := rest.read_eq.trans first.read_eq
  slot_eq := fun index => by
    rw [rest.slot_eq, first.slot_eq]
    simp only [List.mem_cons, List.not_mem_nil, or_false, exists_eq_or_imp,
      exists_eq_left]
    split <;> split <;> simp_all

/-- Which handles are restated matters, and not in which order. -/
theorem unique
    {others : List SlotHandle}
    {last : PacketRing}
    (first : Restated ring handles target next)
    (second : Restated ring others target last)
    (same : ∀ handle, handle ∈ handles ↔ handle ∈ others)
    (layout : Layout next)
    (other : Layout last) : next = last := by
  have capacity := first.capacity_eq.trans second.capacity_eq.symm
  have slots_eq : next.slots = last.slots := by
    refine Array.ext capacity fun index inside other_inside => ?_
    have shown : next.slot index = last.slot index := by
      rw [first.slot_eq, second.slot_eq]
      simp only [same]
    simpa [PacketRing.slot, inside, other_inside] using shown
  exact layout.eq_of_slots_eq other slots_eq
    (first.head_eq.trans second.head_eq.symm)
    (first.read_eq.trans second.read_eq.symm)

/-- After every slot of a state was moved on, none is in it. -/
theorem state_ne
    (restated : Restated ring handles target next)
    (addressable : ring.capacity ≤ UInt32.size)
    (all : ring.handlesIn source ⊆ handles)
    (moved : target ≠ source)
    {index : Nat}
    (inside : index < ring.capacity) : (next.slot index).state ≠ source := by
  rw [restated.slot_eq]
  split
  case isTrue => exact moved
  case isFalse unnamed =>
    intro state
    have same : (UInt32.ofNat index).toNat = index :=
      UInt32.toNat_ofNat_of_lt' (by omega)
    have member : ⟨UInt32.ofNat index, (ring.slot index).generation⟩ ∈
        ring.handlesIn source :=
      List.mem_map.mpr ⟨index, List.mem_filter.mpr
        ⟨List.mem_range.mpr inside, by simpa using state⟩, rfl⟩
    exact unnamed ⟨_, all member, same⟩

/-- Other handles of a state stay in it. -/
theorem mem_handlesIn_of_ne
    (restated : Restated ring [handle] target next)
    (addressable : ring.capacity ≤ UInt32.size)
    {other : SlotHandle}
    (member : handle ∈ ring.handlesIn source)
    (other_mem : other ∈ ring.handlesIn source)
    (distinct : other ≠ handle) : other ∈ next.handlesIn source := by
  have same := restated.capacity_eq
  obtain ⟨_, checked⟩ := (mem_handlesIn addressable).mp other_mem
  obtain ⟨inside, rfl, current, state⟩ := check_eq_ok_iff.mp checked
  have elsewhere : handle.index.toNat ≠ other.index.toNat := fun index =>
    distinct (eq_of_mem_handlesIn addressable other_mem member
      (UInt32.toNat_inj.mp index.symm))
  have kept : next.slot other.index.toNat = ring.slot other.index.toNat := by
    rw [restated.slot_eq, if_neg (by simpa using elsewhere)]
  refine (mem_handlesIn (same ▸ addressable)).mpr ⟨_, check_eq_ok_iff.mpr
    ⟨same ▸ inside, rfl, ?_, ?_⟩⟩
  · rw [kept, current]
  · rw [kept, state]

end Restated

/-! ## One slot moves on -/

/-- A call moves the slot of its handle from one state to another. -/
def Restates
    (call : SlotHandle → Call)
    (source target : SlotState) : Prop :=
  ∀ ring handle, Layout ring → handle ∈ ring.handlesIn source →
    (ring.perform (call handle)).1 = .done ∧
      Restated ring [handle] target (ring.perform (call handle)).2

/-- A slot that is put in with another state is restated. -/
theorem restated_changedAt
    {position : Nat}
    (arranged : Arranged ring)
    (names : ring.Names handle position) :
    Restated ring [handle] target
      (ring.changedAt position fun slot => { slot with state := target }) := by
  refine ⟨capacity_changedAt _ _, rfl, rfl, fun index => ?_⟩
  rw [changedAt, slot_setSlot, names.place_eq]
  have inside : handle.index.toNat < ring.capacity :=
    names.place_eq ▸ place_lt arranged.nonempty position
  by_cases same : index = handle.index.toNat
  · subst same
    simp [inside, slotAt, names.place_eq]
  · simp [same, Ne.symm same]

/-- Committing moves an allocated slot on. -/
theorem restates_commit : Restates .commit .allocated .committed := by
  intro ring handle layout member
  obtain ⟨_, checked⟩ := (mem_handlesIn layout.addressable).mp member
  obtain ⟨position, names, rfl, state⟩ :=
    exists_names_of_check layout.toArranged (by simp) checked
  have committed := (commit_eq_ok_iff layout.toArranged).mpr
    ⟨position, names, state, rfl⟩
  rw [perform, committed]
  exact ⟨rfl, restated_changedAt layout.toArranged names⟩

/-- Releasing frees a delivered slot. -/
theorem restates_release : Restates .release .delivered .free := by
  intro ring handle layout member
  obtain ⟨_, checked⟩ := (mem_handlesIn layout.addressable).mp member
  obtain ⟨position, names, rfl, state⟩ :=
    exists_names_of_check layout.toArranged (by simp) checked
  have released := (release_eq_ok_iff layout.toArranged).mpr
    ⟨position, names, state, rfl⟩
  rw [perform, released]
  have freed := @restated_changedAt _ _ .free _ layout.toArranged names
  exact ⟨rfl, freed.capacity_eq, freed.head_eq, freed.read_eq, freed.slot_eq⟩

/-! ## Many slots move on -/

/-- Distinct slots in one state can all be moved on, one after the other. -/
theorem Restates.run
    {call : SlotHandle → Call}
    (restates : Restates call source target)
    (layout : Layout ring)
    (distinct : handles.Nodup)
    (present : handles ⊆ ring.handlesIn source) :
    AllDone (ring.run (handles.map call)).1 ∧
      Restated ring handles target (ring.run (handles.map call)).2 := by
  induction handles generalizing ring with
  | nil => exact ⟨fun _ member => (nomatch member), .refl ring target⟩
  | cons handle rest hypothesis =>
      obtain ⟨fresh, distinct⟩ := List.nodup_cons.mp distinct
      have here := present List.mem_cons_self
      obtain ⟨done, first⟩ := restates ring handle layout here
      have remaining : rest ⊆
          (ring.perform (call handle)).2.handlesIn source :=
        fun other member => first.mem_handlesIn_of_ne layout.addressable here
          (present (List.mem_cons_of_mem _ member))
          fun same => fresh (same ▸ member)
      obtain ⟨all, restated⟩ :=
        hypothesis (layout.perform (call handle)) distinct remaining
      exact ⟨List.forall_mem_cons.mpr ⟨done, all⟩, first.cons restated⟩

/-- Moving on distinct slots of one state ends in the same ring in every
order. -/
theorem Restates.run_perm
    {call : SlotHandle → Call}
    (restates : Restates call source target)
    (layout : Layout ring)
    (distinct : handles.Nodup)
    (present : handles ⊆ ring.handlesIn source)
    {order : List SlotHandle}
    (perm : order.Perm handles) :
    AllDone (ring.run (order.map call)).1 ∧
      (ring.run (order.map call)).2 = (ring.run (handles.map call)).2 := by
  obtain ⟨done, reordered⟩ := restates.run layout
    (perm.nodup_iff.mpr distinct) (List.Subset.trans perm.subset present)
  obtain ⟨_, restated⟩ := restates.run layout distinct present
  exact ⟨done, reordered.unique restated (fun _ => perm.mem_iff)
    (layout.run _).1 (layout.run _).1⟩

end PacketRing
end Ring
end VirtualAdapter

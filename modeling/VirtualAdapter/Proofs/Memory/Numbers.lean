import VirtualAdapter.Proofs.Memory.Counters
import VirtualAdapter.Proofs.Memory.Registry

/-!
# Numbers are given out once

Devices, handles and sessions draw their numbers from one sequence, and what
has lost its number never has it again.  Interface identifiers come from a
count of the devices that were created, of which they keep the low bits.
-/

namespace VirtualAdapter
namespace Memory

/-- What a number can name. -/
inductive Named
  | device
  | handle
  | session
  deriving DecidableEq

namespace MemoryDriver

/-- Something of a kind has a number. -/
def names (driver : MemoryDriver) : Named → Nat → Prop
  | .device, number => driver.devices.get? number ≠ none
  | .handle, number => driver.adapters.get? number ≠ none
  | .session, number => driver.sessions.get? number ≠ none

/-- A request creates a device. -/
def creates (driver : MemoryDriver) : Request → Bool
  | .createAdapter name tunnelType guid =>
      (createAdapter name tunnelType guid driver).value.isOk
  | _ => false

/-- The number of devices that are created by requests. -/
def creations (driver : MemoryDriver) : List Request → Nat
  | [] => 0
  | request :: requests =>
      (if driver.creates request then 1 else 0) +
        (driver.serve request).creations requests

/-- The numbers that a request gives out: those of its answer, and that of the
device behind a handle that has created it. -/
def newNumbers (driver : MemoryDriver) : Request → List (Named × Nat)
  | .createAdapter name tunnelType guid =>
      let answer := createAdapter name tunnelType guid driver
      match answer.value with
      | .ok handle =>
          ((answer.state.adapters.get? handle.number).toList.map fun entry =>
            (.device, entry.device)) ++ [(.handle, handle.number)]
      | .error _ => []
  | .openAdapter name =>
      match (openAdapter name driver).value with
      | .ok handle => [(.handle, handle.number)]
      | .error _ => []
  | .startSession adapter capacity =>
      match (startSession adapter capacity driver).value with
      | .ok session => [(.session, session.number)]
      | .error _ => []
  | _ => []

/-- The numbers that requests give out, first ones first. -/
def givenNumbers (driver : MemoryDriver) :
    List Request → List (Named × Nat)
  | [] => []
  | request :: requests =>
      driver.newNumbers request ++ (driver.serve request).givenNumbers requests

variable {driver : MemoryDriver}

theorem givenNumbers_append (earlier later : List Request) :
    driver.givenNumbers (earlier ++ later) =
      driver.givenNumbers earlier ++
        (driver.serveAll earlier).givenNumbers later := by
  induction earlier generalizing driver with
  | nil => rfl
  | cons request requests hypothesis =>
      rw [List.cons_append, givenNumbers, hypothesis, givenNumbers,
        List.append_assoc]
      rfl

/-! ## The numbers of one request -/

/-- A device that is created and its first handle have the next two numbers. -/
theorem newNumbers_createAdapter_cases
    (driver : MemoryDriver)
    (name tunnelType : String)
    (guid : Option Guid) :
    (driver.newNumbers (.createAdapter name tunnelType guid) = [] ∧
      driver.creates (.createAdapter name tunnelType guid) = false ∧
      driver.serve (.createAdapter name tunnelType guid) = driver) ∨
    driver.newNumbers (.createAdapter name tunnelType guid) =
        [(.device, driver.lastNumber + 1), (.handle, driver.lastNumber + 2)] ∧
      driver.creates (.createAdapter name tunnelType guid) = true ∧
      driver.serve (.createAdapter name tunnelType guid) =
        (driver.register name guid).noteCall (.create name) := by
  rcases createAdapter_cases driver name tunnelType guid with
    ⟨failure, value, state⟩ | ⟨value, state⟩
  · refine .inl ⟨?_, ?_, state⟩
    · simp only [newNumbers, value]
    · simp only [creates, value]
      rfl
  · refine .inr ⟨?_, ?_, state⟩
    · have opened : ((driver.register name guid).noteCall
          (.create name)).adapters.get? (driver.lastNumber + 2) =
            some ⟨driver.lastNumber + 1, true⟩ :=
        (Table.get?_insert _ _ _ _).trans (if_pos rfl)
      simp only [newNumbers, value, state, opened]
      rfl
    · simp only [creates, value]
      rfl

/-- A request that answers with the handle of a new device creates it. -/
theorem creates_of_value
    {request : Request}
    {handle : AdapterHandle}
    (answered : ∃ name tunnelType guid,
      request = .createAdapter name tunnelType guid ∧
      (createAdapter name tunnelType guid driver).value = .ok handle) :
    driver.creates request = true := by
  obtain ⟨name, tunnelType, guid, rfl, value⟩ := answered
  rw [creates, value]
  rfl

/-- A handle that is opened has the next number. -/
theorem newNumbers_openAdapter_cases (driver : MemoryDriver) (name : String) :
    (driver.newNumbers (.openAdapter name) = [] ∧
      driver.serve (.openAdapter name) = driver) ∨
    ∃ device,
      driver.newNumbers (.openAdapter name) =
        [(.handle, driver.lastNumber + 1)] ∧
      driver.serve (.openAdapter name) = driver.reopened name device := by
  rcases openAdapter_cases driver name with
    ⟨failure, value, state⟩ | ⟨device, _, value, state⟩
  · exact .inl ⟨by simp only [newNumbers, value], state⟩
  · exact .inr ⟨device, by simp only [newNumbers, value], state⟩

/-- A session that is started has the next number. -/
theorem newNumbers_startSession_cases
    (driver : MemoryDriver)
    (adapter : AdapterHandle)
    (capacity : UInt32) :
    (driver.newNumbers (.startSession adapter capacity) = [] ∧
      driver.serve (.startSession adapter capacity) = driver) ∨
    ∃ device,
      driver.newNumbers (.startSession adapter capacity) =
        [(.session, driver.lastNumber + 1)] ∧
      driver.serve (.startSession adapter capacity) =
        driver.started device capacity := by
  rcases startSession_cases driver adapter capacity with
    ⟨failure, value, state⟩ | ⟨entry, _, _, value, state⟩
  · exact .inl ⟨by simp only [newNumbers, value], state⟩
  · exact .inr ⟨entry.device, by simp only [newNumbers, value], state⟩

/-- A request without a number in its answer has taken none. -/
theorem lastNumber_serve_of_nothing
    {request : Request}
    (nothing : driver.newNumbers request = []) :
    (driver.serve request).lastNumber = driver.lastNumber := by
  have served := driver.served request
  generalize state : driver.serve request = next at served ⊢
  cases served with
  | noted _ alike => exact alike.lastNumber
  | deleted _ _ alike => exact alike.lastNumber
  | ended _ alike => exact alike.lastNumber
  | created name tunnelType guid =>
      rcases newNumbers_createAdapter_cases driver name tunnelType guid with
        ⟨_, _, same⟩ | ⟨two, _⟩
      · exact congrArg lastNumber (state.symm.trans same)
      · cases nothing.symm.trans two
  | @opened name =>
      rcases newNumbers_openAdapter_cases driver name with
        ⟨_, same⟩ | ⟨_, one, _⟩
      · exact congrArg lastNumber (state.symm.trans same)
      · cases nothing.symm.trans one
  | @started handle capacity =>
      rcases newNumbers_startSession_cases driver handle capacity with
        ⟨_, same⟩ | ⟨_, one, _⟩
      · exact congrArg lastNumber (state.symm.trans same)
      · cases nothing.symm.trans one
  | closed | emptied | turned | signalled => rfl

/-- The numbers that a request gives out are the next ones. -/
theorem newNumbers_eq (driver : MemoryDriver) (request : Request) :
    ∃ count, (driver.serve request).lastNumber = driver.lastNumber + count ∧
      (driver.newNumbers request).map (·.2) =
        List.range' (driver.lastNumber + 1) count ∧
      count ≤ 2 := by
  have none_given : ∀ {other : Request}, driver.newNumbers other = [] →
      ∃ count, (driver.serve other).lastNumber = driver.lastNumber + count ∧
        (driver.newNumbers other).map (·.2) =
          List.range' (driver.lastNumber + 1) count ∧
        count ≤ 2 := by
    intro other nothing
    exact ⟨0, lastNumber_serve_of_nothing nothing, by rw [nothing]; rfl,
      Nat.zero_le 2⟩
  cases request with
  | createAdapter name tunnelType guid =>
      rcases newNumbers_createAdapter_cases driver name tunnelType guid with
        ⟨nothing, _⟩ | ⟨two, _, made⟩
      · exact none_given nothing
      · exact ⟨2, by rw [made]; rfl, by rw [two]; rfl, Nat.le_refl 2⟩
  | openAdapter name =>
      rcases newNumbers_openAdapter_cases driver name with
        ⟨nothing, _⟩ | ⟨_, one, made⟩
      · exact none_given nothing
      · exact ⟨1, by rw [made]; rfl, by rw [one]; rfl, Nat.le_succ 1⟩
  | startSession adapter capacity =>
      rcases newNumbers_startSession_cases driver adapter capacity with
        ⟨nothing, _⟩ | ⟨_, one, made⟩
      · exact none_given nothing
      · exact ⟨1, by rw [made]; rfl, by rw [one]; rfl, Nat.le_succ 1⟩
  | _ => exact none_given rfl

/-- The numbers that requests give out are the next ones, each of them once. -/
theorem givenNumbers_eq (driver : MemoryDriver) (requests : List Request) :
    ∃ count, (driver.serveAll requests).lastNumber =
        driver.lastNumber + count ∧
      (driver.givenNumbers requests).map (·.2) =
        List.range' (driver.lastNumber + 1) count ∧
      count ≤ 2 * requests.length := by
  induction requests generalizing driver with
  | nil => exact ⟨0, rfl, rfl, Nat.zero_le _⟩
  | cons request requests hypothesis =>
      obtain ⟨first, moved, given, few⟩ := driver.newNumbers_eq request
      obtain ⟨later, last, rest, bound⟩ := hypothesis (driver.serve request)
      refine ⟨first + later, ?_, ?_, ?_⟩
      · exact last.trans (by omega)
      · rw [givenNumbers, List.map_append, given, rest, moved,
          Nat.add_right_comm, List.range'_append_1]
      · rw [List.length_cons]
        omega

/-! ## What has a number -/

/-- A handle that is open after a request was so before, or has been given
out. -/
theorem handle_serve_cases
    {request : Request}
    {number : Nat}
    {entry : OpenHandle}
    (found : (driver.serve request).adapters.get? number = some entry) :
    driver.adapters.get? number = some entry ∨
      (Named.handle, number) ∈ driver.newNumbers request := by
  have served := driver.served request
  generalize state : driver.serve request = next at served found
  cases served with
  | noted _ alike => exact .inl (alike.adapters ▸ found)
  | deleted _ _ alike => exact .inl (alike.adapters ▸ found)
  | ended _ alike => exact .inl (alike.adapters ▸ found)
  | created name tunnelType guid =>
      rcases newNumbers_createAdapter_cases driver name tunnelType guid with
        ⟨_, _, same⟩ | ⟨two, _⟩
      · rw [← state, same] at found
        exact .inl found
      · change (driver.adapters.insert _ _).get? number = _ at found
        rw [Table.get?_insert] at found
        split at found
        case isTrue new =>
          rw [two, new]
          exact .inr (.tail _ (.head _))
        case isFalse => exact .inl found
  | @opened name =>
      rcases newNumbers_openAdapter_cases driver name with
        ⟨_, same⟩ | ⟨_, one, _⟩
      · rw [← state, same] at found
        exact .inl found
      · change (driver.adapters.insert _ _).get? number = _ at found
        rw [Table.get?_insert] at found
        split at found
        case isTrue new =>
          rw [one, new]
          exact .inr (.head _)
        case isFalse => exact .inl found
  | closed => exact .inl (Table.of_get?_erase found).2
  | started | emptied | turned | signalled => exact .inl found

/-- What has a number after a request had it before, or has been given it. -/
theorem names_serve_cases
    {request : Request}
    {kind : Named}
    {number : Nat}
    (known : (driver.serve request).names kind number) :
    driver.names kind number ∨ (kind, number) ∈ driver.newNumbers request := by
  cases kind with
  | device =>
      obtain ⟨device, found⟩ := Option.ne_none_iff_exists'.mp known
      rcases identifiers_serve_cases found with
        ⟨earlier, before, _⟩ | ⟨rfl, ⟨name, tunnelType, guid, rfl, value⟩, _⟩
      · exact .inl (Option.ne_none_iff_exists'.mpr ⟨earlier, before⟩)
      · rcases newNumbers_createAdapter_cases driver name tunnelType guid with
          ⟨_, refused, _⟩ | ⟨two, _⟩
        · rw [creates_of_value ⟨_, _, _, rfl, value⟩] at refused
          cases refused
        · rw [two]
          exact .inr (.head _)
  | handle =>
      obtain ⟨entry, found⟩ := Option.ne_none_iff_exists'.mp known
      exact (handle_serve_cases found).imp_left fun before =>
        Option.ne_none_iff_exists'.mpr ⟨entry, before⟩
  | session =>
      obtain ⟨running, found⟩ := Option.ne_none_iff_exists'.mp known
      rcases session_serve_cases found with
        ⟨earlier, before, _⟩ | ⟨handle, capacity, _, rfl, _, value, _⟩
      · exact .inl (Option.ne_none_iff_exists'.mpr ⟨earlier, before⟩)
      · refine .inr ?_
        simp only [newNumbers, value]
        exact .head _

/-- What has a number after requests had it before, or has been given it. -/
theorem names_serveAll_cases
    {requests : List Request}
    {kind : Named}
    {number : Nat}
    (known : (driver.serveAll requests).names kind number) :
    driver.names kind number ∨
      (kind, number) ∈ driver.givenNumbers requests := by
  induction requests generalizing driver with
  | nil => exact .inl known
  | cons request requests hypothesis =>
      rw [givenNumbers, List.mem_append]
      rcases hypothesis known with before | given
      · exact (names_serve_cases before).imp_right .inl
      · exact .inr (.inr given)

/-- What is gone after requests to a new driver does not come back. -/
theorem names_of_serveAll_append
    {version : DriverVersion}
    {slotBudget : Option Nat}
    {first second third : List Request}
    {kind : Named}
    {number : Nat}
    (before : ((fresh version slotBudget).serveAll first).names kind number)
    (after : ((fresh version slotBudget).serveAll
      (first ++ second ++ third)).names kind number) :
    ((fresh version slotBudget).serveAll (first ++ second)).names
      kind number := by
  rw [serveAll_append] at after
  rcases names_serveAll_cases after with between | again
  · exact between
  · -- Then the number has been given out twice.
    have once : (kind, number) ∈
        (fresh version slotBudget).givenNumbers (first ++ second) := by
      rw [givenNumbers_append]
      refine List.mem_append_left _ ?_
      rcases names_serveAll_cases before with known | given
      · cases kind <;> exact absurd rfl known
      · exact given
    obtain ⟨count, _, given, _⟩ :=
      (fresh version slotBudget).givenNumbers_eq (first ++ second ++ third)
    have apart : (((fresh version slotBudget).givenNumbers
        (first ++ second ++ third)).map (·.2)).Nodup := by
      rw [given]
      exact List.nodup_range'
    rw [givenNumbers_append, List.map_append] at apart
    exact absurd rfl ((List.nodup_append.mp apart).2.2 number
      (List.mem_map_of_mem once) number (List.mem_map_of_mem again))

/-! ## Interface identifiers -/

/-- The index counts the devices that were created. -/
theorem lastIndex_serve (driver : MemoryDriver) (request : Request) :
    (driver.serve request).lastIndex =
      driver.lastIndex + if driver.creates request then 1 else 0 := by
  cases request with
  | createAdapter name tunnelType guid =>
      rcases newNumbers_createAdapter_cases driver name tunnelType guid with
        ⟨_, refused, same⟩ | ⟨_, created, made⟩
      · rw [refused, same]
        rfl
      · rw [created, made]
        rfl
  | startSession adapter capacity =>
      rcases newNumbers_startSession_cases driver adapter capacity with
        ⟨_, same⟩ | ⟨_, _, made⟩
      · rw [same]
        rfl
      · rw [made]
        rfl
  | endSession session =>
      change (endSession session driver).state.lastIndex = driver.lastIndex
      cases found : driver.sessions.get? session.number with
      | none => exact (countsAlike_endSession_of_unknown found).lastIndex
      | some entry => exact (countsAlike_endSession found).lastIndex
  | _ =>
      exact (driver.countsAlike_serve (by simp) (by simp) (by simp)).lastIndex

theorem lastIndex_serveAll (driver : MemoryDriver) (requests : List Request) :
    (driver.serveAll requests).lastIndex =
      driver.lastIndex + driver.creations requests := by
  induction requests generalizing driver with
  | nil => rfl
  | cons request requests hypothesis =>
      change ((driver.serve request).serveAll requests).lastIndex = _
      rw [hypothesis, lastIndex_serve, creations, Nat.add_assoc]

theorem creations_le (driver : MemoryDriver) (requests : List Request) :
    driver.creations requests ≤ requests.length := by
  induction requests generalizing driver with
  | nil => exact Nat.le_refl 0
  | cons request requests hypothesis =>
      have := hypothesis (driver.serve request)
      rw [creations, List.length_cons]
      split <;> omega

/-- Devices have the interface identifiers of their places among those that
were created, and these are different while the places fit. -/
structure Indexed (driver : MemoryDriver) : Prop where
  /-- Identifiers are those of places that were given out. -/
  placed : ∀ number device, driver.devices.get? number = some device →
    ∃ index, 0 < index ∧ index ≤ driver.lastIndex ∧ device.luid = luidOf index
  /-- No identifier is that of two devices. -/
  apart : driver.lastIndex ≤ 2 ^ 24 → ∀ first second left right,
    driver.devices.get? first = some left →
    driver.devices.get? second = some right →
    left.luid = right.luid → first = second

namespace Indexed

theorem serve (indexed : Indexed driver) (request : Request) :
    Indexed (driver.serve request) := by
  have counted := driver.lastIndex_serve request
  constructor
  case placed =>
    intro number device found
    rcases identifiers_serve_cases found with
      ⟨earlier, before, _, same⟩ | ⟨_, created, same, _⟩
    · obtain ⟨index, positive, given, placed⟩ :=
        indexed.placed number earlier before
      exact ⟨index, positive, by omega, same.trans placed⟩
    · rw [creates_of_value created, if_pos rfl] at counted
      exact ⟨driver.lastIndex + 1, Nat.succ_pos _, counted.ge, same⟩
  case apart =>
    intro few first second left right found_first found_second same
    have fewer : driver.lastIndex ≤ 2 ^ 24 := by omega
    -- A device that was there before does not have the identifier of a new one.
    have contrary : ∀ {number : Nat} {earlier : Device},
        driver.devices.get? number = some earlier →
        driver.creates request = true →
        earlier.luid ≠ luidOf (driver.lastIndex + 1) := by
      intro number earlier before created equal
      obtain ⟨index, positive, given, placed⟩ :=
        indexed.placed number earlier before
      rw [created, if_pos rfl] at counted
      have := Luid.ofParts_inj positive (Nat.succ_pos driver.lastIndex)
        (given.trans fewer) (counted.ge.trans few) (placed.symm.trans equal)
      omega
    rcases identifiers_serve_cases found_first with
        ⟨former, before_first, _, luid_first⟩ |
        ⟨new_first, created_first, luid_first, _⟩ <;>
      rcases identifiers_serve_cases found_second with
        ⟨latter, before_second, _, luid_second⟩ |
        ⟨new_second, created_second, luid_second, _⟩
    · exact indexed.apart fewer first second former latter before_first
        before_second (luid_first.symm.trans (same.trans luid_second))
    · exact absurd (luid_first.symm.trans (same.trans luid_second))
        (contrary before_first (creates_of_value created_second))
    · exact absurd (luid_second.symm.trans (same.symm.trans luid_first))
        (contrary before_second (creates_of_value created_first))
    · exact new_first.trans new_second.symm

theorem serveAll
    (indexed : Indexed driver)
    (requests : List Request) : Indexed (driver.serveAll requests) :=
  serveAll_keeps (fun _ => Indexed.serve) indexed requests

end Indexed

theorem indexed_fresh (version : DriverVersion) (slotBudget : Option Nat) :
    Indexed (fresh version slotBudget) :=
  ⟨fun _ _ present => by simp [fresh] at present,
    fun _ _ _ _ _ present => by simp [fresh] at present⟩

/-! ## How many there can be -/

/-- A request opens one handle at most. -/
theorem size_adapters_serve_le
    (registry : Registry driver)
    (request : Request) :
    (driver.serve request).adapters.size ≤ driver.adapters.size + 1 := by
  have served := driver.served request
  generalize driver.serve request = next at served
  cases served with
  | noted _ alike => exact (congrArg Table.size alike.adapters).le.trans (by omega)
  | deleted _ _ alike =>
      exact (congrArg Table.size alike.adapters).le.trans (Nat.le_succ _)
  | ended _ alike =>
      exact (congrArg Table.size alike.adapters).le.trans (Nat.le_succ _)
  | created =>
      exact (Table.size_insert_of_absent
        (registry.get?_adapters_of_lt (by omega)) _).le
  | opened =>
      exact (Table.size_insert_of_absent
        (registry.get?_adapters_of_lt (by omega)) _).le
  | closed found =>
      have := registry.tallied.proper.size_erase found
      change (driver.adapters.erase _).size ≤ _
      omega
  | started | emptied | turned | signalled => exact Nat.le_succ _

theorem size_adapters_serveAll_le
    (registry : Registry driver)
    (requests : List Request) :
    (driver.serveAll requests).adapters.size ≤
      driver.adapters.size + requests.length := by
  induction requests generalizing driver with
  | nil => exact Nat.le_refl _
  | cons request requests hypothesis =>
      have first := size_adapters_serve_le registry request
      have rest := hypothesis (registry.serve request)
      change ((driver.serve request).serveAll requests).adapters.size ≤ _
      rw [List.length_cons]
      omega

/-! ## Whole runs -/

/-- What is registered is in order. -/
structure InOrder (driver : MemoryDriver) : Prop where
  /-- Devices have different names, whatever the case of their letters. -/
  name_apart : ∀ first second left right,
    driver.devices.get? first = some left →
    driver.devices.get? second = some right →
    sameName left.name right.name = true → first = second
  /-- Devices that ask for identifiers ask for different ones. -/
  guid_apart : ∀ first second left right guid,
    driver.devices.get? first = some left →
    driver.devices.get? second = some right →
    left.guid = some guid → right.guid = some guid → first = second
  /-- No handle is counted twice. -/
  proper : driver.adapters.IsProper
  /-- A device counts the open handles that name it. -/
  handles_eq : ∀ number device, driver.devices.get? number = some device →
    device.handles = handlesOn driver.adapters number
  /-- The handle that is closed is one of those that are counted. -/
  handles_pos : ∀ handle entry device,
    driver.adapters.get? handle = some entry →
    driver.devices.get? entry.device = some device → 0 < device.handles
  /-- A device registers a session exactly if that session runs on it. -/
  session_iff : ∀ number device session,
    driver.devices.get? number = some device →
    (device.session = some session ↔
      ∃ running, driver.sessions.get? session = some running ∧
        running.device = number)
  /-- A device has an open handle or a session. -/
  used : ∀ number device, driver.devices.get? number = some device →
    (∃ handle entry, driver.adapters.get? handle = some entry ∧
      entry.device = number) ∨
    ∃ session running, driver.sessions.get? session = some running ∧
      running.device = number
  /-- A device is registered with a driver that is installed only. -/
  installed : ∀ number device, driver.devices.get? number = some device →
    driver.installed = true

theorem Registry.inOrder (registry : Registry driver) : InOrder driver where
  name_apart := registry.apart
  guid_apart := registry.guid_apart
  proper := registry.tallied.proper
  handles_eq := registry.tallied.handles_eq
  handles_pos := fun handle entry device opened found => by
    rw [registry.tallied.handles_eq entry.device device found]
    exact handlesOn_pos opened
  session_iff := fun number device session found => by
    constructor
    · exact registry.runs number device session found
    · rintro ⟨running, runs, rfl⟩
      exact registry.owned session running device runs found
  used := fun number device found => by
    rcases registry.tallied.used number device found with held | active
    · rw [registry.tallied.handles_eq number device found] at held
      obtain ⟨entry, member, names⟩ :=
        List.countP_pos_iff.mp (Nat.pos_of_ne_zero held)
      obtain ⟨handle, opened⟩ :=
        registry.tallied.proper.mem_values_iff.mp member
      exact .inl ⟨handle, entry, opened, of_decide_eq_true names⟩
    · obtain ⟨session, equal⟩ := Option.isSome_iff_exists.mp active
      exact .inr ⟨session, registry.runs number device session found equal⟩
  installed := registry.installed


/-- After fewer than 2^32 requests to a new driver, what is registered is in
order.  Every number has been given out once, to what has it, and nothing that
lost its number has it again.  Up to 2^24 devices have different interface
identifiers, and no number, index or count has left its width. -/
theorem inOrder_serveAll
    (version : DriverVersion)
    (slotBudget : Option Nat)
    (requests : List Request)
    (few : requests.length < 2 ^ 32) :
    let start := fresh version slotBudget
    let driver := start.serveAll requests
    InOrder driver ∧
    ((start.givenNumbers requests).map (·.2)).Nodup ∧
    (∀ kind number, driver.names kind number →
      (kind, number) ∈ start.givenNumbers requests) ∧
    (∀ first second third kind number, requests = first ++ second ++ third →
      (start.serveAll first).names kind number → driver.names kind number →
        (start.serveAll (first ++ second)).names kind number) ∧
    (start.creations requests ≤ 2 ^ 24 → ∀ first second left right,
      driver.devices.get? first = some left →
      driver.devices.get? second = some right →
      left.luid = right.luid → first = second) ∧
    driver.lastNumber < 2 ^ 64 ∧
    driver.lastIndex < 2 ^ 32 ∧
    ∀ number device, driver.devices.get? number = some device →
      device.handles < 2 ^ 32 := by
  intro start driver
  have registry : Registry driver :=
    (registry_fresh version slotBudget).serveAll requests
  have indexed : Indexed driver :=
    (indexed_fresh version slotBudget).serveAll requests
  have index_eq : driver.lastIndex = 0 + start.creations requests :=
    start.lastIndex_serveAll requests
  have created := start.creations_le requests
  obtain ⟨count, last, given, drawn⟩ := start.givenNumbers_eq requests
  refine ⟨registry.inOrder, ?_, ?_, ?_, ?_, ?_, by omega, ?_⟩
  · rw [given]
    exact List.nodup_range'
  · intro kind number known
    rcases names_serveAll_cases known with before | drawn
    · cases kind <;> exact absurd rfl before
    · exact drawn
  · rintro first second third kind number same before after
    change (start.serveAll requests).names kind number at after
    rw [same] at after
    exact names_of_serveAll_append before after
  · intro fits
    exact indexed.apart (by omega)
  · change driver.lastNumber = 0 + count at last
    omega
  · intro number device found
    have opened := size_adapters_serveAll_le
      (registry_fresh version slotBudget) requests
    change driver.adapters.size ≤ 0 + requests.length at opened
    have counted : handlesOn driver.adapters number ≤ driver.adapters.size :=
      List.countP_le_length.trans_eq (List.length_map _)
    rw [registry.tallied.handles_eq number device found]
    omega

/-- Two devices are created, the first one is opened once more, takes a session
and is closed by its creator: it stays, with the session and a handle, and with
an interface identifier of its own. -/
theorem inOrder_serveAll_of_two :
    let requests : List Request :=
      [.createAdapter "x" "t" (some (.ofNat 7)), .openAdapter "X",
        .createAdapter "y" "t" none, .startSession ⟨3⟩ 4, .closeAdapter ⟨2⟩]
    let start := fresh defaultVersion none
    let driver := start.serveAll requests
    InOrder driver ∧
      start.givenNumbers requests = [(.device, 1), (.handle, 2), (.handle, 3),
        (.device, 4), (.handle, 5), (.session, 6)] ∧
      ∃ first second, driver.devices.get? 1 = some first ∧
        driver.devices.get? 4 = some second ∧ first.handles = 1 ∧
        first.session = some 6 ∧ first.luid ≠ second.luid := by
  intro requests start driver
  obtain ⟨inOrder, _, _, _, apart, _⟩ :=
    inOrder_serveAll defaultVersion none requests (by decide)
  have shown_first : (driver.devices.get? 1).map
      (fun device => (device.handles, device.session)) = some (1, some 6) := by
    decide +kernel
  have shown_second : (driver.devices.get? 4).isSome = true := by
    decide +kernel
  obtain ⟨first, found_first, parts⟩ := Option.map_eq_some_iff.mp shown_first
  obtain ⟨second, found_second⟩ := Option.isSome_iff_exists.mp shown_second
  refine ⟨inOrder, by decide +kernel, first, second, found_first, found_second,
    congrArg Prod.fst parts, congrArg Prod.snd parts, fun same => ?_⟩
  have one := apart (by decide +kernel) 1 4 first second found_first
    found_second same
  cases one

end MemoryDriver
end Memory
end VirtualAdapter

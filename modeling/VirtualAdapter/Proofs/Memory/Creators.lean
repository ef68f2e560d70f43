import VirtualAdapter.Proofs.Memory.Registry

/-!
# Devices and the handles of their creators

A device is registered while the handle is open that has created it.  When that
handle is closed while no session runs on the device, the device goes with it.
When it is closed under a session, the device is left to whoever uses it: it
stays while a session runs on it or any handle of it is open.
-/

namespace VirtualAdapter
namespace Memory
namespace MemoryDriver

/-! ## Who uses a device -/

section Uses

variable (driver : MemoryDriver) (device : Nat)

/-- A device is registered. -/
def Registered : Prop :=
  ∃ entry, driver.devices.get? device = some entry

/-- A handle of a device is open. -/
def HandleOpen : Prop :=
  ∃ handle entry, driver.adapters.get? handle = some entry ∧
    entry.device = device

/-- The handle that has created a device is open. -/
def CreatorOpen : Prop :=
  ∃ handle entry, driver.adapters.get? handle = some entry ∧
    entry.created = true ∧ entry.device = device

/-- A session runs on a device. -/
def SessionRuns : Prop :=
  ∃ number running, driver.sessions.get? number = some running ∧
    running.device = device

/-- A request closes the handle that has created a device, while a session runs
on the device. -/
def ClosesUnder (request : Request) : Prop :=
  ∃ handle entry, request = .closeAdapter handle ∧
    driver.adapters.get? handle.number = some entry ∧
    entry.created = true ∧ entry.device = device ∧ driver.SessionRuns device

/-- One of the requests to a driver closes the handle that has created a device,
while a session runs on the device. -/
def ClosedUnder (requests : List Request) : Prop :=
  ∃ earlier request later, requests = earlier ++ request :: later ∧
    (driver.serveAll earlier).ClosesUnder device request

end Uses

variable
  {driver next : MemoryDriver}
  {device : Nat}

theorem CreatorOpen.handleOpen
    (creator : driver.CreatorOpen device) : driver.HandleOpen device := by
  obtain ⟨handle, entry, found, _, own⟩ := creator
  exact ⟨handle, entry, found, own⟩

/-- Sessions are on the same devices. -/
theorem sessionRuns_congr
    (same : ∀ number, (next.sessions.get? number).map (·.device) =
      (driver.sessions.get? number).map (·.device))
    (device : Nat) : next.SessionRuns device ↔ driver.SessionRuns device := by
  have reading (driver : MemoryDriver) : driver.SessionRuns device ↔
      ∃ number, (driver.sessions.get? number).map (·.device) = some device :=
    exists_congr fun _ => Option.map_eq_some_iff.symm
  rw [reading, reading]
  simp only [same]

namespace Registry

variable (registry : Registry driver)

include registry

/-- A registered device counts a handle exactly if one is open. -/
theorem handles_ne_zero_iff
    {entry : Device}
    (found : driver.devices.get? device = some entry) :
    entry.handles ≠ 0 ↔ driver.HandleOpen device := by
  rw [registry.tallied.handles_eq device entry found, ← Nat.pos_iff_ne_zero]
  constructor
  · intro counted
    obtain ⟨opened, member, own⟩ := List.countP_pos_iff.mp counted
    obtain ⟨handle, present⟩ := registry.tallied.proper.mem_values_iff.mp member
    exact ⟨handle, opened, present, of_decide_eq_true own⟩
  · rintro ⟨handle, opened, present, rfl⟩
    exact handlesOn_pos present

/-- A registered device knows a session exactly if one runs on it. -/
theorem isSome_session_iff
    {entry : Device}
    (found : driver.devices.get? device = some entry) :
    entry.session.isSome = true ↔ driver.SessionRuns device := by
  constructor
  · intro active
    obtain ⟨session, runs⟩ := Option.isSome_iff_exists.mp active
    obtain ⟨running, known, own⟩ := registry.runs device entry session found runs
    exact ⟨session, running, known, own⟩
  · rintro ⟨session, running, known, rfl⟩
    rw [registry.owned session running entry known found]
    rfl

/-- Closing a handle takes its device away, unless a session runs on it or
another handle of it is open that did not create it. -/
theorem registered_closed_iff
    {handle : Nat}
    {entry : OpenHandle}
    (opened : driver.adapters.get? handle = some entry)
    (device : Nat) :
    (driver.closed handle entry).Registered device ↔
      driver.Registered device ∧
        (device = entry.device → driver.SessionRuns device ∨
          entry.created = false ∧
            (driver.closed handle entry).HandleOpen device) := by
  have after : Registry (driver.closed handle entry) := by
    have served := registry.serve (.closeAdapter ⟨handle⟩)
    change Registry (closeAdapter ⟨handle⟩ driver).state at served
    rwa [state_closeAdapter opened] at served
  have devices := @get?_devicesWithout_eq driver entry device
  change (driver.closed handle entry).devices.get? device = _ at devices
  by_cases own : device = entry.device
  case neg => simp only [Registered, devices, own, if_false, false_imp_iff, and_true]
  case pos =>
    rw [if_pos own] at devices
    unfold Registered
    rw [devices]
    constructor
    · rintro ⟨left, kept⟩
      obtain ⟨before, found, stays⟩ := Option.bind_eq_some_iff.mp kept
      refine ⟨⟨before, found⟩, fun _ => ?_⟩
      rw [← registry.isSome_session_iff found]
      by_cases active : before.session.isSome = true
      · exact .inl active
      · refine .inr ⟨?_, ?_⟩
        · cases created : entry.created with
          | false => rfl
          | true => simp [withoutHandle, created, active] at stays
        · have held := (eq_of_withoutHandle stays).2.resolve_right active
          obtain ⟨rfl, _⟩ := eq_of_withoutHandle stays
          exact (after.handles_ne_zero_iff (devices.trans kept)).mp held
    · rintro ⟨⟨before, found⟩, used⟩
      rw [found, Option.bind_some]
      suffices stays : ¬ ((entry.created || before.handles - 1 == 0) &&
          !before.session.isSome) = true by
        rw [withoutHandle, if_neg stays]
        exact ⟨_, rfl⟩
      rcases used own with active | ⟨opens, held⟩
      · simp [(registry.isSome_session_iff found).mpr active]
      · intro gone
        -- A handle that is still open is counted, so one is left.
        obtain ⟨other, opening, present, aimed⟩ := held
        have counted := handlesOn_pos present
        have total := handlesOn_erase registry.tallied.proper opened device
        rw [← registry.tallied.handles_eq device before found, if_pos own.symm]
          at total
        change 0 < handlesOn (driver.adapters.erase handle) opening.device
          at counted
        rw [aimed] at counted
        simp only [opens, Bool.false_or, Bool.and_eq_true, beq_iff_eq] at gone
        omega

/-- The end of a session takes its device away, unless a handle of it is
open. -/
theorem registered_dismissed_iff
    (number : Nat)
    (running : RunningSession)
    (device : Nat) :
    (driver.dismissed number running).Registered device ↔
      driver.Registered device ∧
        (device = running.device → driver.HandleOpen device) := by
  have devices := @get?_devicesAfter_eq driver running device
  change (driver.dismissed number running).devices.get? device = _ at devices
  by_cases own : device = running.device
  case neg => simp only [Registered, devices, own, if_false, false_imp_iff, and_true]
  case pos =>
    rw [if_pos own] at devices
    unfold Registered
    rw [devices]
    constructor
    · rintro ⟨left, kept⟩
      obtain ⟨before, found, stays⟩ := Option.bind_eq_some_iff.mp kept
      exact ⟨⟨before, found⟩, fun _ =>
        (registry.handles_ne_zero_iff found).mp (eq_of_withoutSession stays).2⟩
    · rintro ⟨⟨before, found⟩, used⟩
      rw [found, Option.bind_some, withoutSession,
        if_neg ((registry.handles_ne_zero_iff found).mpr (used own))]
      exact ⟨_, rfl⟩

end Registry

/-! ## What every request keeps -/

/-- Devices are registered while their creators' handles are open, and those
that were left by them while they are used. -/
structure Kept (driver : MemoryDriver) (left : Nat → Prop) : Prop where
  /-- A device has one handle that has created it. -/
  one_creator : ∀ first second entry other,
    driver.adapters.get? first = some entry →
    driver.adapters.get? second = some other →
    entry.created = true → other.created = true →
    entry.device = other.device → first = second
  /-- While that handle is open, the device is registered. -/
  of_creator : ∀ device, driver.CreatorOpen device → driver.Registered device
  /-- Devices that were left have been given numbers. -/
  left_le : ∀ device, left device → device ≤ driver.lastNumber
  /-- The handle that has created a device that was left is closed. -/
  creator_closed : ∀ device, left device → ¬ driver.CreatorOpen device
  /-- A device that was left is registered while it is used. -/
  of_left : ∀ device, left device →
    driver.HandleOpen device ∨ driver.SessionRuns device →
      driver.Registered device
  /-- No other device is registered. -/
  creator_or_left : ∀ device, driver.Registered device →
    driver.CreatorOpen device ∨ left device

namespace Kept

variable {left : Nat → Prop}

/-- Nothing has changed about devices and handles, or which sessions run on
which devices. -/
theorem of_same
    (kept : Kept driver left)
    (devices : next.devices = driver.devices)
    (adapters : next.adapters = driver.adapters)
    (lastNumber : next.lastNumber = driver.lastNumber)
    (sessions : ∀ number, (next.sessions.get? number).map (·.device) =
      (driver.sessions.get? number).map (·.device)) : Kept next left := by
  have runs := sessionRuns_congr sessions
  constructor
  case one_creator => rw [adapters]; exact kept.one_creator
  case left_le => rw [lastNumber]; exact kept.left_le
  all_goals
    simp only [Registered, HandleOpen, CreatorOpen, devices, adapters, runs]
  · exact kept.of_creator
  · exact kept.creator_closed
  · exact kept.of_left
  · exact kept.creator_or_left

/-- A new device is registered, and its creator's handle is open. -/
theorem registered
    (kept : Kept driver left)
    (agreed : Agreed driver)
    (name : String)
    (guid : Option Guid) : Kept (driver.register name guid) left := by
  have devices := fun number => Table.get?_insert driver.devices
    (driver.lastNumber + 1) number
    { name, luid := .ofParts (UInt32.ofNat (driver.lastIndex + 1))
        Luid.virtualInterface, guid, handles := 1, session := none }
  have adapters := fun handle => Table.get?_insert driver.adapters
    (driver.lastNumber + 2) handle ⟨driver.lastNumber + 1, true⟩
  change ∀ number, (driver.register name guid).devices.get? number = _ at devices
  change ∀ handle, (driver.register name guid).adapters.get? handle = _ at adapters
  -- A handle is the new one, on the new device, or it was open before.
  have cases {handle : Nat} {entry : OpenHandle}
      (found : (driver.register name guid).adapters.get? handle = some entry) :
      (handle = driver.lastNumber + 2 ∧ entry.device = driver.lastNumber + 1) ∨
        driver.adapters.get? handle = some entry ∧
          entry.device ≤ driver.lastNumber := by
    rw [adapters] at found
    split at found
    case isTrue new =>
      obtain rfl := Option.some.inj found
      exact .inl ⟨new, rfl⟩
    case isFalse => exact .inr ⟨found, (agreed.handle_le handle entry found).2⟩
  constructor
  case one_creator =>
    intro first second entry other found present made created same
    rcases cases found with ⟨new, on⟩ | ⟨before, old⟩ <;>
      rcases cases present with ⟨newer, onto⟩ | ⟨earlier, older⟩
    · exact new.trans newer.symm
    · omega
    · omega
    · exact kept.one_creator first second entry other before earlier made created
        same
  case of_creator =>
    rintro device ⟨handle, entry, found, created, rfl⟩
    unfold Registered
    rw [devices]
    rcases cases found with ⟨_, on⟩ | ⟨before, old⟩
    · exact ⟨_, if_pos on⟩
    · rw [if_neg (by omega)]
      exact kept.of_creator _ ⟨handle, entry, before, created, rfl⟩
  case left_le => exact fun device was => (kept.left_le device was).trans (Nat.le_add_right _ 2)
  case creator_closed =>
    rintro device was ⟨handle, entry, found, created, rfl⟩
    have known := kept.left_le _ was
    rcases cases found with ⟨_, on⟩ | ⟨before, _⟩
    · omega
    · exact kept.creator_closed _ was ⟨handle, entry, before, created, rfl⟩
  case of_left =>
    rintro device was used
    have known := kept.left_le _ was
    have before : driver.HandleOpen device ∨ driver.SessionRuns device := by
      refine used.imp_left ?_
      rintro ⟨handle, entry, found, rfl⟩
      rcases cases found with ⟨_, on⟩ | ⟨before, _⟩
      · omega
      · exact ⟨handle, entry, before, rfl⟩
    unfold Registered
    rw [devices, if_neg (by omega)]
    exact kept.of_left device was before
  case creator_or_left =>
    rintro device ⟨entry, found⟩
    rw [devices] at found
    split at found
    case isTrue new =>
      exact .inl ⟨driver.lastNumber + 2, ⟨driver.lastNumber + 1, true⟩,
        (adapters _).trans (if_pos rfl), rfl, new.symm⟩
    case isFalse =>
      refine (kept.creator_or_left device ⟨entry, found⟩).imp_left ?_
      rintro ⟨handle, opened, present, made⟩
      have := (agreed.handle_le handle opened present).1
      exact ⟨handle, opened, ((adapters _).trans (if_neg (by omega))).trans present,
        made⟩

/-- A device that is opened once more was registered, and stays so. -/
theorem reopened
    (kept : Kept driver left)
    (agreed : Agreed driver)
    (name : String)
    {target : Nat}
    (known : driver.Registered target) :
    Kept (driver.reopened name target) left := by
  have registered (device : Nat) :
      (driver.reopened name target).Registered device ↔
        driver.Registered device := by
    have devices : (driver.reopened name target).devices.get? device = _ :=
      Table.get?_update driver.devices target device fun entry =>
        { entry with handles := entry.handles + 1 }
    unfold Registered
    rw [devices]
    split
    case isTrue same => simp [same]
    case isFalse => rfl
  have adapters (handle : Nat) :
      (driver.reopened name target).adapters.get? handle = _ :=
    Table.get?_insert driver.adapters (driver.lastNumber + 1) handle
      ⟨target, false⟩
  have creator (device : Nat) :
      (driver.reopened name target).CreatorOpen device ↔
        driver.CreatorOpen device := by
    constructor
    · rintro ⟨handle, entry, found, created, own⟩
      rw [adapters] at found
      split at found
      case isTrue =>
        obtain rfl := Option.some.inj found
        cases created
      case isFalse => exact ⟨handle, entry, found, created, own⟩
    · rintro ⟨handle, entry, found, made⟩
      have := (agreed.handle_le handle entry found).1
      exact ⟨handle, entry, ((adapters _).trans (if_neg (by omega))).trans found,
        made⟩
  constructor
  case one_creator =>
    intro first second entry other found present made created same
    rw [adapters] at found present
    split at found
    case isTrue =>
      obtain rfl := Option.some.inj found
      cases made
    case isFalse =>
      split at present
      case isTrue =>
        obtain rfl := Option.some.inj present
        cases created
      case isFalse =>
        exact kept.one_creator first second entry other found present made
          created same
  case of_creator =>
    intro device
    rw [registered, creator]
    exact kept.of_creator device
  case left_le => exact fun device was => Nat.le_succ_of_le (kept.left_le device was)
  case creator_closed =>
    intro device was
    rw [creator]
    exact kept.creator_closed device was
  case of_left =>
    intro device was used
    rw [registered]
    rcases used with ⟨handle, entry, found, own⟩ | runs
    · rw [adapters] at found
      split at found
      case isTrue =>
        obtain rfl := Option.some.inj found
        exact own ▸ known
      case isFalse => exact kept.of_left device was (.inl ⟨handle, entry, found, own⟩)
    · exact kept.of_left device was (.inr runs)
  case creator_or_left =>
    intro device
    rw [registered, creator]
    exact kept.creator_or_left device

/-- A device whose creator's handle is closed goes, unless a session runs on it;
then it is left. -/
theorem closed
    (kept : Kept driver left)
    (registry : Registry driver)
    {handle : AdapterHandle}
    {entry : OpenHandle}
    (opened : driver.adapters.get? handle.number = some entry) :
    Kept (driver.closed handle.number entry) fun device =>
      left device ∨ driver.ClosesUnder device (.closeAdapter handle) := by
  have adapters (other : Nat) (present : OpenHandle)
      (found : (driver.closed handle.number entry).adapters.get? other =
        some present) :
      other ≠ handle.number ∧ driver.adapters.get? other = some present :=
    Table.of_get?_erase found
  have creator (device : Nat)
      (creates : (driver.closed handle.number entry).CreatorOpen device) :
      driver.CreatorOpen device ∧
        (device = entry.device → entry.created = false) := by
    obtain ⟨other, present, found, made, own⟩ := creates
    obtain ⟨differs, before⟩ := adapters other present found
    refine ⟨⟨other, present, before, made, own⟩, fun same => ?_⟩
    by_contra created
    rw [Bool.not_eq_false] at created
    exact differs (kept.one_creator other _ present entry before opened made
      created (own.trans same))
  have under (device : Nat)
      (closes : driver.ClosesUnder device (.closeAdapter handle)) :
      entry.created = true ∧ entry.device = device ∧
        driver.SessionRuns device := by
    obtain ⟨other, present, same, found, made, own, runs⟩ := closes
    obtain rfl := Request.closeAdapter.inj same
    obtain rfl := Option.some.inj (opened.symm.trans found)
    exact ⟨made, own, runs⟩
  constructor
  case one_creator =>
    intro first second before after found present
    exact kept.one_creator first second before after
      (adapters first before found).2 (adapters second after present).2
  case of_creator =>
    intro device creates
    obtain ⟨before, uncreated⟩ := creator device creates
    exact (registry.registered_closed_iff opened device).mpr
      ⟨kept.of_creator device before, fun own =>
        .inr ⟨uncreated own, creates.handleOpen⟩⟩
  case left_le =>
    rintro device (was | closes)
    · exact kept.left_le device was
    · exact (under device closes).2.1 ▸ (registry.handle_le _ _ opened).2
  case creator_closed =>
    rintro device (was | closes) creates
    · exact kept.creator_closed device was (creator device creates).1
    · obtain ⟨made, own, _⟩ := under device closes
      cases made.symm.trans ((creator device creates).2 own.symm)
  case of_left =>
    intro device was used
    have before : driver.HandleOpen device ∨ driver.SessionRuns device :=
      used.imp_left fun ⟨other, present, found, own⟩ =>
        ⟨other, present, (adapters other present found).2, own⟩
    refine (registry.registered_closed_iff opened device).mpr ⟨?_, fun own => ?_⟩
    · rcases was with was | closes
      · exact kept.of_left device was before
      · obtain ⟨made, own, _⟩ := under device closes
        exact kept.of_creator device ⟨_, entry, opened, made, own⟩
    · rcases was with was | closes
      · rcases used with held | runs
        · refine .inr ⟨?_, held⟩
          by_contra made
          rw [Bool.not_eq_false] at made
          exact kept.creator_closed device was ⟨_, entry, opened, made, own.symm⟩
        · exact .inl runs
      · exact .inl (under device closes).2.2
  case creator_or_left =>
    intro device present
    obtain ⟨before, used⟩ := (registry.registered_closed_iff opened device).mp present
    rcases kept.creator_or_left device before with
      ⟨other, creating, found, made, own⟩ | was
    · by_cases same : other = handle.number
      · subst same
        obtain rfl := Option.some.inj (opened.symm.trans found)
        have runs := (used own.symm).resolve_right fun ⟨uncreated, _⟩ => by
          cases made.symm.trans uncreated
        exact .inr (.inr ⟨handle, entry, rfl, opened, made, own, runs⟩)
      · exact .inl ⟨other, creating, (Table.get?_erase _ _ _).trans
          ((if_neg same).trans found), made, own⟩
    · exact .inr (.inl was)

/-- A session is started on a device of which a handle is open. -/
theorem launched
    (kept : Kept driver left)
    {handle : Nat}
    {entry : OpenHandle}
    (opened : driver.adapters.get? handle = some entry)
    (capacity : UInt32) : Kept (driver.launch entry.device capacity) left := by
  have registered (device : Nat) :
      (driver.launch entry.device capacity).Registered device ↔
        driver.Registered device := by
    have devices : (driver.launch entry.device capacity).devices.get? device = _ :=
      Table.get?_update driver.devices entry.device device fun entry =>
        { entry with session := some (driver.lastNumber + 1) }
    unfold Registered
    rw [devices]
    split
    case isTrue same => simp [same]
    case isFalse => rfl
  constructor
  case one_creator => exact kept.one_creator
  case of_creator =>
    intro device
    rw [registered]
    exact kept.of_creator device
  case left_le => exact fun device was => Nat.le_succ_of_le (kept.left_le device was)
  case creator_closed => exact kept.creator_closed
  case of_left =>
    intro device was used
    rw [registered]
    refine kept.of_left device was ?_
    rcases used with held | ⟨number, running, found, rfl⟩
    · exact .inl held
    · change (driver.sessions.insert _ _).get? number = _ at found
      rw [Table.get?_insert] at found
      split at found
      case isTrue =>
        obtain rfl := Option.some.inj found
        exact .inl ⟨handle, entry, opened, rfl⟩
      case isFalse => exact .inr ⟨number, running, found, rfl⟩
  case creator_or_left =>
    intro device
    rw [registered]
    exact kept.creator_or_left device

/-- A device goes with its session if no handle of it is open. -/
theorem dismissed
    (kept : Kept driver left)
    (registry : Registry driver)
    {number : Nat}
    {running : RunningSession}
    (found : driver.sessions.get? number = some running) :
    Kept (driver.dismissed number running) left := by
  constructor
  case one_creator => exact kept.one_creator
  case of_creator =>
    intro device creates
    exact (registry.registered_dismissed_iff number running device).mpr
      ⟨kept.of_creator device creates, fun _ => creates.handleOpen⟩
  case left_le => exact kept.left_le
  case creator_closed => exact kept.creator_closed
  case of_left =>
    intro device was used
    have before : driver.HandleOpen device ∨ driver.SessionRuns device :=
      used.imp_right fun ⟨other, session, present, on⟩ =>
        ⟨other, session, (Table.of_get?_erase present).2, on⟩
    have stood := kept.of_left device was before
    refine (registry.registered_dismissed_iff number running device).mpr
      ⟨stood, fun own => used.resolve_right ?_⟩
    -- Two sessions on one registered device are the same.
    rintro ⟨other, session, present, on⟩
    obtain ⟨entry, registered⟩ := stood
    obtain ⟨differs, known⟩ := Table.of_get?_erase present
    have first := registry.owned number running entry found (own ▸ registered)
    have second := registry.owned other session entry known (on.symm ▸ registered)
    exact differs (Option.some.inj (second.symm.trans first))
  case creator_or_left =>
    intro device present
    exact kept.creator_or_left device
      ((registry.registered_dismissed_iff number running device).mp present).1

/-- Every request keeps it, and leaves a device if it closes the handle of its
creator under a session. -/
theorem serve
    (kept : Kept driver left)
    (registry : Registry driver)
    (request : Request) :
    Kept (driver.serve request) fun device =>
      left device ∨ driver.ClosesUnder device request := by
  by_cases closes : ∃ handle entry, request = .closeAdapter handle ∧
      driver.adapters.get? handle.number = some entry
  case pos =>
    obtain ⟨handle, entry, rfl, opened⟩ := closes
    change Kept (closeAdapter handle driver).state _
    rw [state_closeAdapter opened]
    exact kept.closed registry opened
  case neg =>
    have same : (fun device => left device ∨
        driver.ClosesUnder device request) = left := by
      funext device
      refine propext (or_iff_left ?_)
      rintro ⟨handle, entry, asked, opened, _⟩
      exact closes ⟨handle, entry, asked, opened⟩
    rw [same]
    have served := driver.served request
    generalize driver.serve request = next at served
    cases served with
    | noted _ alike =>
        exact kept.of_same alike.devices alike.adapters alike.lastNumber
          fun _ => by rw [alike.sessions]
    | deleted _ _ alike =>
        exact kept.of_same alike.devices alike.adapters alike.lastNumber
          fun _ => by rw [alike.sessions]
    | emptied | signalled => exact kept.of_same rfl rfl rfl fun _ => rfl
    | created name _ guid =>
        exact (kept.registered registry.toAgreed name guid).of_same rfl rfl rfl
          fun _ => rfl
    | opened found =>
        obtain ⟨target, registered, _⟩ := registry.exists_of_deviceNamed? found
        exact kept.reopened registry.toAgreed _ ⟨target, registered⟩
    | closed opened => exact absurd ⟨_, _, rfl, opened⟩ closes
    | @started _ capacity _ _ opened =>
        exact (kept.launched opened capacity).of_same rfl rfl rfl fun _ => rfl
    | ended found alike =>
        exact (kept.dismissed registry found).of_same alike.devices
          alike.adapters alike.lastNumber fun _ => by rw [alike.sessions]
    | @turned _ number entry changed _ found turned =>
        refine kept.of_same rfl rfl rfl fun other => ?_
        change ((driver.sessions.insert number changed).get? other).map _ = _
        rw [Table.get?_insert]
        split
        case isTrue same =>
          rw [same, found, Option.map_some, turned.device_eq]
          rfl
        case isFalse => rfl

end Kept

theorem kept_fresh (version : DriverVersion) (slotBudget : Option Nat) :
    Kept (fresh version slotBudget) fun _ => False where
  one_creator := fun _ _ _ _ present => by simp [fresh] at present
  of_creator := fun _ ⟨_, _, present, _⟩ => by simp [fresh] at present
  left_le := fun _ => False.elim
  creator_closed := fun _ => False.elim
  of_left := fun _ => False.elim
  creator_or_left := fun _ ⟨_, present⟩ => by simp [fresh] at present

/-! ## Whole runs -/

/-- A device is left by the last request or by one before it. -/
theorem closedUnder_concat
    (requests : List Request)
    (request : Request)
    (device : Nat) :
    driver.ClosedUnder device (requests ++ [request]) ↔
      driver.ClosedUnder device requests ∨
        (driver.serveAll requests).ClosesUnder device request :=
  exists_split_concat requests request

/-- Requests keep it, whatever they are. -/
theorem kept_serveAll
    (version : DriverVersion)
    (slotBudget : Option Nat)
    (requests : List Request) :
    Kept ((fresh version slotBudget).serveAll requests) fun device =>
      (fresh version slotBudget).ClosedUnder device requests := by
  induction requests using List.reverseRecOn with
  | nil =>
      have none : (fun device => (fresh version slotBudget).ClosedUnder device
          []) = fun _ => False := by
        funext device
        refine eq_false ?_
        rintro ⟨earlier, request, later, equal, _⟩
        simp at equal
      rw [none]
      exact kept_fresh version slotBudget
  | append_singleton requests request hypothesis =>
      have registry := (registry_fresh version slotBudget).serveAll requests
      simp only [closedUnder_concat, serveAll_concat]
      exact hypothesis.serve registry request

namespace Kept

variable
  {left : Nat → Prop}
  (kept : Kept driver left)
  (registry : Registry driver)

include kept registry

/-- A device is registered exactly while its creator's handle is open or, after
that was closed under a session, while it is used. -/
theorem registered_iff (device : Nat) :
    driver.Registered device ↔ driver.CreatorOpen device ∨
      left device ∧ (driver.HandleOpen device ∨ driver.SessionRuns device) := by
  constructor
  · intro registered
    refine (kept.creator_or_left device registered).imp_right fun was => ⟨was, ?_⟩
    obtain ⟨entry, found⟩ := registered
    rw [← registry.handles_ne_zero_iff found, ← registry.isSome_session_iff found]
    exact registry.tallied.used device entry found
  · rintro (creator | ⟨was, used⟩)
    · exact kept.of_creator device creator
    · exact kept.of_left device was used

/-- A device is registered exactly while its creator's handle is open or a
session runs on it, unless one runs on it that is gone, or none runs and other
handles keep it. -/
theorem registered_iff_used_iff (device : Nat) :
    (driver.Registered device ↔
        driver.CreatorOpen device ∨ driver.SessionRuns device) ↔
      (driver.SessionRuns device → driver.Registered device) ∧
        ¬ (left device ∧ driver.HandleOpen device ∧
          ¬ driver.SessionRuns device) := by
  constructor
  · refine fun law => ⟨fun runs => law.mpr (.inr runs), ?_⟩
    rintro ⟨was, held, idle⟩
    rcases law.mp (kept.of_left device was (.inl held)) with creator | runs
    · exact kept.creator_closed device was creator
    · exact idle runs
  · rintro ⟨stands, settled⟩
    constructor
    · intro registered
      refine ((kept.registered_iff registry device).mp registered).imp_right ?_
      rintro ⟨was, held | runs⟩
      · by_contra idle
        exact settled ⟨was, held, idle⟩
      · exact runs
    · rintro (creator | runs)
      · exact kept.of_creator device creator
      · exact stands runs

/-- Closing its creator's handle leaves a device only to a session. -/
theorem registered_closeAdapter_iff
    {handle : AdapterHandle}
    {entry : OpenHandle}
    (opened : driver.adapters.get? handle.number = some entry)
    (created : entry.created = true) :
    (closeAdapter handle driver).state.Registered entry.device ↔
      driver.SessionRuns entry.device := by
  rw [state_closeAdapter opened, registry.registered_closed_iff opened]
  have registered := kept.of_creator entry.device
    ⟨handle.number, entry, opened, created, rfl⟩
  constructor
  · rintro ⟨_, used⟩
    refine (used rfl).resolve_right ?_
    rintro ⟨uncreated, _⟩
    cases created.symm.trans uncreated
  · exact fun runs => ⟨registered, fun _ => .inl runs⟩

/-- Once its creator's handle is closed, the end of a session leaves a device
only to other handles. -/
theorem registered_endSession_iff
    {handle : SessionHandle}
    {running : RunningSession}
    (found : driver.sessions.get? handle.number = some running)
    (closed : ¬ driver.CreatorOpen running.device) :
    (endSession handle driver).state.Registered running.device ↔
      left running.device ∧ driver.HandleOpen running.device := by
  have alike := (alike_endSession found).devices
  have same : (endSession handle driver).state.Registered running.device ↔
      (driver.dismissed handle.number running).Registered running.device := by
    unfold Registered
    rw [alike]
  rw [same, registry.registered_dismissed_iff]
  constructor
  · rintro ⟨registered, held⟩
    exact ⟨(kept.creator_or_left _ registered).resolve_left closed, held rfl⟩
  · rintro ⟨was, held⟩
    exact ⟨kept.of_left _ was (.inl held), fun _ => held⟩

end Kept

/-- The sessions on devices that are gone were started after that. -/
theorem not_startedAstray_on_iff
    (version : DriverVersion)
    (slotBudget : Option Nat)
    (requests : List Request)
    (device : Nat) :
    let driver := (fresh version slotBudget).serveAll requests
    (¬ ∃ number running,
        driver.sessions.get? number = some running ∧ running.device = device ∧
          StartedAstray (fresh version slotBudget) requests number) ↔
      (driver.SessionRuns device → driver.Registered device) := by
  intro driver
  have gone_iff {number : Nat} {running : RunningSession}
      (found : driver.sessions.get? number = some running) :
      driver.devices.get? running.device = none ↔
        StartedAstray (fresh version slotBudget) requests number :=
    get?_device_eq_none_iff version slotBudget requests found
  constructor
  · rintro known ⟨number, running, found, rfl⟩
    refine Option.ne_none_iff_exists'.mp fun absent => ?_
    exact known ⟨number, running, found, rfl, (gone_iff found).mp absent⟩
  · rintro stands ⟨number, running, found, rfl, started⟩
    obtain ⟨entry, registered⟩ := stands ⟨number, running, found, rfl⟩
    cases registered.symm.trans ((gone_iff found).mpr started)

/-- After any requests to a new driver, a device is registered exactly while its
creator's handle is open or, after that was closed under a session, while a
session runs on it or any handle of it is open.  So it is registered exactly
while its creator's handle is open or a session runs on it, unless a session
runs on it that was started after the device was gone, or none runs and other
handles keep a device that was closed under a session.  Closing the creator's
handle takes the device away at once if no session runs on it; the end of the
session takes it away then if no handle of it is open. -/
theorem registered_exactly_while_used
    (version : DriverVersion)
    (slotBudget : Option Nat)
    (requests : List Request) :
    let driver := (fresh version slotBudget).serveAll requests
    let left := fun device =>
      (fresh version slotBudget).ClosedUnder device requests
    let astray := fun device => ∃ number running,
      driver.sessions.get? number = some running ∧ running.device = device ∧
        StartedAstray (fresh version slotBudget) requests number
    (∀ device,
      (driver.Registered device ↔ driver.CreatorOpen device ∨
        left device ∧
          (driver.HandleOpen device ∨ driver.SessionRuns device)) ∧
      ((driver.Registered device ↔
          driver.CreatorOpen device ∨ driver.SessionRuns device) ↔
        ¬ astray device ∧
          ¬ (left device ∧ driver.HandleOpen device ∧
            ¬ driver.SessionRuns device))) ∧
    (∀ handle entry, driver.adapters.get? handle.number = some entry →
      entry.created = true →
        ((closeAdapter handle driver).state.Registered entry.device ↔
          driver.SessionRuns entry.device)) ∧
    ∀ handle running, driver.sessions.get? handle.number = some running →
      ¬ driver.CreatorOpen running.device →
        ((endSession handle driver).state.Registered running.device ↔
          left running.device ∧ driver.HandleOpen running.device) := by
  intro driver left astray
  have registry : Registry driver :=
    (registry_fresh version slotBudget).serveAll requests
  have kept : Kept driver left := kept_serveAll version slotBudget requests
  refine ⟨fun device => ⟨kept.registered_iff registry device, ?_⟩, ?_, ?_⟩
  · have stands := not_startedAstray_on_iff version slotBudget requests device
    exact (kept.registered_iff_used_iff registry device).trans
      (and_congr_left' stands.symm)
  · intro handle entry opened created
    exact kept.registered_closeAdapter_iff registry opened created
  · intro handle running found closed
    exact kept.registered_endSession_iff registry found closed

/-- A device is opened once more, a session is started on it, and its creator
closes it.  When the session ends, the other handle keeps the device, though its
creator's handle is closed and no session runs on it. -/
theorem registered_exactly_while_used_of_kept_handle :
    let requests : List Request :=
      [.createAdapter "x" "t" none, .openAdapter "x", .startSession ⟨2⟩ 4,
        .closeAdapter ⟨2⟩]
    let driver := (fresh defaultVersion none).serveAll requests
    let ended := driver.serve (.endSession ⟨4⟩)
    driver.Registered 1 ∧ driver.SessionRuns 1 ∧ ¬ driver.CreatorOpen 1 ∧
      ended.Registered 1 ∧ ¬ (ended.CreatorOpen 1 ∨ ended.SessionRuns 1) := by
  intro requests driver ended
  obtain ⟨uses, _, ends⟩ :=
    registered_exactly_while_used defaultVersion none requests
  have registered : driver.Registered 1 :=
    Option.isSome_iff_exists.mp (by decide +kernel)
  have runs : (driver.sessions.get? 4).map (·.device) = some 1 := by
    decide +kernel
  obtain ⟨running, found, device⟩ := Option.map_eq_some_iff.mp runs
  have handle : (driver.adapters.get? 3).map (·.device) = some 1 := by
    decide +kernel
  obtain ⟨entry, opened, own⟩ := Option.map_eq_some_iff.mp handle
  have uncreated (later : MemoryDriver)
      (none : later.adapters.values.all (!·.created) = true) :
      ¬ later.CreatorOpen 1 := by
    rintro ⟨handle, entry, found, created, _⟩
    have := List.all_eq_true.mp none entry (Table.mem_values_of_get? found)
    simp [created] at this
  have closed : ¬ driver.CreatorOpen 1 := uncreated driver (by decide +kernel)
  obtain ⟨was, _⟩ := ((uses 1).1.mp registered).resolve_left closed
  refine ⟨registered, ⟨4, running, found, device⟩, closed, ?_, ?_⟩
  · have stays := (ends ⟨4⟩ running found (device.symm ▸ closed)).mpr
    rw [device] at stays
    exact stays ⟨was, 3, entry, opened, own⟩
  · rintro (creator | ⟨number, other, present, _⟩)
    · exact uncreated ended (by decide +kernel) creator
    · have empty : ended.sessions.isEmpty = true := by decide +kernel
      rw [Table.get?_eq_none_of_isEmpty empty] at present
      cases present

end MemoryDriver
end Memory
end VirtualAdapter

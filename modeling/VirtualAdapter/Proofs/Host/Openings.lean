import VirtualAdapter.Host.Manager
import VirtualAdapter.Proofs.Action
import VirtualAdapter.Proofs.Table

/-!
# What openings come to

An adapter that the driver has opened is counted and kept before the driver's
version is looked at.  If that is too old, the adapter is given back again, and
nothing is left of it in the tables of the library.
-/

namespace VirtualAdapter
namespace Host

variable {State : Type} [Driver State] {host : Host State}

/-! ## Giving back what was just opened -/

/-- The number that is given out next names no adapter, and no session was
started on such an adapter. -/
structure NextFree (host : Host State) : Prop where
  /-- No adapter has the number. -/
  absent : host.adapters.get? (host.lastNumber + 1) = none
  /-- No session uses it. -/
  unused : host.isUsed (host.lastNumber + 1) = false

/-- An adapter is counted and kept under the next number. -/
def withAdapter
    (host : Host State)
    (manager : ManagerId)
    (handle : AdapterHandle)
    (name : String)
    (driver : State) : Host State :=
  { host with
    driver
    lastNumber := host.lastNumber + 1
    managers := host.managers.update manager fun entry =>
      { entry with openAdapters := entry.openAdapters + 1 }
    adapters := host.adapters.insert (host.lastNumber + 1)
      { manager, handle, name } }

section Withdrawal

variable
  {manager : ManagerId}
  {entry : Manager}
  (managed : host.managers.get? manager = some entry)
  (handle : AdapterHandle)
  (name : String)

include managed

/-- Dropping an adapter that was just opened closes it, and leaves nothing but
the number behind. -/
theorem state_dropAdapter_withAdapter
    (free : host.NextFree)
    (driver : State) :
    (dropAdapter (host.lastNumber + 1)
        (host.withAdapter manager handle name driver)).state =
      { host with
        driver := (Driver.closeAdapter handle driver).state
        lastNumber := host.lastNumber + 1 } := by
  let id := host.lastNumber + 1
  let present := { host.withAdapter manager handle name driver with
    adapters := (host.adapters.insert id { manager, handle, name }).update id
      fun adapter => { adapter with held := false } }
  have found : present.adapters.get? id =
      some { manager, handle, name, held := false } := by
    simp only [present, Table.get?_update, Table.get?_insert, if_true,
      Option.map_some]
  have unused : present.isUsed id = false := free.unused
  have counted : (present.managers.update manager fun entry =>
      { entry with openAdapters := entry.openAdapters - 1 }) =
        host.managers := by
    refine (Table.update_update _ _ _ _).trans ?_
    exact Table.update_eq_self managed rfl
  have forgotten : present.adapters.erase id = host.adapters := by
    refine (Table.erase_update _ _ _).trans ?_
    rw [Table.erase_insert, Table.erase_of_absent free.absent]
  have dropped : (dropAdapter id
      (host.withAdapter manager handle name driver)).state =
        (giveBackUnheld id present).state := rfl
  have current : Action.current present = ⟨present, present, []⟩ := rfl
  rw [dropped, giveBackUnheld, Action.bind_of_reply current, found]
  simp only [unused, Bool.or_self, Bool.false_eq_true, if_false, giveBack,
    Action.state_bind, state_ask, state_changeManager, Action.state_change,
    Action.state_trace, counted, forgotten]
  rfl

end Withdrawal

/-! ## Openings -/

/-- Obtain an adapter through a manager by a call of the driver, if what is
asked for is valid. -/
def obtainAdapter
    (id : ManagerId)
    (valid : Except Error Unit)
    (message name : String)
    (call : Action State (Outcome AdapterHandle)) :
    Action (Host State) (Outcome AdapterId) := do
  match ← manager? id with
  | none => return refuse managerGone
  | some manager =>
      match valid with
      | .error error => return refuse error
      | .ok () =>
          let outcome ← ask call
          receiveAdapter id manager message name outcome

theorem createAdapter_eq (id : ManagerId) (config : AdapterConfig) :
    (createAdapter id config : Action (Host State) (Outcome AdapterId)) =
      obtainAdapter id config.validate "created adapter" config.name
        (Driver.createAdapter config.name config.tunnelType config.guid) :=
  rfl

theorem openAdapter_eq (id : ManagerId) (name : String) :
    (openAdapter id name : Action (Host State) (Outcome AdapterId)) =
      obtainAdapter id (validatePoolString "adapter name" name)
        "opened adapter" name (Driver.openAdapter name) :=
  rfl

/-- The driver's answer about its version is at least what a manager requires,
if it requires any. -/
def Accepts (manager : Manager) (driver : State) : Prop :=
  ∀ required, manager.minVersion = some required →
    ∃ running, (Driver.runningVersion driver).value = .ok running ∧
      running.isOlder required = false

/-- Everything that obtaining an adapter can come to. -/
inductive Obtained
    (host : Host State)
    (id : ManagerId)
    (call : Action State (Outcome AdapterHandle)) :
    Outcome AdapterId → Host State → Prop
  /-- The driver was not called. -/
  | declined (error : Error) : Obtained host id call (refuse error) host
  /-- The driver has opened nothing. -/
  | refused {failure : Failure}
      (unopened : (call host.driver).value = .error failure) :
      Obtained host id call (.error failure)
        { host with driver := (call host.driver).state }
  /-- The driver was asked for its version, and the adapter was closed. -/
  | withdrawn {handle : AdapterHandle} {failure : Failure} {next : Host State}
      (opened : (call host.driver).value = .ok handle)
      (undone : host.NextFree → next =
        { host with
          driver := (Driver.closeAdapter handle (Driver.runningVersion
            (Driver.adapterLuid handle
              (call host.driver).state).state).state).state
          lastNumber := host.lastNumber + 1 }) :
      Obtained host id call (.error failure) next
  /-- The adapter is kept. -/
  | kept {handle : AdapterHandle} {manager : Manager} {next : Host State}
      (managed : host.managers.get? id = some manager)
      (opened : (call host.driver).value = .ok handle)
      (accepts : Accepts manager
        (Driver.adapterLuid handle (call host.driver).state).state) :
      Obtained host id call (.ok (host.lastNumber + 1)) next

/-- An adapter stays if the driver is new enough, and is dropped otherwise. -/
theorem checkVersion_accepts
    (manager : Manager)
    (id : AdapterId)
    (host : Host State) :
    let driver := (Driver.runningVersion host.driver).state
    (Accepts manager host.driver ∧
      (checkVersion manager id host).value = .ok id ∧
      ((checkVersion manager id host).state = host ∨
        (checkVersion manager id host).state = { host with driver })) ∨
    ∃ failure, (checkVersion manager id host).value = .error failure ∧
      (checkVersion manager id host).state =
        (dropAdapter id { host with driver }).state := by
  intro driver
  unfold checkVersion
  cases required : manager.minVersion with
  | none =>
      refine .inl ⟨fun other same => ?_, rfl, .inl rfl⟩
      cases required.symm.trans same
  | some oldest =>
      simp only [driverVersion, Action.value_bind, Action.state_bind,
        value_ask, state_ask]
      cases version : (Driver.runningVersion host.driver).value with
      | error failure => exact .inr ⟨failure, rfl, rfl⟩
      | ok running =>
          cases older : running.isOlder oldest with
          | true =>
              simp only [older, if_true]
              exact .inr ⟨_, rfl, rfl⟩
          | false =>
              refine .inl ⟨fun other same => ?_, ?_, .inr ?_⟩
              · obtain rfl := Option.some.inj (required.symm.trans same)
                exact ⟨running, version, older⟩
              · simp [older]
              · simp [older, driver]

/-- Obtaining an adapter comes to one of the things that are listed. -/
theorem obtained
    (host : Host State)
    (id : ManagerId)
    (valid : Except Error Unit)
    (message name : String)
    (call : Action State (Outcome AdapterHandle)) :
    Obtained host id call
      (obtainAdapter id valid message name call host).value
      (obtainAdapter id valid message name call host).state := by
  unfold obtainAdapter
  rw [Action.value_bind, Action.state_bind, value_manager?, state_manager?]
  cases managed : host.managers.get? id with
  | none => exact .declined managerGone
  | some manager =>
      cases valid with
      | error error => exact .declined error
      | ok =>
          dsimp only
          rw [Action.value_bind, Action.state_bind, value_ask, state_ask]
          cases opened : (call host.driver).value with
          | error failure => exact .refused opened
          | ok handle =>
              let driver :=
                (Driver.adapterLuid handle (call host.driver).state).state
              let kept := host.withAdapter id handle name driver
              have checked := checkVersion_accepts manager (host.lastNumber + 1)
                kept
              have value : (receiveAdapter id manager message name (.ok handle)
                  { host with driver := (call host.driver).state }).value =
                    (checkVersion manager (host.lastNumber + 1) kept).value :=
                rfl
              have state : (receiveAdapter id manager message name (.ok handle)
                  { host with driver := (call host.driver).state }).state =
                    (checkVersion manager (host.lastNumber + 1) kept).state :=
                rfl
              rw [value, state]
              obtain ⟨accepts, accepted, _⟩ | ⟨failure, refused, dropped⟩ :=
                checked
              · rw [accepted]
                exact .kept managed opened accepts
              · rw [refused, dropped]
                exact .withdrawn opened fun free =>
                  state_dropAdapter_withAdapter managed handle name free _

end Host
end VirtualAdapter

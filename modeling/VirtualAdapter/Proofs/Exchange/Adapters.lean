import VirtualAdapter.Proofs.Exchange.Leads
import VirtualAdapter.Host.Manager

/-!
# Adapters and managers keep the books

An adapter is kept from the moment at which the driver has opened it.  It is
closed when neither its caller nor a session holds it, be it that the caller
has dropped it or that its driver was found to be too old.
-/

namespace VirtualAdapter
namespace Host

open Ledger

variable {State : Type} [Driver State]
variable {hands : Hands}

omit [Driver State] in
/-- An adapter that is in use is used by some session that is held. -/
theorem isUsed_iff
    {host : Host (Recorded State)}
    (numbered : (holdings host).Numbered)
    (id : AdapterId) :
    host.isUsed id = true ↔ (holdings host).IsUsed id := by
  have proper : host.sessions.IsProper :=
    (Table.isProper_map_iff _ _).mp numbered.sessions_proper
  unfold isUsed Holdings.IsUsed holdings
  simp only [List.any_eq_true, proper.mem_values_iff, Table.get?_map,
    decide_eq_true_eq]
  constructor
  · rintro ⟨session, ⟨number, found⟩, same⟩
    exact ⟨number, session.core, congrArg (Option.map _) found, same⟩
  · rintro ⟨number, core, found, same⟩
    obtain ⟨session, present, rfl⟩ := Option.map_eq_some_iff.mp found
    exact ⟨session, ⟨number, present⟩, same⟩

/-! ## Closing -/

omit [Driver State] in
theorem holdings_dropped
    (host : Host (Recorded State))
    (id : AdapterId) :
    holdings { host with adapters := host.adapters.erase id } =
      (holdings host).dropAdapter id := by
  simp [holdings, Holdings.dropAdapter, Table.map_erase]

theorem holdings_giveBack
    (host : Host (Recorded State))
    (id : AdapterId)
    (adapter : Adapter) :
    holdings (giveBack id adapter host).state =
      ((holdings host).record (.closed adapter.handle)).dropAdapter id :=
  holdings_dropped _ id

omit [Driver State] in
theorem holdings_unhold (host : Host (Recorded State)) (id : AdapterId) :
    holdings (changeAdapter id (fun adapter => { adapter with held := false })
      host).state = (holdings host).unhold id := by
  simp only [holdings, Holdings.unhold, state_changeAdapter]
  rw [Table.map_update]
  exact fun _ => rfl

/-- A loose adapter is closed unless it turns out to be held or used. -/
theorem giveBackUnheld_leads (orderly : hands.Orderly) (id : AdapterId) :
    Leads (Books hands (some id))
      (giveBackUnheld id : Action (Host (Recorded State)) Unit)
      fun _ => Books hands none := by
  unfold giveBackUnheld
  refine Leads.current.bind fun host => ?_
  have read : (holdings host).adapters.get? id =
      (host.adapters.get? id).map (·.core) := Table.get?_map _ _ _
  cases found : host.adapters.get? id with
  | none =>
      apply Leads.answer
      rintro _ _ ⟨books, rfl⟩
      apply books.attending
      intro adapter present
      simp [read, found] at present
  | some adapter =>
      dsimp only
      split
      case isTrue kept =>
        apply Leads.answer
        rintro _ _ ⟨books, rfl⟩
        apply books.attending
        intro other present unheld
        rw [read, found] at present
        cases present
        rw [Bool.or_eq_true] at kept
        obtain held | used := kept
        · exact absurd held (Bool.eq_false_iff.mp unheld)
        · exact (isUsed_iff books.toNumbered id).mp used
      case isFalse unkept =>
        rw [Bool.or_eq_true, not_or] at unkept
        obtain ⟨unheld, unused⟩ := unkept
        have entry : (holdings host).adapters.get? id = some adapter.core := by
          rw [read, found]
          rfl
        refine Leads.of_change
          (fun kept => (kept.record (.closed adapter.handle)).dropAdapter id)
          (fun host => holdings_giveBack host id adapter)
          (fun _ => List.prefix_append _ _) ?_
        rintro _ _ dependable ⟨books, rfl⟩
        exact books.closing orderly dependable.of_record entry
          (Bool.eq_false_iff.mpr unheld)
          fun used => unused ((isUsed_iff books.toNumbered id).mpr used)

/-- An adapter that is not locked can be dropped. -/
theorem dropAdapter_leads (orderly : hands.Orderly) (id : AdapterId) :
    Leads
      (fun kept =>
        Books { hands with adapters := id :: hands.adapters } none kept ∧
        id ∉ hands.locked)
      (dropAdapter id : Action (Host (Recorded State)) Unit)
      fun _ => Books hands none := by
  unfold dropAdapter
  refine Leads.bind ?_ fun _ => giveBackUnheld_leads orderly id
  refine Leads.of_change (·.unhold id) (fun host => holdings_unhold host id)
    (fun _ => List.prefix_rfl) ?_
  rintro _ _ _ ⟨books, unlocked⟩
  exact books.unholding unlocked

/-- An adapter that is not locked can be closed. -/
theorem closeAdapter_leads (orderly : hands.Orderly) (id : AdapterId) :
    Leads
      (fun kept =>
        Books { hands with adapters := id :: hands.adapters } none kept ∧
        id ∉ hands.locked)
      (closeAdapter id : Action (Host (Recorded State)) (Outcome Unit))
      fun _ => Books hands none := by
  have drops (outcome : Outcome Unit) : Leads
      (fun kept =>
        Books { hands with adapters := id :: hands.adapters } none kept ∧
        id ∉ hands.locked)
      (do
        dropAdapter id
        return outcome : Action (Host (Recorded State)) (Outcome Unit))
      fun _ => Books hands none :=
    (dropAdapter_leads orderly id).bind fun _ => Leads.done
  unfold closeAdapter
  refine (Leads.adapter? id).bind fun found => ?_
  cases found with
  | none =>
      exact Leads.answer fun _ _ given => given.1.1.of_adapter_gone given.2
  | some adapter =>
      refine Leads.given ?_ fun _ _ given => given.1
      dsimp only
      split
      case isTrue =>
        exact (Leads.of_same fun _ => rfl).bind fun _ => drops _
      case isFalse => exact drops _

/-! ## Opening -/

omit [Driver State] in
theorem holdings_adopt
    (host : Host (Recorded State))
    (manager : ManagerId)
    (handle : AdapterHandle)
    (name : String) :
    holdings (adopt manager handle name host).state =
      (holdings host).adopt handle := by
  have added := Table.map_insert Adapter.core host.adapters
    (host.lastNumber + 1) { manager, handle, name }
  have same : (⟨handle, true⟩ : OpenAdapter) =
      Adapter.core { manager, handle, name } := rfl
  simp only [holdings, Holdings.adopt, Holdings.number, same, ← added]
  rfl

omit [Driver State] in
/-- An adapter that was opened is kept, and nobody else uses its number. -/
theorem adopt_leads
    (manager : ManagerId)
    (handle : AdapterHandle)
    (name : String) :
    Leads
      (fun kept => ∃ earlier, Books hands none earlier ∧
        kept = earlier.record (.opened (.ok handle)))
      (adopt manager handle name : Action (Host (Recorded State)) AdapterId)
      fun id kept =>
        (Books { hands with adapters := id :: hands.adapters } none kept ∧
          id ∉ hands.locked) ∧
        ∃ adapter, kept.adapters.get? id = some adapter ∧
          adapter.handle = handle where
  grows := fun host => by
    rw [holdings_adopt]
    exact List.prefix_rfl
  leads := by
    rintro host _ ⟨earlier, books, same⟩
    have number : (adopt manager handle name host).value =
        earlier.lastNumber + 1 :=
      congrArg (· + 1) (congrArg Holdings.lastNumber same)
    rw [holdings_adopt, number, same]
    refine ⟨⟨books.opening handle, fun locked => ?_⟩, ⟨handle, true⟩, ?_, rfl⟩
    · obtain ⟨adapter, found, _⟩ := books.locked_held _ locked
      exact Nat.not_succ_le_self _ (books.adapter_le _ adapter found)
    · exact (Table.get?_insert _ _ _ _).trans (if_pos rfl)

/-- The interface identifier of an adapter that is there can be read. -/
theorem adapterLuid_leads (id : AdapterId) (adapter : Adapter) :
    Leads
      (fun kept => Books hands none kept ∧
        kept.adapters.get? id = some adapter.core)
      (adapterLuid adapter.handle : Action (Host (Recorded State)) Luid)
      fun _ => Books hands none := by
  refine (Leads.of_call (fun _ => .identified adapter.handle)
    fun _ => rfl).gives ?_
  rintro _ _ dependable ⟨earlier, ⟨books, found⟩, rfl⟩
  exact books.identifying dependable.of_record found

/-- An adapter is kept if the running driver is new enough. -/
theorem checkVersion_leads
    (orderly : hands.Orderly)
    (manager : Manager)
    (id : AdapterId) :
    Leads
      (fun kept =>
        Books { hands with adapters := id :: hands.adapters } none kept ∧
        id ∉ hands.locked)
      (checkVersion manager id :
        Action (Host (Recorded State)) (Outcome AdapterId))
      fun outcome => Books ((Held.ofAdapter outcome).hands ++ hands) none := by
  have drops (failure : Failure) : Leads
      (fun kept =>
        Books { hands with adapters := id :: hands.adapters } none kept ∧
        id ∉ hands.locked)
      (do
        dropAdapter id
        return .error failure :
          Action (Host (Recorded State)) (Outcome AdapterId))
      fun outcome => Books ((Held.ofAdapter outcome).hands ++ hands) none :=
    (dropAdapter_leads orderly id).bind fun _ =>
      Leads.answer fun _ _ books => books
  unfold checkVersion
  split
  case h_1 => exact Leads.answer fun _ _ given => given.1
  case h_2 =>
    unfold driverVersion
    refine (Leads.of_same fun _ => rfl).bind fun version => ?_
    cases version with
    | error failure => exact drops failure
    | ok running =>
        dsimp only
        split
        case isTrue =>
          exact (Leads.of_same fun _ => rfl).bind fun _ => drops _
        case isFalse => exact Leads.answer fun _ _ given => given.1

/-- An adapter is received with what the driver says about its opening. -/
theorem receiveAdapter_leads
    (orderly : hands.Orderly)
    (id : ManagerId)
    (manager : Manager)
    (message name : String)
    (outcome : Outcome AdapterHandle) :
    Leads
      (fun kept => ∃ earlier, Books hands none earlier ∧
        kept = earlier.record (.opened outcome))
      (receiveAdapter id manager message name outcome :
        Action (Host (Recorded State)) (Outcome AdapterId))
      fun outcome => Books ((Held.ofAdapter outcome).hands ++ hands) none := by
  unfold receiveAdapter
  cases outcome with
  | error failure =>
      apply Leads.answer
      rintro _ _ ⟨earlier, books, rfl⟩
      exact books.note ⟨rfl, rfl, rfl, rfl, rfl, rfl⟩ nofun nofun
  | ok handle =>
      refine (adopt_leads id handle name).bind fun adapter => ?_
      -- The interface identifier is read from the adapter that was just kept.
      refine Leads.bind (Leads.of_call (fun _ => .identified handle)
        fun _ => rfl) fun luid => ?_
      refine Leads.bind (Leads.of_same fun _ => rfl) fun _ => ?_
      refine (checkVersion_leads orderly manager adapter).given ?_
      rintro _ dependable ⟨earlier, ⟨⟨books, unlocked⟩, entry, found, rfl⟩, rfl⟩
      exact ⟨books.identifying dependable.of_record found, unlocked⟩

/-- An adapter is opened through a manager if what was asked for is valid. -/
theorem opening_leads
    (orderly : hands.Orderly)
    (id : ManagerId)
    (valid : Except Error Unit)
    (message name : String)
    {call : Action (Recorded State) (Outcome AdapterHandle)}
    (effect : ∀ host, holdings (ask call host).state =
      (holdings host).record (.opened (ask call host).value)) :
    Leads (Books hands none)
      (do
        match ← manager? id with
        | none => return refuse managerGone
        | some manager =>
            match valid with
            | .error error => return refuse error
            | .ok () => receiveAdapter id manager message name (← ask call) :
        Action (Host (Recorded State)) (Outcome AdapterId))
      fun outcome => Books ((Held.ofAdapter outcome).hands ++ hands) none := by
  refine (Leads.of_same fun _ => rfl).bind fun found => ?_
  cases found with
  | none => exact Leads.answer fun _ _ books => books
  | some manager =>
      cases valid with
      | error error => exact Leads.answer fun _ _ books => books
      | ok =>
          exact (Leads.of_call .opened effect).bind fun outcome =>
            receiveAdapter_leads orderly id manager message name outcome

theorem createAdapter_leads
    (orderly : hands.Orderly)
    (id : ManagerId)
    (config : AdapterConfig) :
    Leads (Books hands none)
      (createAdapter id config :
        Action (Host (Recorded State)) (Outcome AdapterId))
      fun outcome => Books ((Held.ofAdapter outcome).hands ++ hands) none :=
  opening_leads orderly id config.validate "created adapter" config.name
    fun _ => rfl

theorem openAdapter_leads
    (orderly : hands.Orderly)
    (id : ManagerId)
    (name : String) :
    Leads (Books hands none)
      (openAdapter id name :
        Action (Host (Recorded State)) (Outcome AdapterId))
      fun outcome => Books ((Held.ofAdapter outcome).hands ++ hands) none :=
  opening_leads orderly id (validatePoolString "adapter name" name)
    "opened adapter" name fun _ => rfl

/-! ## Managers -/

theorem newManager_keeps (config : ManagerConfig) :
    Keeps hands (newManager config :
      Action (Host (Recorded State)) (Outcome ManagerId)) := by
  unfold newManager
  refine (Leads.of_same fun _ => rfl).bind fun outcome => ?_
  cases outcome with
  | error failure => exact Leads.done
  | ok =>
      refine Leads.bind (Leads.of_change (·.number) (fun _ => rfl)
        (fun _ => List.prefix_rfl) fun _ _ _ books => Books.number books)
        fun id => ?_
      refine (Leads.of_same fun _ => rfl).bind fun _ => ?_
      exact Leads.done

theorem setLogger_keeps (logger : Logger) :
    Keeps hands (setLogger logger :
      Action (Host (Recorded State)) (Outcome Unit)) :=
  Leads.of_same fun _ => rfl

theorem deletionStep_keeps (id : ManagerId) (phase : Deletion) :
    Keeps hands (Deletion.step id phase :
      Action (Host (Recorded State)) Deletion) := by
  cases phase with
  | counting =>
      refine (Leads.of_same fun _ => rfl).bind fun found => ?_
      cases found with
      | none => exact Leads.done
      | some manager =>
          dsimp only
          split
          case isTrue => exact Leads.of_same fun _ => rfl
          case isFalse => exact Leads.done
  | calling =>
      refine (Leads.of_same fun _ => rfl).bind fun outcome => ?_
      cases outcome with
      | error failure => exact Leads.done
      | ok => exact Leads.of_same fun _ => rfl
  | finished outcome => exact Leads.done

theorem dropManager_keeps (id : ManagerId) :
    Keeps hands (dropManager id :
      Action (Host (Recorded State)) Unit) := by
  unfold dropManager
  refine (Leads.of_same fun _ => rfl).bind fun found => ?_
  cases found with
  | none => exact Leads.done
  | some manager =>
      dsimp only
      split
      · exact Leads.done
      · split
        · exact Leads.of_same fun _ => rfl
        · refine (Leads.of_same fun _ => rfl).bind fun outcome => ?_
          cases outcome with
          | error failure => exact Leads.of_same fun _ => rfl
          | ok => exact Leads.done

end Host
end VirtualAdapter

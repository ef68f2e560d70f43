import VirtualAdapter.Proofs.Exchange.Entries
import VirtualAdapter.Host.Progress

/-!
# What actions do to the books

An action leads from what is held before it to what is held after it, provided
that the driver has been dependable all along.  Actions that are joined lead
from the first to the last.
-/

namespace VirtualAdapter
namespace Host

open Ledger

variable {State Value Other : Type}

/-- An action only adds to what is written down, and over a dependable driver it
leads from one condition on what is held to another. -/
structure Leads
    (before : Holdings → Prop)
    (action : Action (Host (Recorded State)) Value)
    (after : Value → Holdings → Prop) : Prop where
  /-- What was written down stays. -/
  grows : ∀ host,
    (holdings host).log <+: (holdings (action host).state).log
  /-- The condition before gives the one after. -/
  leads : ∀ host, Dependable (holdings (action host).state).log →
    before (holdings host) →
      after (action host).value (holdings (action host).state)

/-- An action keeps the books. -/
abbrev Keeps
    (hands : Hands)
    (action : Action (Host (Recorded State)) Value) : Prop :=
  Leads (Books hands none) action fun _ => Books hands none

namespace Leads

variable {before : Holdings → Prop}
variable {action : Action (Host (Recorded State)) Value}
variable {after : Value → Holdings → Prop}

/-! ## Rules -/

/-- An action whose effect is known. -/
theorem of_change
    (step : Holdings → Holdings)
    (effect : ∀ host, holdings (action host).state = step (holdings host))
    (grows : ∀ kept, kept.log <+: (step kept).log)
    (leads : ∀ value kept, Dependable (step kept).log →
      before kept → after value (step kept)) : Leads before action after where
  grows := fun host => effect host ▸ grows _
  leads := fun host => effect host ▸ leads _ _

/-- An action that shows in nothing that is held. -/
theorem of_same
    (same : ∀ host, holdings (action host).state = holdings host) :
    Leads before action fun _ => before :=
  of_change id same (fun _ => List.prefix_rfl) fun _ _ _ given => given

/-- An action that shows in nothing and answers from what is held. -/
theorem of_reading
    (same : ∀ host, holdings (action host).state = holdings host)
    {tells : Value → Holdings → Prop}
    (reading : ∀ host, tells (action host).value (holdings host)) :
    Leads before action fun value kept => before kept ∧ tells value kept where
  grows := fun host => same host ▸ List.prefix_rfl
  leads := fun host _ given => same host ▸ ⟨given, reading host⟩

/-- A call of the driver that is written down. -/
theorem of_call
    (exchange : Value → Exchange)
    (effect : ∀ host, holdings (action host).state =
      (holdings host).record (exchange (action host).value)) :
    Leads before action fun value kept =>
      ∃ earlier, before earlier ∧ kept = earlier.record (exchange value) where
  grows := fun host => by
    rw [effect]
    exact List.prefix_append _ _
  leads := fun host _ given => ⟨holdings host, given, effect host⟩

/-- An answer is given in any condition. -/
theorem answer
    {value : Value}
    (given : ∀ kept, Dependable kept.log → before kept → after value kept) :
    Leads before (pure value : Action (Host (Recorded State)) Value) after where
  grows := fun _ => List.prefix_rfl
  leads := fun host dependable => given (holdings host) dependable

/-- An answer changes nothing. -/
theorem done {value : Value} :
    Leads before (pure value : Action (Host (Recorded State)) Value)
      fun _ => before :=
  answer fun _ _ given => given

/-- Actions that are joined. -/
theorem bind
    {between : Value → Holdings → Prop}
    {continuation : Value → Action (Host (Recorded State)) Other}
    {after : Other → Holdings → Prop}
    (first : Leads before action between)
    (second : ∀ value, Leads (between value) (continuation value) after) :
    Leads before (action >>= continuation) after where
  grows := fun host => (first.grows host).trans ((second _).grows _)
  leads := fun host dependable given =>
    (second _).leads _ dependable
      (first.leads host (dependable.of_prefix ((second _).grows _)) given)

/-- A condition before that gives a weaker one. -/
theorem given
    {weaker : Holdings → Prop}
    (leads : Leads weaker action after)
    (gives : ∀ kept, Dependable kept.log → before kept → weaker kept) :
    Leads before action after where
  grows := leads.grows
  leads := fun host dependable condition =>
    leads.leads host dependable
      (gives _ (dependable.of_prefix (leads.grows host)) condition)

/-- A condition after that gives a weaker one. -/
theorem gives
    {weaker : Value → Holdings → Prop}
    (leads : Leads before action after)
    (gives : ∀ value kept, Dependable kept.log → after value kept →
      weaker value kept) : Leads before action weaker where
  grows := leads.grows
  leads := fun host dependable condition =>
    gives _ _ dependable (leads.leads host dependable condition)

/-- An action that comes after a call that no dependable driver answers so. -/
theorem of_undependable
    {other : Holdings → Prop}
    {next : Value → Holdings → Prop}
    (leads : Leads other action next)
    (undependable : ∀ kept, before kept → ¬ Dependable kept.log) :
    Leads before action after where
  grows := leads.grows
  leads := fun host dependable condition =>
    absurd (dependable.of_prefix (leads.grows host))
      (undependable _ condition)

/-- What an answer always satisfies. -/
theorem and_value
    {always : Value → Prop}
    (leads : Leads before action after)
    (valid : action.Answers always) :
    Leads before action fun value kept => after value kept ∧ always value where
  grows := leads.grows
  leads := fun host dependable condition =>
    ⟨leads.leads host dependable condition, valid host⟩

/-! ## Reading -/

/-- The whole is read. -/
theorem current :
    Leads before (Action.current : Action (Host (Recorded State)) _)
      fun host kept => before kept ∧ kept = holdings host :=
  of_reading (fun _ => rfl) fun _ => rfl

theorem adapter? (id : AdapterId) :
    Leads before (Host.adapter? id : Action (Host (Recorded State)) _)
      fun found kept => before kept ∧
        kept.adapters.get? id = found.map (·.core) :=
  of_reading (fun _ => rfl) fun host => Table.get?_map _ host.adapters id

theorem session? (id : SessionId) :
    Leads before (Host.session? id : Action (Host (Recorded State)) _)
      fun found kept => before kept ∧
        kept.sessions.get? id = found.map (·.core) :=
  of_reading (fun _ => rfl) fun host => Table.get?_map _ host.sessions id

theorem packet? (id : PacketId) :
    Leads before (Host.packet? id : Action (Host (Recorded State)) _)
      fun found kept => before kept ∧ kept.packets.get? id = found :=
  of_reading (fun _ => rfl) fun _ => rfl

end Leads

/-! ## Changes that show in nothing that is held -/

/-- What is not the driver's business is not in the holdings. -/
theorem changeAdapter_leads
    {before : Holdings → Prop}
    (id : AdapterId)
    {step : Adapter → Adapter}
    (same : ∀ adapter, (step adapter).core = adapter.core) :
    Leads before
      (changeAdapter id step : Action (Host (Recorded State)) Unit)
      fun _ => before := by
  apply Leads.of_same
  intro host
  simp [holdings, Table.map_update_of_same _ _ _ same]

theorem holdings_count
    (host : Host (Recorded State))
    (id : SessionId)
    (step : SessionStats → SessionStats) :
    holdings (count id step host).state = holdings host := by
  have same : ∀ session : Session,
      Session.core { session with stats := step session.stats } =
        session.core := fun _ => rfl
  simp [holdings, Table.map_update_of_same _ _ _ same]

end Host
end VirtualAdapter

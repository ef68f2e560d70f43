import VirtualAdapter.Proofs.Exchange.Recorded
import Mathlib.Data.List.Induction
import Mathlib.Data.List.Nodup

/-!
# What a driver lends and gets back

From what was written down about a driver follows which adapters are open,
which sessions run, and which packets are lent.  A log in which every call is
one that the driver has to expect, and after which nothing is lent, hands
everything back exactly once.
-/

namespace VirtualAdapter

/-- A packet that a driver has lent. -/
structure Loan where
  /-- The session. -/
  session : SessionHandle
  /-- Received, or to be sent. -/
  direction : Direction
  /-- The packet. -/
  packet : RawPacket
  deriving DecidableEq

namespace Exchange

/-! ## What one call says -/

/-- The adapter that a call names. -/
def adapter? : Exchange → Option AdapterHandle
  | closed adapter | identified adapter | started adapter _ => some adapter
  | _ => none

/-- The session that a call names. -/
def session? : Exchange → Option SessionHandle
  | ended session | askedEvent session _ | received session _
  | released session _ | allocated session _ | sent session _ => some session
  | _ => none

/-- The adapter that a call has opened. -/
def opens? : Exchange → Option AdapterHandle
  | opened (.ok adapter) => some adapter
  | _ => none

/-- The adapter that a call has closed. -/
def closes? : Exchange → Option AdapterHandle
  | closed adapter => some adapter
  | _ => none

/-- The session that a call has started, with its adapter. -/
def starts? : Exchange → Option (SessionHandle × AdapterHandle)
  | started adapter (.ok session) => some (session, adapter)
  | _ => none

/-- The session that a call has ended. -/
def ends? : Exchange → Option SessionHandle
  | ended session => some session
  | _ => none

/-- The packet that a call has borrowed. -/
def lends? : Exchange → Option Loan
  | received session (.ok packet) => some ⟨session, .inbound, packet⟩
  | allocated session (.ok packet) => some ⟨session, .outbound, packet⟩
  | _ => none

/-- The packet that a call has given back. -/
def returns? : Exchange → Option Loan
  | released session packet => some ⟨session, .inbound, packet⟩
  | sent session packet => some ⟨session, .outbound, packet⟩
  | _ => none

/-- A call about an event broke off instead of answering. -/
def breaksOff : Exchange → Bool
  | askedEvent _ (.error (.crashed _))
  | madeEvent (.error (.crashed _))
  | setEvent _ (.error (.crashed _)) => true
  | _ => false

/-- A packet is borrowed from the session that is named. -/
theorem session?_of_lends?
    {exchange : Exchange}
    {loan : Loan}
    (lends : exchange.lends? = some loan) :
    exchange.session? = some loan.session := by
  unfold lends? at lends
  split at lends
  case h_1 => cases lends; rfl
  case h_2 => cases lends; rfl
  case h_3 => simp at lends

/-- A session is started on the adapter that is named. -/
theorem adapter?_of_starts?
    {exchange : Exchange}
    {session : SessionHandle}
    {adapter : AdapterHandle}
    (starts : exchange.starts? = some (session, adapter)) :
    exchange.adapter? = some adapter := by
  unfold starts? at starts
  split at starts
  case h_1 => cases starts; rfl
  case h_2 => simp at starts

end Exchange

namespace Ledger

/-! ## What a log says -/

/-- The adapters that were opened. -/
def opened (log : List Exchange) : List AdapterHandle :=
  log.filterMap (·.opens?)

/-- The adapters that were closed. -/
def closed (log : List Exchange) : List AdapterHandle :=
  log.filterMap (·.closes?)

/-- The sessions that were started, with their adapters. -/
def started (log : List Exchange) : List (SessionHandle × AdapterHandle) :=
  log.filterMap (·.starts?)

/-- The sessions that were started. -/
def begun (log : List Exchange) : List SessionHandle :=
  (started log).map (·.1)

/-- The sessions that were ended. -/
def ended (log : List Exchange) : List SessionHandle :=
  log.filterMap (·.ends?)

/-- The packets that were lent. -/
def lent (log : List Exchange) : List Loan :=
  log.filterMap (·.lends?)

/-- The packets that were given back. -/
def returned (log : List Exchange) : List Loan :=
  log.filterMap (·.returns?)

section Append

variable (log more : List Exchange)

@[simp]
theorem opened_append : opened (log ++ more) = opened log ++ opened more :=
  List.filterMap_append

@[simp]
theorem closed_append : closed (log ++ more) = closed log ++ closed more :=
  List.filterMap_append

@[simp]
theorem started_append : started (log ++ more) = started log ++ started more :=
  List.filterMap_append

@[simp]
theorem begun_append : begun (log ++ more) = begun log ++ begun more := by
  simp [begun]

@[simp]
theorem ended_append : ended (log ++ more) = ended log ++ ended more :=
  List.filterMap_append

@[simp]
theorem lent_append : lent (log ++ more) = lent log ++ lent more :=
  List.filterMap_append

@[simp]
theorem returned_append :
    returned (log ++ more) = returned log ++ returned more :=
  List.filterMap_append

end Append

theorem mem_begun
    {log : List Exchange}
    {session : SessionHandle}
    {adapter : AdapterHandle}
    (member : (session, adapter) ∈ started log) : session ∈ begun log :=
  List.mem_map.mpr ⟨(session, adapter), member, rfl⟩

/-- The adapter is open after a log. -/
def IsOpen (log : List Exchange) (adapter : AdapterHandle) : Prop :=
  adapter ∈ opened log ∧ adapter ∉ closed log

/-- The session runs after a log. -/
def IsRunning (log : List Exchange) (session : SessionHandle) : Prop :=
  session ∈ begun log ∧ session ∉ ended log

/-- Everything that a session has lent was given back. -/
def IsSettled (log : List Exchange) (session : SessionHandle) : Prop :=
  ∀ loan : Loan, loan.session = session →
    (returned log).count loan = (lent log).count loan

/-! ## What the parties owe each other -/

/-- The driver gives out handles that it has not given out before, and its
calls about events answer, be it with a refusal; a session whose start or end
such a call would break off is leaked, not dropped. -/
structure Dependable (log : List Exchange) : Prop where
  /-- Adapters get fresh handles. -/
  adapters_fresh : (opened log).Nodup
  /-- Sessions get fresh handles. -/
  sessions_fresh : (begun log).Nodup
  /-- No call about an event breaks off. -/
  unbroken : ∀ exchange ∈ log, exchange.breaksOff = false

instance (log : List Exchange) : Decidable (Dependable log) :=
  decidable_of_iff
    ((opened log).Nodup ∧ (begun log).Nodup ∧
      ∀ exchange ∈ log, exchange.breaksOff = false)
    ⟨fun ⟨adapters, sessions, unbroken⟩ => ⟨adapters, sessions, unbroken⟩,
      fun dependable => ⟨dependable.adapters_fresh, dependable.sessions_fresh,
        dependable.unbroken⟩⟩

/-- The driver has to expect the call after a log. -/
structure Admits (before : List Exchange) (exchange : Exchange) : Prop where
  /-- The call names an adapter that is open. -/
  adapter_open : ∀ adapter, exchange.adapter? = some adapter →
    IsOpen before adapter
  /-- The call names a session that runs. -/
  session_running : ∀ session, exchange.session? = some session →
    IsRunning before session
  /-- The call gives a packet back that is lent. -/
  packet_lent : ∀ loan, exchange.returns? = some loan →
    (returned before).count loan < (lent before).count loan
  /-- A session is ended when none of its packets is lent. -/
  end_settled : ∀ session, exchange = .ended session →
    IsSettled before session
  /-- An adapter is closed when all sessions that were started on it are
  ended. -/
  close_unused : ∀ adapter, exchange = .closed adapter →
    ∀ session, (session, adapter) ∈ started before → session ∈ ended before

/-- The driver has to expect every call of a log. -/
def Admissible (log : List Exchange) : Prop :=
  ∀ before exchange after, log = before ++ exchange :: after →
    Admits before exchange

/-- Everything that the driver gave out was handed back exactly once, in an
order that the driver has to expect. -/
structure HandedBack (log : List Exchange) : Prop where
  /-- Every session is ended exactly once. -/
  ended_once : ∀ session ∈ begun log, (ended log).count session = 1
  /-- No call after its end names a session. -/
  unnamed_after_end : ∀ before session after,
    log = before ++ .ended session :: after →
    ∀ exchange ∈ after, exchange.session? ≠ some session
  /-- What is given back are the packets that were lent, each to its session
  and as often as it was lent. -/
  returned_once : (returned log).Perm (lent log)
  /-- No packet is given back before it is lent. -/
  returned_after_lent : ∀ before after, log = before ++ after →
    ∀ loan, (returned before).count loan ≤ (lent before).count loan
  /-- All packets that a session ever lends are given back before its end. -/
  returned_before_end : ∀ before session after,
    log = before ++ .ended session :: after →
    ∀ loan : Loan, loan.session = session →
      (returned before).count loan = (lent log).count loan
  /-- Every adapter is closed exactly once. -/
  closed_once : ∀ adapter ∈ opened log, (closed log).count adapter = 1
  /-- No call after its close names an adapter. -/
  unnamed_after_close : ∀ before adapter after,
    log = before ++ .closed adapter :: after →
    ∀ exchange ∈ after, exchange.adapter? ≠ some adapter
  /-- All sessions that are ever started on an adapter are ended before its
  close. -/
  ended_before_close : ∀ before adapter after,
    log = before ++ .closed adapter :: after →
    ∀ session, (session, adapter) ∈ started log → session ∈ ended before

/-! ## Dependable drivers -/

/-- What was dependable up to a moment was so before. -/
theorem Dependable.of_prefix
    {before log : List Exchange}
    (dependable : Dependable log)
    (earlier : before <+: log) : Dependable before := by
  obtain ⟨after, rfl⟩ := earlier
  have sessions := dependable.sessions_fresh
  have adapters := dependable.adapters_fresh
  rw [begun_append] at sessions
  rw [opened_append] at adapters
  constructor
  case adapters_fresh => exact (List.nodup_append.mp adapters).1
  case sessions_fresh => exact (List.nodup_append.mp sessions).1
  case unbroken =>
    exact fun exchange member =>
      dependable.unbroken exchange (List.mem_append_left after member)

/-- A session is started on one adapter only. -/
theorem Dependable.adapter_eq
    {log : List Exchange}
    (dependable : Dependable log)
    {session : SessionHandle}
    {first second : AdapterHandle}
    (on_first : (session, first) ∈ started log)
    (on_second : (session, second) ∈ started log) : first = second := by
  have same := List.inj_on_of_nodup_map dependable.sessions_fresh
    on_first on_second rfl
  exact congrArg Prod.snd same

/-! ## Admissible logs -/

theorem admissible_nil : Admissible [] := by
  intro before exchange after split
  simp at split

/-- A log stays admissible under a call that the driver has to expect. -/
theorem Admissible.concat
    {log : List Exchange}
    (admissible : Admissible log)
    {exchange : Exchange}
    (admits : Admits log exchange) : Admissible (log ++ [exchange]) := by
  intro before other after split
  obtain rfl | ⟨middle, last, rfl⟩ := List.eq_nil_or_concat after
  · obtain ⟨rfl, same⟩ := List.append_inj' split rfl
    obtain rfl := List.singleton_inj.mp same
    exact admits
  · rw [List.concat_eq_append, ← List.cons_append, ← List.append_assoc] at split
    obtain ⟨rfl, _⟩ := List.append_inj' split rfl
    exact admissible before other middle rfl

/-- A part of an admissible log from its start on is admissible. -/
theorem Admissible.of_prefix
    {before log : List Exchange}
    (admissible : Admissible log)
    (earlier : before <+: log) : Admissible before := by
  obtain ⟨rest, rfl⟩ := earlier
  rintro first exchange after rfl
  exact admissible first exchange (after ++ rest) (by simp)

/-- A call that comes later finds what the earlier ones have left. -/
theorem Admissible.admits_later
    {before after : List Exchange}
    {first exchange : Exchange}
    (admissible : Admissible (before ++ first :: after))
    (member : exchange ∈ after) :
    ∃ between, Admits (before ++ first :: between) exchange := by
  obtain ⟨between, rest, rfl⟩ := List.append_of_mem member
  exact ⟨between, admissible _ exchange rest (by simp)⟩

section Order

variable {log before after : List Exchange}

/-- No call after its end names a session. -/
theorem Admissible.unnamed_after_end
    {session : SessionHandle}
    (admissible : Admissible (before ++ .ended session :: after))
    {exchange : Exchange}
    (member : exchange ∈ after) : exchange.session? ≠ some session := by
  intro names
  obtain ⟨between, admits⟩ := admissible.admits_later member
  apply (admits.session_running session names).2
  simp [ended, Exchange.ends?]

/-- No call after its close names an adapter. -/
theorem Admissible.unnamed_after_close
    {adapter : AdapterHandle}
    (admissible : Admissible (before ++ .closed adapter :: after))
    {exchange : Exchange}
    (member : exchange ∈ after) : exchange.adapter? ≠ some adapter := by
  intro names
  obtain ⟨between, admits⟩ := admissible.admits_later member
  apply (admits.adapter_open adapter names).2
  simp [closed, Exchange.closes?]

/-- No packet is given back before it is lent. -/
theorem Admissible.returned_le
    (admissible : Admissible log)
    (loan : Loan) : (returned log).count loan ≤ (lent log).count loan := by
  induction log using List.reverseRecOn with
  | nil => exact Nat.le_refl 0
  | append_singleton log exchange hypothesis =>
      have earlier := hypothesis (admissible.of_prefix (List.prefix_append _ _))
      have admits := admissible log exchange [] rfl
      rw [returned_append, lent_append, List.count_append, List.count_append]
      by_cases returns : exchange.returns? = some loan
      case pos =>
        have owed := admits.packet_lent loan returns
        have one : (returned [exchange]).count loan = 1 := by
          simp [returned, returns]
        omega
      case neg =>
        have zero : (returned [exchange]).count loan = 0 := by
          rw [List.count_eq_zero]
          simpa [returned] using returns
        omega

/-- A session lends nothing after its end. -/
theorem Admissible.lent_before_end
    {session : SessionHandle}
    (admissible : Admissible (before ++ .ended session :: after))
    {loan : Loan}
    (same : loan.session = session) :
    (lent (before ++ .ended session :: after)).count loan =
      (lent before).count loan := by
  have none_later : loan ∉ lent after := by
    intro member
    obtain ⟨exchange, member, lends⟩ := List.mem_filterMap.mp member
    apply admissible.unnamed_after_end member
    rw [Exchange.session?_of_lends? lends, same]
  have split : lent (.ended session :: after) = lent after := rfl
  rw [lent_append, List.count_append, split, List.count_eq_zero.mpr none_later,
    Nat.add_zero]

/-- A session that is ever started on an adapter is ended before its close. -/
theorem Admissible.ended_before_close
    {adapter : AdapterHandle}
    (admissible : Admissible (before ++ .closed adapter :: after))
    {session : SessionHandle}
    (member : (session, adapter) ∈
      started (before ++ .closed adapter :: after)) :
    session ∈ ended before := by
  have admits := admissible before (.closed adapter) after rfl
  rw [started_append, List.mem_append] at member
  obtain earlier | later := member
  · exact admits.close_unused adapter rfl session earlier
  · have later : (session, adapter) ∈ started after := later
    obtain ⟨exchange, member, starts⟩ := List.mem_filterMap.mp later
    exact absurd (Exchange.adapter?_of_starts? starts)
      (admissible.unnamed_after_close member)

end Order

/-- An admissible log of a dependable driver after which no adapter is open, no
session runs and no packet is lent hands everything back. -/
theorem Admissible.handedBack
    {log : List Exchange}
    (admissible : Admissible log)
    (dependable : Dependable log)
    (adapters : (opened log).Perm (closed log))
    (sessions : (begun log).Perm (ended log))
    (packets : (lent log).Perm (returned log)) : HandedBack log := by
  constructor
  case ended_once =>
    intro session member
    rw [← sessions.count_eq]
    exact List.count_eq_one_of_mem dependable.sessions_fresh member
  case unnamed_after_end =>
    rintro before session after rfl exchange member
    exact admissible.unnamed_after_end member
  case returned_once => exact packets.symm
  case returned_after_lent =>
    rintro before after rfl loan
    exact (admissible.of_prefix (List.prefix_append _ _)).returned_le loan
  case returned_before_end =>
    rintro before session after rfl loan same
    rw [admissible.lent_before_end same]
    exact (admissible before _ after rfl).end_settled session rfl loan same
  case closed_once =>
    intro adapter member
    rw [← adapters.count_eq]
    exact List.count_eq_one_of_mem dependable.adapters_fresh member
  case unnamed_after_close =>
    rintro before adapter after rfl exchange member
    exact admissible.unnamed_after_close member
  case ended_before_close =>
    rintro before adapter after rfl session member
    exact admissible.ended_before_close member

end Ledger
end VirtualAdapter

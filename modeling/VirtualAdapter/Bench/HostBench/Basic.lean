import VirtualAdapter.Bench.HostCommand

/-!
# A bench for the host side: its state

The bench keeps what its commands obtained under the names that they gave.
Reader pumps and abandoned waits are threads of their own: after every command
they run until they sleep or are over, and they leave no trace.
-/

namespace VirtualAdapter
namespace Bench

open Host Memory

/-- A driver for the bench. -/
abbrev BenchDriver := Faulty MemoryDriver

/-- A pump with what its handler does. -/
structure BenchPump where
  /-- The pump. -/
  pump : ReadPump
  /-- The handler sends every packet back, if there is room. -/
  echo : Bool
  /-- The handler breaks off on a packet that starts with this byte. -/
  breakOn : Option UInt8
  /-- The pump was stopped, joined or dropped. -/
  taken : Bool := false
  /-- The steps of its next turn. -/
  turn : Nat := Host.turn

namespace BenchPump

/-- The fewest steps of a turn. -/
def shortestTurn : Nat := 10000

/-- The pump after a turn; its next turn is shorter if it did not come to
rest. -/
def afterTurn
    (entry : BenchPump) :
    Progress ReadPump ReadPump → BenchPump
  | .running pump =>
      { entry with pump, turn := max shortestTurn (entry.turn / 4) }
  | .asleep pump _ | .finished pump => { entry with pump, turn := Host.turn }

end BenchPump

/-- The host side with everything that was obtained from it. -/
structure HostBench where
  /-- The host side. -/
  host : Host BenchDriver
  /-- Managers by name. -/
  managers : Table String ManagerId := ∅
  /-- Adapters by name. -/
  adapters : Table String AdapterId := ∅
  /-- Sessions by name. -/
  sessions : Table String SessionId := ∅
  /-- Borrowed packets by name. -/
  packets : Table String PacketId := ∅
  /-- Events by name. -/
  signals : Table String EventHandle := ∅
  /-- Pumps by name. -/
  pumps : Table String BenchPump := ∅
  /-- The sessions of asynchronous sessions by name. -/
  wrappers : Table String SessionId := ∅
  /-- Waits of futures that were dropped. -/
  abandoned : List WaitReadable := []
  /-- The sessions on which calls are parked. -/
  parkedOn : List SessionId := []

namespace HostBench

variable {Value Other : Type}

/-- A bench for a driver. -/
def ofDriver (driver : MemoryDriver) : HostBench where
  host := { driver := { driver } }

/-- An action of the host side. -/
def onHost (action : Action (Host BenchDriver) Value) : Action HostBench Value :=
  action.on (·.host) fun bench host => { bench with host }

/-- An action of the driver with its faults. -/
def onDriver (action : Action BenchDriver Value) : Action HostBench Value :=
  onHost (Host.ask action)

/-- An action of the driver behind the faults. -/
def onMemory (action : Action MemoryDriver Value) : Action HostBench Value :=
  onDriver (Faulty.pass action)

/-- The driver behind the faults. -/
def memory (bench : HostBench) : MemoryDriver := bench.host.driver.driver

/-- Go on with what a name is bound to. -/
def bound
    (table : HostBench → Table String Value)
    (name : String)
    (continuation : Value → Action HostBench HostAnswer) :
    Action HostBench HostAnswer :=
  fun bench =>
    match (table bench).get? name with
    | none => ⟨.unbound name, bench, []⟩
    | some value => continuation value bench

/-- Go on with what the host side knows under a number. -/
def known
    (table : Host BenchDriver → Table Nat Value)
    (number : Nat)
    (continuation : Value → Action HostBench HostAnswer) :
    Action HostBench HostAnswer :=
  fun bench =>
    match (table bench.host).get? number with
    | none => ⟨.unbound (toString number), bench, []⟩
    | some value => continuation value bench

/-- Answer an outcome. -/
def conclude
    (outcome : Outcome Value)
    (continuation : Value → Action HostBench HostAnswer) :
    Action HostBench HostAnswer :=
  match outcome with
  | .error failure => .answer (.failed failure)
  | .ok value => continuation value

/-- Answer that something was done, or why not. -/
def report (outcome : Outcome Unit) : HostAnswer :=
  match outcome with
  | .error failure => .failed failure
  | .ok () => .done

/-- The entries of a table in the order of their names. -/
def inOrder (table : Table String Value) : List (String × Value) :=
  table.entries.mergeSort fun left right => !(right.1 < left.1)

/-- Do something with every entry of a list. -/
def forEach (action : Value → Action HostBench Unit) :
    List Value → Action HostBench Unit
  | [] => return ()
  | first :: rest => do
      action first
      forEach action rest

/-- A pump, an asynchronous session or a parked call uses the session. -/
def isShared (bench : HostBench) (session : SessionId) : Bool :=
  bench.wrappers.values.contains session ||
    bench.parkedOn.contains session ||
    bench.pumps.values.any fun entry =>
      !entry.taken && entry.pump.session == session

/-- Send a packet back if there is room; a refusal does not matter, a call that
breaks off does. -/
def sendBack (session : SessionId) (content : Bytes) :
    Action (Host BenchDriver) (Outcome Unit) := do
  match ← trySend session content with
  | .error (.crashed message) => return .error (.crashed message)
  | _ => return .ok ()

/-- What the handler of a pump does with a packet. -/
def handler (entry : BenchPump) : Handler BenchDriver := fun content => do
  if entry.breakOn.isSome && entry.breakOn == content.head? then
    return .error (.crashed "handler broke off")
  else
    if entry.echo then sendBack entry.pump.session content
    else return .ok ()

/-- Let a pump run until it sleeps or is over, at most for a number of steps. -/
def runPump (limit : Nat) (id : String) (entry : BenchPump) :
    Action HostBench ReadPump := do
  let progress ← onHost
    (proceed (ReadPump.step (handler entry)) limit entry.pump).untraced
  let entry := entry.afterTurn progress
  Action.change fun bench =>
    { bench with pumps := bench.pumps.insert id entry }
  return entry.pump

/-- Let an abandoned wait run; it is kept if it sleeps again. -/
def runAbandoned (call : WaitReadable) : Action HostBench Unit := do
  match ← onHost (proceed WaitReadable.step turn call).untraced with
  | .running next | .asleep next _ =>
      Action.change fun bench =>
        { bench with abandoned := bench.abandoned ++ [next] }
  | .finished _ => return ()

/-- Let all threads run until they sleep or are over, for one turn at most. -/
def runThreads : Action HostBench Unit := do
  let bench ← Action.current
  forEach (fun (id, entry) => do
    let _ ← runPump entry.turn id entry) bench.pumps.entries
  Action.change fun bench => { bench with abandoned := [] }
  forEach runAbandoned bench.abandoned

/-- How the managers look: open adapters and active sessions of each one. -/
def managerViews (bench : HostBench) : List (String × Nat × Nat) :=
  bench.managers.entries.filterMap fun (name, id) =>
    (bench.host.managers.get? id).map fun manager =>
      (name, manager.openAdapters, manager.activeSessions)

end HostBench
end Bench
end VirtualAdapter

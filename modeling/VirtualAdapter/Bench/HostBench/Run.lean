import VirtualAdapter.Bench.HostBench.Threads

/-!
# A bench for the host side: carrying out commands
-/

namespace VirtualAdapter
namespace Bench
namespace HostBench

open Host Memory

/-- Make a record of the driver, if it has a sink. -/
def driverRecord (level : LogLevel) (message : String) :
    Action HostBench HostAnswer := do
  let driver ← Action.inspect memory
  Action.leave (driver.record level message)
  return .flag driver.sink.isSome

/-- Bind a new event. -/
def newSignal (id : String) : Action HostBench HostAnswer := do
  conclude (← onDriver Driver.newEvent) fun event => do
    Action.change fun bench =>
      { bench with signals := bench.signals.insert id event }
    return .done

/-- Carry out a command, its threads left aside. -/
def perform : HostCommand → Action HostBench HostAnswer
  | .plant method fault => do
      onDriver (Faulty.plant method fault)
      return .done
  | .heal => do
      onDriver Faulty.heal
      return .done
  | .claimBounds bounds => do
      onDriver (Action.change fun driver =>
        { driver with claimedBounds := bounds })
      return .done
  | .driverRecord level message => driverRecord level message
  | .newSignal id => newSignal id
  | .setSignal id =>
      bound (·.signals) id fun event => do
        return report (← onDriver (Driver.setEvent event))
  | .resetSignal id =>
      bound (·.signals) id fun event => do
        return report (← onDriver (Driver.resetEvent event))
  | .signalIsSet id =>
      bound (·.signals) id fun event => do
        return .flag (← onDriver (Driver.isEventSet event))
  | .newManager id config => newManager id config
  | .dropManager name => dropManager name
  | .describeManager name =>
      bound (·.managers) name fun id =>
        known (·.managers) id fun manager =>
          Action.inspect fun bench => .text (bench.host.managerText manager)
  | .setLogger name logger =>
      bound (·.managers) name fun _ => do
        return report (← onHost (Host.setLogger logger))
  | .driverVersion name =>
      bound (·.managers) name fun _ => do
        conclude (← onHost Host.driverVersion) fun version =>
          return .text version.text
  | .deleteDriver name =>
      bound (·.managers) name fun manager => do
        return report (← onHost (Host.deleteDriver manager))
  | .driverInstalled name =>
      bound (·.managers) name fun _ =>
        Action.inspect fun bench => .flag bench.memory.installed
  | .create name id config =>
      bound (·.managers) name fun manager => do
        bindAdapter id (← onHost (Host.createAdapter manager config))
  | .openExisting manager id name =>
      bound (·.managers) manager fun manager => do
        bindAdapter id (← onHost (Host.openAdapter manager name))
  | .viewAdapter name => viewAdapter name
  | .close name => releaseAdapter name Host.closeAdapter
  | .dropAdapter name =>
      releaseAdapter name fun adapter => do
        Host.dropAdapter adapter
        return .ok ()
  | .start id name config => start id name config
  | .viewSession name => viewSession name
  | .stats name =>
      bound (·.sessions) name fun id =>
        known (·.sessions) id fun session => return .stats session.stats
  | .shutdown name =>
      bound (·.sessions) name fun session => do
        return report (← onHost (Host.shutdown session))
  | .finish name => finish name
  | .tryReceive name id =>
      bound (·.sessions) name fun session => do
        bindPacket id (← onHost (Host.tryReceive session))
  | .tryReceiveInto name length =>
      bound (·.sessions) name fun session => do
        return .copied
          (← onHost (Host.tryReceiveInto session (blankBuffer length)))
  | .alloc name id size =>
      bound (·.sessions) name fun session => do
        bindPacket id (← onHost (Host.allocateSend session size))
  | .trySend name content =>
      bound (·.sessions) name fun session => do
        return report (← onHost (Host.trySend session content))
  | .blocking request id => blocking request id
  | .viewPacket name => viewPacket name
  | .write name start content => write name start content
  | .finishPacket name => giveBack name Host.finishPacket
  | .dropPacket name => giveBack name Host.dropPacket
  | .pump name id echo breakOn => newPump name id echo breakOn
  | .viewPump id => viewPump id
  | .stopPump id => withPump id (stopPump id)
  | .joinPump id => withPump id (joinPump id)
  | .dropPump id =>
      withPump id fun entry => do
        let _ ← stopPump id entry
        return .done
  | .async name id owned => newWrapper name id owned
  | .asyncReceive id timeout => asyncReceive id timeout
  | .asyncAbandon id => asyncAbandon id
  | .asyncSend id content => asyncSend id content
  | .asyncShutdown id =>
      bound (·.wrappers) id fun session => do
        return report (← onHost (Host.shutdown session))
  | .asyncDrop id => asyncDrop id
  | .parked request wake => parked request (perform wake)
  | .peer command => do return .peer (← onMemory command.run)
  | .unknown name => return .unbound name

/-- Carry out a command and let all threads run after it; a session ends with
the last that refers to it, which may be a thread. -/
def run (command : HostCommand) : Action HostBench HostAnswer := do
  let answer ← perform command
  endUnreferred
  runThreads
  endUnreferred.untraced
  return answer

/-- Stop a pump that was not taken. -/
def closePump (entry : String × BenchPump) : Action HostBench Unit := do
  if !entry.2.taken then
    let _ ← stopPump entry.1 entry.2
    endUnreferred

/-- Let go of an asynchronous session. -/
def closeWrapper (entry : String × SessionId) : Action HostBench Unit := do
  let _ ← asyncDrop entry.1
  endUnreferred

/-- Drop a packet. -/
def closePacket (entry : String × PacketId) : Action HostBench Unit := do
  dropNamed entry
  endUnreferred

/-- Take all faults out and let go of everything, users before what they use. -/
def close : Action HostBench Unit := do
  onDriver Faulty.heal
  let bench ← Action.current
  forEach closePump (inOrder bench.pumps)
  forEach closeWrapper (inOrder bench.wrappers)
  runThreads
  endUnreferred.untraced
  forEach closePacket (inOrder bench.packets)
  forEach (fun (_, session) => letSessionEnd session)
    (inOrder bench.sessions)
  forEach (fun (_, adapter) => onHost (Host.dropAdapter adapter))
    (inOrder bench.adapters)
  forEach (fun (_, manager) => onHost (Host.dropManager manager))
    (inOrder bench.managers)

end HostBench
end Bench
end VirtualAdapter

import VirtualAdapter.Bench.HostBench.Devices

/-!
# A bench for the host side: packets and blocking calls
-/

namespace VirtualAdapter
namespace Bench
namespace HostBench

open Host

/-- The byte that fills the buffers into which packets are copied. -/
def fillByte : UInt8 := 0xEE

/-- A buffer into which a packet is copied. -/
def blankBuffer (length : Nat) : Bytes := List.replicate length fillByte

/-- Keep a borrowed packet under a name and show its bytes. -/
def bindPacket (id : String) (outcome : Outcome PacketId) :
    Action HostBench HostAnswer :=
  conclude outcome fun packet => do
    let old ← Action.inspect fun bench => bench.packets.get? id
    Action.change fun bench =>
      { bench with packets := bench.packets.insert id packet }
    replaced old Host.dropPacket
    known (·.packets) packet fun held =>
      Action.inspect fun bench => .received (bench.host.packetBytes held)

/-- Show the bytes of a packet and give it back at once. -/
def showAndRelease (outcome : Outcome PacketId) : Action HostBench HostAnswer :=
  conclude outcome fun packet =>
    known (·.packets) packet fun held => do
      let content ← Action.inspect fun bench => bench.host.packetBytes held
      onHost (Host.finishPacket packet)
      return .received content

/-- Show a packet. -/
def viewPacket (name : String) : Action HostBench HostAnswer :=
  bound (·.packets) name fun packet =>
    known (·.packets) packet fun held =>
      Action.inspect fun bench =>
        .packet (bench.host.packetBytes held) (Host.packetText held)

/-- Change the bytes of a packet that is to be sent and show them. -/
def write (name : String) (start : Nat) (content : Bytes) :
    Action HostBench HostAnswer :=
  bound (·.packets) name fun packet =>
    known (·.packets) packet fun held =>
      match held.direction with
      | .inbound => return .unbound name
      | .outbound => do
          onHost (Host.writePacket held start content)
          Action.inspect fun bench => .content (bench.host.packetBytes held)

/-- Give a packet back; its name is not bound any more. -/
def giveBack
    (name : String)
    (action : PacketId → Action (Host BenchDriver) Unit) :
    Action HostBench HostAnswer :=
  bound (·.packets) name fun packet => do
    onHost (action packet)
    Action.change fun bench =>
      { bench with packets := bench.packets.erase name }
    return .done

/-- Go on with the event that interrupts a call. -/
def withInterrupt
    (request : BlockingRequest)
    (continuation : Option EventHandle → Action HostBench HostAnswer) :
    Action HostBench HostAnswer :=
  match request.kind with
  | .receiveInterruptible | .waitReadableInterruptible
  | .sendInterruptible _ =>
      bound (·.signals) request.interrupt fun event => continuation (some event)
  | .receive | .waitReadable | .receiveInto _ | .send _ | .receiveAsync =>
      continuation none

/-- A call of a kind at its start. -/
def prepare
    (session : SessionId)
    (request : BlockingRequest)
    (interrupt : Option EventHandle) :
    Action (Host BenchDriver) Blocking := do
  match request.kind, interrupt with
  | .receive, _ | .receiveInterruptible, _ =>
      return .receive (← Host.receive session interrupt request.timeout)
  | .waitReadable, _ | .waitReadableInterruptible, _ =>
      return .wait (← Host.waitReadable session interrupt request.timeout)
  | .receiveInto length, _ =>
      return .copy (← Host.receive session none none) (blankBuffer length)
  | .sendInterruptible content, some event =>
      return .sendInterruptible (Host.sendInterruptible session content event)
  | .send content, _ | .sendInterruptible content, none =>
      return .send (← Host.send session content)
  | .receiveAsync, _ =>
      return .receiveAsync (← Host.receiveAsync session request.timeout)

/-- Go on with a call at its start and the session that it is made on. -/
def withCall
    (request : BlockingRequest)
    (continuation : SessionId → Blocking → Action HostBench HostAnswer) :
    Action HostBench HostAnswer :=
  bound (·.sessions) request.session fun session =>
    withInterrupt request fun interrupt => do
      continuation session (← onHost (prepare session request interrupt))

/-- Answer what a blocking call came to, given what becomes of a packet. -/
def answerResult
    (keep : Outcome PacketId → Action HostBench HostAnswer)
    (result : Option BlockingResult) : Action HostBench HostAnswer :=
  match result with
  | none => return .endless
  | some (.received outcome) => keep outcome
  | some (.copied copied) => return .copied copied
  | some (.readable outcome) => conclude outcome fun flag => return .flag flag
  | some (.sent outcome) => return report outcome
  | some (.consumed outcome) =>
      conclude outcome fun content => return .received content

/-- Make a blocking call; a packet that it receives is kept under a name. -/
def blocking (request : BlockingRequest) (id : String) :
    Action HostBench HostAnswer :=
  withCall request fun _ call => do
    answerResult (bindPacket id) (← onHost call.toEnd)

end HostBench
end Bench
end VirtualAdapter

import VirtualAdapter.Host.Finish

/-!
# Borrowed packets

A borrowed packet goes back to the driver exactly once: a received one when it
is released, one to be sent when it is sent or, zeroed and uncounted, when it
is dropped.
-/

namespace VirtualAdapter
namespace Host

variable {State : Type} [Driver State]

/-- Keep a packet that the driver has lent. -/
def keepPacket
    (session : SessionId)
    (direction : Direction)
    (raw : RawPacket) : Action (Host State) PacketId := do
  let id ← freshNumber
  Action.change fun host =>
    { host with packets := host.packets.insert id { session, direction, raw } }
  return id

/-- Forget a packet that goes back to the driver. -/
def forgetPacket (id : PacketId) : Action (Host State) Unit :=
  Action.change fun host => { host with packets := host.packets.erase id }

/-- The bytes of a packet. -/
def packetBytes (host : Host State) (packet : HeldPacket) : Bytes :=
  Driver.readPacket packet.raw host.driver

/-- Change the bytes of a packet from a place on. -/
def writePacket
    (packet : HeldPacket)
    (start : Nat)
    (content : Bytes) : Action (Host State) Unit :=
  changeDriver (Driver.writePacket packet.raw start content)

/-- Give a received packet back. -/
def releaseReceived
    (id : PacketId)
    (packet : HeldPacket)
    (session : Session) : Action (Host State) Unit := do
  forgetPacket id
  ask (Driver.releaseReceived session.handle packet.raw)

/-- Send a packet and count it. -/
def commitPacket
    (id : PacketId)
    (packet : HeldPacket)
    (session : Session) : Action (Host State) Unit := do
  forgetPacket id
  ask (Driver.sendPacket session.handle packet.raw)
  count packet.session (·.recordSent packet.raw.length)
  Action.trace .trace "sent packet" [("len", toString packet.raw.length)]

/-- Send zeros in the place of a packet, without counting it. -/
def discardPacket
    (id : PacketId)
    (packet : HeldPacket)
    (session : Session) : Action (Host State) Unit := do
  Action.trace .warn "send packet dropped unsent, committing zeroed buffer"
    [("len", toString packet.raw.length)]
  writePacket packet 0 (Bytes.zeros packet.raw.length)
  forgetPacket id
  ask (Driver.sendPacket session.handle packet.raw)

/-- Go on with a packet and the session that borrowed it. -/
def withPacket
    (id : PacketId)
    (continuation : HeldPacket → Session → Action (Host State) Unit) :
    Action (Host State) Unit := do
  match ← packet? id with
  | none => return ()
  | some packet =>
      match ← session? packet.session with
      | none => return ()
      | some session => continuation packet session

/-- Be done with a packet: release a received one, send one to be sent. -/
def finishPacket (id : PacketId) : Action (Host State) Unit :=
  withPacket id fun packet session =>
    match packet.direction with
    | .inbound => releaseReceived id packet session
    | .outbound => commitPacket id packet session

/-- Drop a packet: release a received one, discard one to be sent. -/
def dropPacket (id : PacketId) : Action (Host State) Unit :=
  withPacket id fun packet session =>
    match packet.direction with
    | .inbound => releaseReceived id packet session
    | .outbound => discardPacket id packet session

/-- The description of a packet. -/
def packetText (packet : HeldPacket) : String :=
  let name :=
    match packet.direction with
    | .inbound => "ReceivedPacket"
    | .outbound => "SendPacket"
  Text.describeFields name [("len", toString packet.raw.length)]

end Host
end VirtualAdapter

import VirtualAdapter.Host.Packet

/-!
# Calls on a session that do not block

Every call looks at the shutdown first.  A call that cannot be served at once
is refused with an error that says whether it may succeed later.
-/

namespace VirtualAdapter
namespace Host

variable {State : Type} [Driver State]

/-- The session was shut down. -/
def isShutDown (session : Session) : Action (Host State) Bool :=
  ask (Driver.isEventSet session.shutdownEvent)

/-- The driver's event says that packets can be received. -/
def isReadable (session : Session) : Action (Host State) Bool :=
  ask (Driver.isEventSet session.readEvent)

/-- Go on with a session that is running and was not shut down. -/
def whileOpen
    {Value : Type}
    (id : SessionId)
    (continuation : Session → Action (Host State) (Outcome Value)) :
    Action (Host State) (Outcome Value) := do
  match ← session? id with
  | none => return refuse .sessionEnded
  | some session =>
      if ← isShutDown session then return refuse .sessionEnded
      else continuation session

/-- Borrow the next received packet. -/
def tryReceive (id : SessionId) : Action (Host State) (Outcome PacketId) :=
  whileOpen id fun session => do
    match ← ask (Driver.receivePacket session.handle) with
    | .error failure => return .error failure
    | .ok raw =>
        count id (·.recordReceived raw.length)
        Action.trace .trace "received packet" [("len", toString raw.length)]
        return .ok (← keepPacket id .inbound raw)

/-- Count a buffer that was refused because the ring was full. -/
def noteRefusal
    (id : SessionId)
    (size : Nat)
    (failure : Failure) : Action (Host State) Unit :=
  match failure with
  | .refused (.resourceExhausted _) => do
      count id (·.recordRingFull)
      Action.trace .trace "send ring full" [("size", toString size)]
  | _ => return ()

/-- Borrow a buffer to be sent. -/
def allocateSend
    (id : SessionId)
    (size : Nat) : Action (Host State) (Outcome PacketId) :=
  whileOpen id fun session => do
    match validatePacketSize size with
    | .error error => return refuse error
    | .ok size =>
        match ← ask (Driver.allocateSend session.handle size) with
        | .ok raw => return .ok (← keepPacket id .outbound raw)
        | .error failure =>
            noteRefusal id size failure
            return .error failure

/-- Send one packet, if the ring has room. -/
def trySend
    (id : SessionId)
    (content : Bytes) : Action (Host State) (Outcome Unit) := do
  match ← allocateSend id content.length with
  | .error failure => return .error failure
  | .ok packet =>
      withPacket packet fun held session => do
        writePacket held 0 content
        commitPacket packet held session
      return .ok ()

/-- What became of copying a packet. -/
structure Copied where
  /-- The number of bytes, or why nothing was copied. -/
  outcome : Outcome Nat
  /-- The caller's buffer afterwards. -/
  buffer : Bytes

/-- The refusal of a buffer that is too short. -/
def bufferTooSmall (room length : Nat) : Error :=
  .invalidArgument
    s!"buffer of {room} bytes is too small for a {length}-byte packet"

/-- Copy a received packet to the start of a buffer and give it back; it is
given back also if the buffer is too short. -/
def copyOut
    (received : Outcome PacketId)
    (buffer : Bytes) : Action (Host State) Copied := do
  match received with
  | .error failure => return ⟨.error failure, buffer⟩
  | .ok id =>
      match ← packet? id with
      | none => return ⟨refuse .sessionEnded, buffer⟩
      | some packet =>
          let content ← Action.inspect fun host => host.packetBytes packet
          finishPacket id
          if buffer.length < packet.raw.length then
            return ⟨refuse (bufferTooSmall buffer.length packet.raw.length),
              buffer⟩
          else
            return ⟨.ok packet.raw.length, Bytes.overwrite 0 content buffer⟩

/-- Copy the next packet into a buffer. -/
def tryReceiveInto
    (id : SessionId)
    (buffer : Bytes) : Action (Host State) Copied := do
  copyOut (← tryReceive id) buffer

/-- The description of a session. -/
def sessionText
    (host : Host State)
    (session : Session)
    (isShutDown : Bool) : String :=
  Text.describeFields "Session"
    [("adapter", Text.quoted (host.sessionName session)),
      ("handle", Driver.sessionText host.driver session.handle),
      ("capacity", toString session.capacity),
      ("shut_down", Text.truth isShutDown)]

end Host
end VirtualAdapter

import VirtualAdapter.Proofs.Host.Outcomes
import VirtualAdapter.Proofs.Host.Refusals
import VirtualAdapter.Proofs.Memory.Lending
import VirtualAdapter.Proofs.Signal.Bank
import VirtualAdapter.Model.SessionTrial

/-!
# What changes in a session trial

A trial has one adapter with one session.  Its operations change the two
rings, the events, the counters and the packets that are held; everything else
stays as the set-up has left it.
-/

namespace VirtualAdapter
namespace Model

open Host (AdapterId HeldPacket PacketId SessionId)
open Memory (MemoryDriver RunningSession)
open Memory.MemoryDriver (packetAt)
open VirtualAdapter.Ring (PacketRing)
open VirtualAdapter.Ring.PacketRing (Arranged)
open Signal (Bank)

/-- The adapter of a trial. -/
def trialAdapter : AdapterId := 2

/-- The session of a trial. -/
def trialSession : SessionId := 3

/-- The driver's handle of the session. -/
def trialHandle : SessionHandle := ⟨3⟩

/-- The packet that the host holds when a ring has lent it at a position. -/
def heldAt
    (direction : Direction)
    (ring : PacketRing)
    (position : Nat) : HeldPacket where
  session := trialSession
  direction := direction
  raw := packetAt trialHandle direction ring position

/-- The parts of a trial that its operations change. -/
structure Traffic where
  /-- Packets on their way to the host. -/
  inbound : PacketRing
  /-- Packets on their way to the network side. -/
  outbound : PacketRing
  /-- The event of the session and the one of its shutdown. -/
  signals : Bank
  /-- What the session has counted. -/
  stats : SessionStats
  /-- The packets that the host holds. -/
  packets : Table PacketId HeldPacket
  /-- The number given out last. -/
  lastNumber : Nat

namespace Traffic

/-- The session as the driver keeps it. -/
def entry (traffic : Traffic) : RunningSession where
  device := 1
  inbound := traffic.inbound
  outbound := traffic.outbound
  readEvent := 0
  failed := false

/-- The driver of a trial. -/
def driver (traffic : Traffic) (capacity : UInt32) : MemoryDriver where
  devices :=
    ⟨[(1,
      { name := SessionTrial.adapterName
        luid := .ofParts 1 Luid.virtualInterface
        guid := none, handles := 1, session := some 3 })]⟩
  adapters := ⟨[(2, ⟨1, true⟩)]⟩
  sessions := ⟨[(3, traffic.entry)]⟩
  lastNumber := 3
  lastIndex := 1
  slotsInUse := 2 * capacity.toNat
  calls := [.create SessionTrial.adapterName, .start SessionTrial.adapterName]
  signals := traffic.signals

/-- The session as the host keeps it. -/
def session (traffic : Traffic) (capacity : UInt32) : Host.Session where
  adapter := trialAdapter
  handle := trialHandle
  readEvent := ⟨0⟩
  shutdownEvent := ⟨1⟩
  capacity := capacity
  config := { ringCapacity := some capacity }
  stats := traffic.stats

/-- The host of a trial. -/
def host (traffic : Traffic) (capacity : UInt32) : Host MemoryDriver where
  driver := traffic.driver capacity
  managers :=
    ⟨[(1,
      { minVersion := none, deleteOnDrop := false, openAdapters := 1
        activeSessions := 1
        running := [Host.deviceKey SessionTrial.adapterName] })]⟩
  adapters :=
    ⟨[(trialAdapter,
      { manager := 1, handle := ⟨2⟩, name := SessionTrial.adapterName
        sessionActive := true })]⟩
  sessions := ⟨[(trialSession, traffic.session capacity)]⟩
  packets := traffic.packets
  lastNumber := traffic.lastNumber

/-- Nothing was moved yet. -/
def fresh (capacity : UInt32) : Traffic where
  inbound := .ofCapacity capacity
  outbound := .ofCapacity capacity
  signals := ((({} : Bank).newSignal).2.newSignal).2
  stats := {}
  packets := ∅
  lastNumber := 3

/-- The host after the adapter was created. -/
def created : Host MemoryDriver where
  driver :=
    { devices :=
        ⟨[(1,
          { name := SessionTrial.adapterName
            luid := .ofParts 1 Luid.virtualInterface
            guid := none, handles := 1, session := none })]⟩
      adapters := ⟨[(2, ⟨1, true⟩)]⟩
      lastNumber := 2
      lastIndex := 1
      calls := [.create SessionTrial.adapterName] }
  managers := ⟨[(1, { minVersion := none, deleteOnDrop := false
                      openAdapters := 1 })]⟩
  adapters :=
    ⟨[(trialAdapter,
      { manager := 1, handle := ⟨2⟩, name := SessionTrial.adapterName })]⟩
  lastNumber := 2

/-- The session starts with a capacity that the driver accepts. -/
theorem startSession_created
    {capacity : UInt32}
    (valid : CapacityBounds.inMemory.validate capacity = .ok capacity) :
    (Host.startSession trialAdapter { ringCapacity := some capacity }
        created).value = .ok trialSession ∧
      (Host.startSession trialAdapter { ringCapacity := some capacity }
        created).state = (fresh capacity).host capacity := by
  have granted :
      (Driver.startSession ⟨2⟩ capacity created.driver).value =
        .ok trialHandle ∧
      (Driver.startSession ⟨2⟩ capacity created.driver).state =
        created.driver.started 1 capacity := by
    change (MemoryDriver.startSession ⟨2⟩ capacity created.driver).value = _ ∧
      (MemoryDriver.startSession ⟨2⟩ capacity created.driver).state = _
    rw [MemoryDriver.startSession, valid]
    exact ⟨rfl, rfl⟩
  have bounds : Driver.capacityBounds created.driver = .inMemory := rfl
  have asked : Host.Start.capacity? .inMemory { ringCapacity := some capacity } =
      .ok capacity := valid
  have found : created.adapters.get? trialAdapter =
      some { manager := 1, handle := ⟨2⟩, name := SessionTrial.adapterName } :=
    rfl
  have managed : created.managers.get? 1 =
      some { minVersion := none, deleteOnDrop := false, openAdapters := 1 } :=
    rfl
  have event := @MemoryDriver.readWaitEvent_started created.driver 1 capacity
  change Driver.readWaitEvent trialHandle (created.driver.started 1 capacity) =
    _ at event
  simp [Host.startSession, bounds, asked, Host.Start.steps, Host.Start.longest,
    Host.Start.step, Host.Start.advance, Host.Start.claimFlag,
    Host.Start.claimName, Host.Start.admission, found, managed, granted, event,
    Host.newEvent_eq]
  refine ⟨rfl, ?_⟩
  rw [Traffic.host, Traffic.driver, ← Nat.zero_add (2 * capacity.toNat)]
  rfl

/-- The set-up of a trial. -/
theorem setUp_eq
    {capacity : UInt32}
    (valid : CapacityBounds.inMemory.validate capacity = .ok capacity) :
    (SessionTrial.setUp capacity { driver := {} }).value =
        .ok (trialAdapter, trialSession) ∧
      (SessionTrial.setUp capacity { driver := {} }).state =
        (fresh capacity).host capacity := by
  obtain ⟨value, state⟩ := startSession_created valid
  have manager : (Host.newManager { logger := .disabled }
      ({ driver := {} } : Host MemoryDriver)).value = .ok 1 := rfl
  have adapter : (Host.createAdapter 1 { name := SessionTrial.adapterName }
      (Host.newManager { logger := .disabled }
        ({ driver := {} } : Host MemoryDriver)).state).value =
          .ok trialAdapter := rfl
  have before : (Host.createAdapter 1 { name := SessionTrial.adapterName }
      (Host.newManager { logger := .disabled }
        ({ driver := {} } : Host MemoryDriver)).state).state = created := rfl
  simp only [SessionTrial.setUp, Action.value_bind, Action.state_bind, manager,
    adapter, before, value, state, Action.value_pure, Action.state_pure,
    and_self]

variable {traffic : Traffic} {capacity : UInt32}

/-- After its shutdown the session is closed. -/
theorem isClosed_of_shut (shut : traffic.signals.isSet 1 = true) :
    Host.IsClosed trialSession (traffic.host capacity) := by
  intro session found
  obtain rfl : traffic.session capacity = session := Option.some.inj found
  exact congrArg (fun set => (⟨set, _, []⟩ : Reply MemoryDriver Bool)) shut

/-- A call that the session refuses after its shutdown leaves everything as it
is. -/
theorem whileOpen_shut
    {Value : Type}
    (shut : traffic.signals.isSet 1 = true)
    (continuation : Host.Session → Action (Host MemoryDriver) (Outcome Value)) :
    (Host.whileOpen trialSession continuation (traffic.host capacity)).value =
        refuse .sessionEnded ∧
      (Host.whileOpen trialSession continuation (traffic.host capacity)).state =
        traffic.host capacity := by
  rw [(isClosed_of_shut shut).whileOpen]
  exact ⟨rfl, rfl⟩

/-- Before its shutdown the session goes on with a call. -/
theorem whileOpen_open
    {Value : Type}
    (unshut : traffic.signals.isSet 1 = false)
    (continuation : Host.Session → Action (Host MemoryDriver) (Outcome Value)) :
    (Host.whileOpen trialSession continuation (traffic.host capacity)).value =
        (continuation (traffic.session capacity) (traffic.host capacity)).value ∧
      (Host.whileOpen trialSession continuation (traffic.host capacity)).state =
        (continuation (traffic.session capacity)
          (traffic.host capacity)).state := by
  have found : (traffic.host capacity).sessions.get? trialSession =
      some (traffic.session capacity) := rfl
  have isSet : Driver.isEventSet (traffic.session capacity).shutdownEvent
      (traffic.host capacity).driver =
        ⟨false, (traffic.host capacity).driver, []⟩ :=
    congrArg (fun set => (⟨set, _, []⟩ : Reply MemoryDriver Bool)) unshut
  simp [Host.whileOpen, Host.isShutDown, found, isSet]

/-- Going on with a packet that is held. -/
theorem state_withPacket
    {id : PacketId}
    {packet : HeldPacket}
    (found : traffic.packets.get? id = some packet)
    (owner : packet.session = trialSession)
    (continuation :
      HeldPacket → Host.Session → Action (Host MemoryDriver) Unit) :
    (Host.withPacket id continuation (traffic.host capacity)).state =
      (continuation packet (traffic.session capacity)
        (traffic.host capacity)).state := by
  have held : (traffic.host capacity).packets.get? id = some packet := found
  have session : (traffic.host capacity).sessions.get? trialSession =
      some (traffic.session capacity) := rfl
  simp only [Host.withPacket, Action.state_bind, Host.value_packet?,
    Host.state_packet?, held, owner, Host.value_session?, Host.state_session?,
    session]

/-- The bytes of a packet that is held are those of its slot. -/
theorem value_contentOf
    {id : PacketId}
    {direction : Direction}
    {position : Nat}
    (arranged : Arranged (MemoryDriver.ring traffic.entry direction))
    (found : traffic.packets.get? id =
      some (heldAt direction (MemoryDriver.ring traffic.entry direction)
        position)) :
    (SessionTrial.contentOf id (traffic.host capacity)).value =
      some ((MemoryDriver.ring traffic.entry direction).slotAt
        position).buffer := by
  have packet : (traffic.host capacity).packets.get? id = _ := found
  have session : (traffic.driver capacity).sessions.get? trialHandle.number =
      some traffic.entry := rfl
  rw [SessionTrial.contentOf, Action.value_inspect, packet]
  exact congrArg some
    (MemoryDriver.readPacket_packetAt session arranged position)

/-- The shutdown sets its event. -/
theorem state_shutdown :
    (Host.shutdown trialSession (traffic.host capacity)).state =
      { traffic with signals := traffic.signals.set 1 }.host capacity := rfl

end Traffic
end Model
end VirtualAdapter

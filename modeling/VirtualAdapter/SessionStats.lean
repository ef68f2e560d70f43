import VirtualAdapter.Text.Quoted

/-!
# Session counters

What a session has moved so far, in 64-bit counters.
-/

namespace VirtualAdapter

/-- The counters of a session. -/
structure SessionStats where
  /-- Packets received. -/
  packetsReceived : UInt64 := 0
  /-- Their bytes. -/
  bytesReceived : UInt64 := 0
  /-- Packets sent. -/
  packetsSent : UInt64 := 0
  /-- Their bytes. -/
  bytesSent : UInt64 := 0
  /-- Buffers refused because the send ring was full. -/
  sendRingFull : UInt64 := 0
  deriving DecidableEq

namespace SessionStats

/-- Count a received packet. -/
def recordReceived (stats : SessionStats) (bytes : Nat) : SessionStats :=
  { stats with
    packetsReceived := stats.packetsReceived + 1
    bytesReceived := stats.bytesReceived + UInt64.ofNat bytes }

/-- Count a sent packet. -/
def recordSent (stats : SessionStats) (bytes : Nat) : SessionStats :=
  { stats with
    packetsSent := stats.packetsSent + 1
    bytesSent := stats.bytesSent + UInt64.ofNat bytes }

/-- Count a refused buffer. -/
def recordRingFull (stats : SessionStats) : SessionStats :=
  { stats with sendRingFull := stats.sendRingFull + 1 }

/-- The difference of two counters, zero where the earlier one is larger. -/
def difference (later earlier : UInt64) : UInt64 :=
  if earlier ≤ later then later - earlier else 0

/-- What was counted between two readings. -/
def delta (now earlier : SessionStats) : SessionStats where
  packetsReceived := difference now.packetsReceived earlier.packetsReceived
  bytesReceived := difference now.bytesReceived earlier.bytesReceived
  packetsSent := difference now.packetsSent earlier.packetsSent
  bytesSent := difference now.bytesSent earlier.bytesSent
  sendRingFull := difference now.sendRingFull earlier.sendRingFull

/-- The description of the counters. -/
def text (stats : SessionStats) : String :=
  Text.describeFields "SessionStats"
    [("packets_received", toString stats.packetsReceived),
      ("bytes_received", toString stats.bytesReceived),
      ("packets_sent", toString stats.packetsSent),
      ("bytes_sent", toString stats.bytesSent),
      ("send_ring_full", toString stats.sendRingFull)]

end SessionStats
end VirtualAdapter

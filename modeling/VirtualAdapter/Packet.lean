import VirtualAdapter.Text.Digits

/-!
# Packets in driver memory

A driver lends packets as an address, a length and a tag of its own choice.
Two lent packets are the same exactly when all three agree.
-/

namespace VirtualAdapter

/-- The content of a packet. -/
abbrev Bytes := List UInt8

namespace Bytes

/-- `count` zero bytes. -/
def zeros (count : Nat) : Bytes := List.replicate count 0

/-- Put new content over the old from a place on, keeping the length. -/
def overwrite (start : Nat) (new old : Bytes) : Bytes :=
  old.take start ++ new.take (old.length - start) ++
    old.drop (start + new.length)

/-- Overwriting keeps the length. -/
@[simp]
theorem length_overwrite (start : Nat) (new old : Bytes) :
    (overwrite start new old).length = old.length := by
  simp [overwrite]
  omega

/-- All bytes as lower-case hexadecimal digits. -/
def hex (bytes : Bytes) : String :=
  String.ofList (bytes.flatMap fun byte => Text.fixedHex .lower 2 byte.toNat)

/-- The sum of all bytes, each times its place counted from one, in 32 bits. -/
def placeSum (bytes : Bytes) : Nat :=
  (bytes.foldl (fun (place, total) byte =>
    (place + 1, (total + place * byte.toNat) % 0x100000000)) (1, 0)).2

/-- How a content is shown: short ones whole, long ones by their ends. -/
inductive Shown
  /-- Every byte. -/
  | whole (digits : String)
  /-- The length, sixteen bytes at either end and the place sum. -/
  | ends (length : Nat) (head tail : String) (sum : Nat)

/-- Contents of at most 64 bytes are shown whole. -/
def shown (bytes : Bytes) : Shown :=
  if bytes.length ≤ 64 then .whole bytes.hex
  else
    .ends bytes.length (hex (bytes.take 16))
      (hex (bytes.drop (bytes.length - 16))) bytes.placeSum

/-- The shown form as one text without blanks, fields in the order of their names. -/
def Shown.text : Shown → String
  | .whole digits => "\"" ++ digits ++ "\""
  | .ends length head tail sum =>
      "\x7b\"head\":\"" ++ head ++ "\",\"len\":" ++ toString length ++
        ",\"sum\":" ++ toString sum ++ ",\"tail\":\"" ++ tail ++ "\"\x7d"

end Bytes

/-- The way packets take through an adapter. -/
inductive Direction
  /-- From the network side to the application. -/
  | inbound
  /-- From the application to the network side. -/
  | outbound
  deriving DecidableEq

/-- A region of driver memory; different regions have different addresses. -/
inductive Buffer
  /-- The buffer of one slot of one ring of one session. -/
  | slot (session : Nat) (direction : Direction) (index : Nat)
  /-- A buffer known by its number alone. -/
  | numbered (number : Nat)
  deriving DecidableEq

/-- A place in driver memory. -/
structure Address where
  /-- The region. -/
  buffer : Buffer
  /-- The distance from its start. -/
  offset : Int := 0
  deriving DecidableEq

/-- A packet as the driver lends it. -/
structure RawPacket where
  /-- Where its first byte is. -/
  address : Address
  /-- How many bytes it has. -/
  length : Nat
  /-- The driver's own mark. -/
  tag : UInt64 := 0
  deriving DecidableEq

namespace RawPacket

/-- The same memory under another mark. -/
def withTag (packet : RawPacket) (tag : UInt64) : RawPacket :=
  { packet with tag }

/-- The packet has no bytes. -/
def isEmpty (packet : RawPacket) : Bool := packet.length == 0

/-- The bytes of a packet that starts with its buffer. -/
def view (packet : RawPacket) (memory : Bytes) : Bytes :=
  memory.take packet.length

/-- The buffer after the packet's first bytes were overwritten. -/
def update (packet : RawPacket) (content memory : Bytes) : Bytes :=
  Bytes.overwrite 0 (content.take packet.length) memory

end RawPacket
end VirtualAdapter

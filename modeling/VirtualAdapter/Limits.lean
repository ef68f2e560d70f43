import VirtualAdapter.Error
import VirtualAdapter.Text.Utf16

/-!
# Limits

Which ring capacities, names and packet sizes are acceptable, and how each of
them is refused.
-/

namespace VirtualAdapter

/-- The capacities that a driver accepts for a ring. -/
structure CapacityBounds where
  /-- The smallest capacity. -/
  min : UInt32
  /-- The largest capacity. -/
  max : UInt32
  /-- The capacity of a session that asks for none. -/
  default : UInt32
  deriving DecidableEq

namespace CapacityBounds

/-- The bounds of the kernel driver, in bytes. -/
def kernel : CapacityBounds := ⟨0x20000, 0x4000000, 0x400000⟩

/-- The bounds of the in-memory driver, in packets. -/
def inMemory : CapacityBounds := ⟨4, 4096, 256⟩

end CapacityBounds

/-- A number is a power of two; zero is none. -/
def isPowerOfTwo (value : UInt32) : Bool :=
  value != 0 && value &&& (value - 1) == 0

/-- A capacity has to be a power of two, and then within the bounds. -/
def CapacityBounds.validate
    (bounds : CapacityBounds)
    (capacity : UInt32) : Except Error UInt32 :=
  if !isPowerOfTwo capacity then
    .error (.invalidArgument
      s!"ring capacity {capacity} is not a power of two")
  else if capacity < bounds.min || bounds.max < capacity then
    .error (.invalidArgument
      s!"ring capacity {capacity} not in [{bounds.min},{bounds.max}]")
  else .ok capacity

/-- The most code units that a name may take, its terminator included. -/
def maxPoolUnits : Nat := 256

/-- The largest packet in bytes. -/
def maxPacketSize : Nat := 0xFFFF

/-- A name is not empty, holds no NUL and fits the pool with its terminator. -/
def validatePoolString (what value : String) : Except Error Unit :=
  if value.isEmpty then
    .error (.invalidArgument s!"{what} is empty")
  else if value.toList.contains '\x00' then
    .error (.invalidArgument s!"{what} contains NUL")
  else if maxPoolUnits < (Text.Utf16.encodeTerminated value).length then
    .error (.invalidArgument s!"{what} too long")
  else .ok ()

/-- A packet has at least one byte and at most `maxPacketSize`. -/
def validatePacketSize (size : Nat) : Except Error Nat :=
  if size = 0 || maxPacketSize < size then
    .error (.invalidArgument
      s!"packet size {size} not in [1,{maxPacketSize}]")
  else .ok size

end VirtualAdapter

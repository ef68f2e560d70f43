import VirtualAdapter.Text.Digits

/-!
# Local interface identifiers

An identifier keeps a 24-bit index in bits 24 to 47 and the interface type in
bits 48 to 63.
-/

namespace VirtualAdapter

/-- The locally unique identifier of a network interface. -/
structure Luid where
  /-- All 64 bits. -/
  raw : UInt64
  deriving DecidableEq

namespace Luid

/-- The interface type of virtual adapters. -/
def virtualInterface : UInt16 := 53

/-- The identifier of an interface that is not there. -/
def none : Luid := ⟨0⟩

/-- Put an index, cut to 24 bits, and an interface type together. -/
def ofParts (index : UInt32) (interfaceType : UInt16) : Luid :=
  ⟨((index &&& 0x00FFFFFF).toUInt64 <<< 24) |||
    (interfaceType.toUInt64 <<< 48)⟩

/-- The 24-bit index. -/
def index (luid : Luid) : UInt32 :=
  ((luid.raw >>> 24) &&& 0x00FFFFFF).toUInt32

/-- The interface type. -/
def interfaceType (luid : Luid) : UInt16 :=
  (luid.raw >>> 48).toUInt16

/-- Sixteen hexadecimal digits after the mark. -/
def text (luid : Luid) : String :=
  "0x" ++ Text.fixedHexText .lower 16 luid.raw.toNat

end Luid
end VirtualAdapter

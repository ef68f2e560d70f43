import VirtualAdapter.Text.Digits

/-!
# Globally unique identifiers

An identifier is a 128-bit value that divides, from the top, into fields of
32, 16, 16 and eight times 8 bits.  Its registry text shows them in upper
case, the eight bytes as a group of two and a group of six.
-/

namespace VirtualAdapter

/-- The identifier of an adapter instance. -/
structure Guid where
  /-- All 128 bits. -/
  value : BitVec 128
  deriving DecidableEq

namespace Guid

/-- Take the lowest 128 bits of a number. -/
def ofNat (value : Nat) : Guid := ⟨BitVec.ofNat 128 value⟩

/-- The identifier as a number. -/
def toNat (guid : Guid) : Nat := guid.value.toNat

/-- The highest 32 bits. -/
def data1 (guid : Guid) : UInt32 :=
  UInt32.ofNat (guid.toNat >>> 96)

/-- The 16 bits below the first field. -/
def data2 (guid : Guid) : UInt16 :=
  UInt16.ofNat (guid.toNat >>> 80)

/-- The 16 bits below the second field. -/
def data3 (guid : Guid) : UInt16 :=
  UInt16.ofNat (guid.toNat >>> 64)

/-- The lowest eight bytes, highest first. -/
def data4 (guid : Guid) : List UInt8 :=
  (List.range 8).map fun place =>
    UInt8.ofNat (guid.toNat >>> (8 * (7 - place)))

/-- The bytes of the last field as upper-case digits. -/
def byteDigits (bytes : List UInt8) : List Char :=
  bytes.flatMap fun byte => Text.fixedHex .upper 2 byte.toNat

/-- The registry form, character by character. -/
def textChars (guid : Guid) : List Char :=
  ['\x7b'] ++ Text.fixedHex .upper 8 guid.data1.toNat ++
    ['-'] ++ Text.fixedHex .upper 4 guid.data2.toNat ++
    ['-'] ++ Text.fixedHex .upper 4 guid.data3.toNat ++
    ['-'] ++ byteDigits (guid.data4.take 2) ++
    ['-'] ++ byteDigits (guid.data4.drop 2) ++ ['\x7d']

/-- The registry form. -/
def text (guid : Guid) : String :=
  String.ofList guid.textChars

end Guid
end VirtualAdapter

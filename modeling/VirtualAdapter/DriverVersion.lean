/-!
# Driver versions

A version is a major and a minor number, which a driver reports as the halves
of one 32-bit word.
-/

namespace VirtualAdapter

/-- The version of a running driver. -/
structure DriverVersion where
  /-- The leading number. -/
  major : UInt16
  /-- The number that counts within one major version. -/
  minor : UInt16
  deriving DecidableEq

namespace DriverVersion

/-- Split a 32-bit word: the high half is the major number. -/
def ofRaw (raw : UInt32) : DriverVersion :=
  ⟨(raw >>> 16).toUInt16, (raw &&& 0xFFFF).toUInt16⟩

/-- The 32-bit word of a version. -/
def raw (version : DriverVersion) : UInt32 :=
  (version.major.toUInt32 <<< 16) ||| version.minor.toUInt32

/-- The major numbers decide first, then the minor ones. -/
def order (left right : DriverVersion) : Ordering :=
  (compare left.major right.major).then (compare left.minor right.minor)

/-- The first version came out before the second. -/
def isOlder (left right : DriverVersion) : Bool :=
  left.order right == .lt

/-- Both numbers with a point between them. -/
def text (version : DriverVersion) : String :=
  s!"{version.major}.{version.minor}"

end DriverVersion
end VirtualAdapter

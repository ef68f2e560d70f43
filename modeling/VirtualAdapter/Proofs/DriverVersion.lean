import VirtualAdapter.DriverVersion
import Mathlib.Data.Nat.Bitwise

/-!
# The order of driver versions

One version is older than another if its major number is less, or if that is
the same and its minor number is less.  The words that drivers report are in
the same order.
-/

namespace VirtualAdapter
namespace DriverVersion

variable (left right : DriverVersion)

/-- The word of a version is its major number above its minor one. -/
theorem toNat_raw (version : DriverVersion) :
    version.raw.toNat =
      version.major.toNat * 2 ^ 16 + version.minor.toNat := by
  have high : (version.major.toUInt32 <<< 16).toNat =
      version.major.toNat * 2 ^ 16 := by
    rw [UInt32.toNat_shiftLeft, UInt16.toNat_toUInt32, Nat.shiftLeft_eq]
    have bound := version.major.toNat_lt
    exact Nat.mod_eq_of_lt (by change _ * 2 ^ 16 < _; omega)
  rw [raw, UInt32.toNat_or, high, UInt16.toNat_toUInt32, Nat.mul_comm]
  exact (Nat.two_pow_add_eq_or_of_lt version.minor.toNat_lt _).symm

/-- The first version is at most the second one: the major numbers decide
first, then the minor ones. -/
def AtMost (left right : DriverVersion) : Prop :=
  left.major < right.major ∨
    left.major = right.major ∧ left.minor ≤ right.minor

/-- The words of two versions are in the order of the versions. -/
theorem raw_le_raw_iff : left.raw ≤ right.raw ↔ left.AtMost right := by
  rw [AtMost, UInt32.le_iff_toNat_le, toNat_raw, toNat_raw,
    UInt16.lt_iff_toNat_lt, UInt16.le_iff_toNat_le, ← UInt16.toNat_inj]
  have := left.minor.toNat_lt
  have := right.minor.toNat_lt
  omega

theorem isOlder_iff :
    left.isOlder right = true ↔
      left.major < right.major ∨
        left.major = right.major ∧ left.minor < right.minor := by
  rw [isOlder, beq_iff_eq, order, Ordering.then_eq_lt]
  simp only [Std.compare_eq_lt, Std.LawfulEqCmp.compare_eq_iff_eq]

/-- A version is at most another one that is not older. -/
theorem isOlder_eq_false_iff :
    left.isOlder right = false ↔ right.AtMost left := by
  rw [← Bool.not_eq_true, isOlder_iff, AtMost, UInt16.lt_iff_toNat_lt,
    UInt16.lt_iff_toNat_lt, UInt16.lt_iff_toNat_lt, UInt16.le_iff_toNat_le,
    ← UInt16.toNat_inj, ← UInt16.toNat_inj]
  omega

end DriverVersion
end VirtualAdapter

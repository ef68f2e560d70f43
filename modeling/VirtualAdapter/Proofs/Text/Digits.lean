import Mathlib.Tactic.Ring
import VirtualAdapter.Text.Digits

/-!
# Digits are read back

Numbers written in a fixed number of hexadecimal digits divide where the digits
do, and reading digits gives the number of which they are the lowest ones.
-/

namespace VirtualAdapter
namespace Text

variable (letters : LetterCase)

/-- A decimal digit or one of the letters from A to F. -/
def IsUpperHex (digit : Char) : Prop :=
  '0' ≤ digit ∧ digit ≤ '9' ∨ 'A' ≤ digit ∧ digit ≤ 'F'

instance (digit : Char) : Decidable (IsUpperHex digit) :=
  inferInstanceAs (Decidable (_ ∨ _))

/-- Upper-case digits have a value. -/
theorem isSome_of_isUpperHex
    {digit : Char}
    (among : IsUpperHex digit) : (hexDigitValue? digit).isSome = true := by
  unfold hexDigitValue?
  rcases among with decimal | letter
  · rw [if_pos decimal]
    rfl
  · rw [if_pos letter]
    split <;> rfl

/-- A digit shows what is left of a value. -/
theorem hexDigit_mod (value : Nat) :
    hexDigit letters (value % 16) = hexDigit letters value := by
  unfold hexDigit
  rw [Nat.mod_mod]

/-- What a digit shows is read back, in either case. -/
theorem hexDigitValue?_hexDigit (value : Nat) :
    hexDigitValue? (hexDigit letters value) = some (value % 16) := by
  have each : ∀ remainder : Fin 16,
      hexDigitValue? (hexDigit letters remainder) = some remainder.val := by
    cases letters <;> decide +kernel
  rw [← hexDigit_mod]
  exact each ⟨value % 16, Nat.mod_lt _ (by decide)⟩

theorem isUpperHex_hexDigit (value : Nat) :
    IsUpperHex (hexDigit .upper value) := by
  have each : ∀ remainder : Fin 16,
      IsUpperHex (hexDigit .upper remainder) := by
    decide +kernel
  rw [← hexDigit_mod]
  exact each ⟨value % 16, Nat.mod_lt _ (by decide)⟩

/-- Digits that are asked for in upper case are. -/
theorem isUpperHex_of_mem_fixedHex
    {width value : Nat}
    {digit : Char}
    (member : digit ∈ fixedHex .upper width value) : IsUpperHex digit := by
  induction width generalizing value with
  | zero => cases member
  | succ width hypothesis =>
      rw [fixedHex, List.mem_append, List.mem_singleton] at member
      rcases member with higher | rfl
      · exact hypothesis higher
      · exact isUpperHex_hexDigit value

/-- What lies above the digits does not show. -/
theorem fixedHex_mod (width value : Nat) :
    fixedHex letters width (value % 16 ^ width) =
      fixedHex letters width value := by
  induction width generalizing value with
  | zero => rfl
  | succ width hypothesis =>
      have higher : value % 16 ^ (width + 1) / 16 = value / 16 % 16 ^ width := by
        rw [Nat.pow_succ', Nat.mod_mul_right_div_self]
      have lowest : value % 16 ^ (width + 1) % 16 = value % 16 :=
        Nat.mod_mod_of_dvd value ⟨16 ^ width, Nat.pow_succ'⟩
      rw [fixedHex, fixedHex, higher, hypothesis, ← hexDigit_mod, lowest,
        hexDigit_mod]

/-- The digits of a number are those of its higher part before those of its
lower one. -/
theorem fixedHex_append (high low value : Nat) :
    fixedHex letters high (value / 16 ^ low) ++ fixedHex letters low value =
      fixedHex letters (high + low) value := by
  induction low generalizing value with
  | zero => simp [fixedHex]
  | succ low hypothesis =>
      have onwards : value / 16 ^ (low + 1) = value / 16 / 16 ^ low := by
        rw [Nat.div_div_eq_div_mul, Nat.pow_succ']
      rw [onwards, ← Nat.add_assoc, fixedHex, fixedHex, ← List.append_assoc,
        hypothesis]

/-- Digits at a place follow those above it. -/
theorem fixedHex_append_div (high width low value : Nat) :
    fixedHex letters high (value / 16 ^ (low + width)) ++
        fixedHex letters width (value / 16 ^ low) =
      fixedHex letters (high + width) (value / 16 ^ low) := by
  rw [Nat.pow_add, ← Nat.div_div_eq_div_mul, fixedHex_append]

/-- The first digits are those of the higher part. -/
theorem take_fixedHex (high low value : Nat) :
    (fixedHex letters (high + low) value).take high =
      fixedHex letters high (value / 16 ^ low) := by
  rw [← fixedHex_append]
  exact List.take_left' (length_fixedHex ..)

/-- The last digits are those of the lower part. -/
theorem drop_fixedHex (high low value : Nat) :
    (fixedHex letters (high + low) value).drop high =
      fixedHex letters low value := by
  rw [← fixedHex_append]
  exact List.drop_left' (length_fixedHex ..)

/-- The digits of a number from the highest one on, as they are read. -/
theorem foldlM_fixedHex (width value total : Nat) :
    (fixedHex letters width value).foldlM
        (fun total digit => (hexDigitValue? digit).map (total * 16 + ·)) total =
      some (total * 16 ^ width + value % 16 ^ width) := by
  induction width generalizing value with
  | zero => simp [fixedHex, Nat.mod_one]
  | succ width hypothesis =>
      have parts : value % 16 ^ (width + 1) =
          value % 16 + 16 * (value / 16 % 16 ^ width) := by
        rw [Nat.pow_succ', Nat.mod_mul]
      rw [fixedHex, List.foldlM_append, hypothesis, parts]
      simp only [Option.bind_eq_bind, Option.bind_some, List.foldlM_cons,
        List.foldlM_nil, hexDigitValue?_hexDigit, Option.map_some, pure]
      exact congrArg some (by ring)

/-- The digits of a number are read as what they can show of it. -/
theorem readHex?_fixedHex (width value : Nat) :
    readHex? (fixedHex letters width value) = some (value % 16 ^ width) := by
  rw [readHex?, foldlM_fixedHex, Nat.zero_mul, Nat.zero_add]

end Text
end VirtualAdapter

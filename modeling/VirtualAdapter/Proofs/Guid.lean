import Mathlib.Tactic.Ring
import VirtualAdapter.Guid
import VirtualAdapter.Proofs.Text.Digits

/-!
# The registry text of an identifier

The fields of an identifier are places of one number of 32 hexadecimal digits.
Its text shows these digits in order, so that the text says which identifier it
is.
-/

namespace VirtualAdapter
namespace Guid

open Text (IsUpperHex fixedHex hexDigitValue? readHex?)

/-- The number of bytes that come highest first. -/
def bigEndian (bytes : List UInt8) : Nat :=
  bytes.foldl (fun total byte => total * 256 + byte.toNat) 0

/-- Digits between braces, with a dash after the 8th, the 12th, the 16th and
the 20th. -/
def registryForm (digits : List Char) : List Char :=
  ['\x7b'] ++ digits.take 8 ++
    ['-'] ++ (digits.drop 8).take 4 ++
    ['-'] ++ (digits.drop 12).take 4 ++
    ['-'] ++ (digits.drop 16).take 4 ++
    ['-'] ++ digits.drop 20 ++ ['\x7d']

/-- The hexadecimal digits in a text. -/
def digitsOf (text : String) : List Char :=
  text.toList.filter fun character => (hexDigitValue? character).isSome

variable (guid : Guid)

/-! ## Fields -/

theorem toNat_data1 : guid.data1.toNat = guid.toNat / 16 ^ 24 % 16 ^ 8 :=
  UInt32.toNat_ofNat'.trans
    (congrArg (· % 16 ^ 8) (Nat.shiftRight_eq_div_pow guid.toNat 96))

theorem toNat_data2 : guid.data2.toNat = guid.toNat / 16 ^ 20 % 16 ^ 4 :=
  UInt16.toNat_ofNat'.trans
    (congrArg (· % 16 ^ 4) (Nat.shiftRight_eq_div_pow guid.toNat 80))

theorem toNat_data3 : guid.data3.toNat = guid.toNat / 16 ^ 16 % 16 ^ 4 :=
  UInt16.toNat_ofNat'.trans
    (congrArg (· % 16 ^ 4) (Nat.shiftRight_eq_div_pow guid.toNat 64))

/-- The bytes that begin at a place, highest first. -/
def bytesAbove (value low : Nat) : (count : Nat) → List UInt8
  | 0 => []
  | count + 1 =>
      UInt8.ofNat (value / 16 ^ (low + 2 * count)) :: bytesAbove value low count

theorem length_bytesAbove (value low count : Nat) :
    (bytesAbove value low count).length = count := by
  induction count with
  | zero => rfl
  | succ count hypothesis => rw [bytesAbove, List.length_cons, hypothesis]

/-- The last field has the bytes from the lowest place on. -/
theorem data4_eq : guid.data4 = bytesAbove guid.toNat 0 8 := by
  simp only [data4, Nat.shiftRight_eq_div_pow]
  rfl

/-- Bytes below a number are added to it. -/
theorem foldl_bytes (bytes : List UInt8) (total : Nat) :
    bytes.foldl (fun total byte => total * 256 + byte.toNat) total =
      total * 256 ^ bytes.length + bigEndian bytes := by
  induction bytes generalizing total with
  | nil => simp [bigEndian]
  | cons byte bytes hypothesis =>
      rw [bigEndian, List.foldl_cons, List.foldl_cons, hypothesis, hypothesis,
        List.length_cons, Nat.pow_succ', Nat.zero_mul, Nat.zero_add,
        Nat.add_mul, Nat.mul_assoc, Nat.add_assoc]

/-- The bytes from a place on are the part of the number that they hold. -/
theorem bigEndian_bytesAbove (value low count : Nat) :
    bigEndian (bytesAbove value low count) =
      value / 16 ^ low % 256 ^ count := by
  induction count with
  | zero => exact (Nat.mod_one _).symm
  | succ count hypothesis =>
      have highest : value / 16 ^ (low + 2 * count) =
          value / 16 ^ low / 256 ^ count := by
        rw [Nat.pow_add, Nat.pow_mul, ← Nat.div_div_eq_div_mul]
      have parts : value / 16 ^ low % 256 ^ (count + 1) =
          value / 16 ^ low % 256 ^ count +
            256 ^ count * (value / 16 ^ low / 256 ^ count % 256) := by
        rw [Nat.pow_succ, Nat.mod_mul]
      rw [bigEndian, bytesAbove, List.foldl_cons, foldl_bytes,
        length_bytesAbove, hypothesis, UInt8.toNat_ofNat', highest, parts,
        Nat.zero_mul, Nat.zero_add, Nat.add_comm, Nat.mul_comm]

/-- The fields are the whole number, divided. -/
theorem fields_recombine :
    guid.data1.toNat * 2 ^ 96 + guid.data2.toNat * 2 ^ 80 +
        guid.data3.toNat * 2 ^ 64 + bigEndian guid.data4 =
      guid.toNat := by
  -- What lies above a field, followed by the field, lies above the next one.
  have above (low width : Nat) :
      guid.toNat / 16 ^ (low + width) * 16 ^ width +
          guid.toNat / 16 ^ low % 16 ^ width =
        guid.toNat / 16 ^ low := by
    rw [Nat.pow_add, ← Nat.div_div_eq_div_mul]
    exact Nat.div_add_mod' ..
  have first : guid.data1.toNat = guid.toNat / 16 ^ 24 := by
    rw [toNat_data1]
    exact Nat.mod_eq_of_lt (Nat.div_lt_of_lt_mul guid.value.isLt)
  have second := above 20 4
  have third := above 16 4
  have fourth := above 0 16
  rw [← toNat_data2, ← first] at second
  rw [← toNat_data3, ← second] at third
  rw [Nat.zero_add, ← third] at fourth
  have last : bigEndian guid.data4 = guid.toNat / 16 ^ 0 % 16 ^ 16 :=
    (congrArg bigEndian guid.data4_eq).trans (bigEndian_bytesAbove guid.toNat 0 8)
  rw [← last, Nat.pow_zero, Nat.div_one] at fourth
  calc guid.data1.toNat * 2 ^ 96 + guid.data2.toNat * 2 ^ 80 +
        guid.data3.toNat * 2 ^ 64 + bigEndian guid.data4
      = ((guid.data1.toNat * 16 ^ 4 + guid.data2.toNat) * 16 ^ 4 +
          guid.data3.toNat) * 16 ^ 16 + bigEndian guid.data4 := by ring
    _ = guid.toNat := fourth

/-! ## Digits -/

/-- The bytes from a place on show the digits from there on. -/
theorem byteDigits_bytesAbove (value low count : Nat) :
    byteDigits (bytesAbove value low count) =
      fixedHex .upper (2 * count) (value / 16 ^ low) := by
  induction count with
  | zero => rfl
  | succ count hypothesis =>
      have highest : fixedHex .upper 2
          (UInt8.ofNat (value / 16 ^ (low + 2 * count))).toNat =
            fixedHex .upper 2 (value / 16 ^ (low + 2 * count)) := by
        rw [UInt8.toNat_ofNat']
        exact Text.fixedHex_mod ..
      unfold byteDigits at hypothesis ⊢
      rw [bytesAbove, List.flatMap_cons, hypothesis, highest,
        Text.fixedHex_append_div, Nat.mul_succ, Nat.add_comm]

/-- All 32 digits of an identifier. -/
def digits : List Char := fixedHex .upper 32 guid.toNat

/-- The text shows all digits in the registry form. -/
theorem textChars_eq : guid.textChars = registryForm guid.digits := by
  have onwards (high low : Nat) (whole : high + low = 32) :
      guid.digits.drop high = fixedHex .upper low guid.toNat := by
    rw [digits, ← whole, Text.drop_fixedHex]
  have first : guid.digits.take 8 =
      fixedHex .upper 8 (guid.toNat / 16 ^ 24) :=
    Text.take_fixedHex .upper 8 24 guid.toNat
  have fourth : byteDigits (guid.data4.take 2) =
      fixedHex .upper 4 (guid.toNat / 16 ^ 12) := by
    rw [data4_eq]
    exact byteDigits_bytesAbove guid.toNat 12 2
  have last : byteDigits (guid.data4.drop 2) =
      fixedHex .upper 12 guid.toNat := by
    have ends := byteDigits_bytesAbove guid.toNat 0 6
    rw [Nat.pow_zero, Nat.div_one] at ends
    rw [data4_eq]
    exact ends
  rw [textChars, registryForm, fourth, last, first, onwards 8 24 rfl,
    onwards 12 20 rfl, onwards 16 16 rfl, onwards 20 12 rfl,
    Text.take_fixedHex .upper 4 20, Text.take_fixedHex .upper 4 16,
    Text.take_fixedHex .upper 4 12, toNat_data1, toNat_data2, toNat_data3,
    Text.fixedHex_mod, Text.fixedHex_mod, Text.fixedHex_mod]

/-- The digits in a registry form are those that were put into it. -/
theorem digitsOf_registryForm
    {digits : List Char}
    (hexadecimal : ∀ digit ∈ digits, (hexDigitValue? digit).isSome = true) :
    digitsOf (String.ofList (registryForm digits)) = digits := by
  have keeps {part : List Char} (within : part ⊆ digits) :
      (part.filter fun character => (hexDigitValue? character).isSome) = part :=
    List.filter_eq_self.mpr fun digit member => hexadecimal digit (within member)
  have loses {mark : Char} (other : hexDigitValue? mark = none) :
      ([mark].filter fun character => (hexDigitValue? character).isSome) = [] := by
    simp [other]
  have group (start count : Nat) : (digits.drop start).take count ⊆ digits :=
    List.Subset.trans (List.take_subset ..) (List.drop_subset ..)
  have opening := loses (show hexDigitValue? '\x7b' = none by decide)
  have dash := loses (show hexDigitValue? '-' = none by decide)
  have closing := loses (show hexDigitValue? '\x7d' = none by decide)
  rw [digitsOf, String.toList_ofList, registryForm]
  simp only [List.filter_append, opening, dash, closing, List.nil_append,
    List.append_nil]
  rw [keeps (List.take_subset ..), keeps (group 8 4), keeps (group 12 4),
    keeps (group 16 4), keeps (List.drop_subset ..), ← List.take_add,
    ← List.take_add, ← List.take_add]
  exact List.take_append_drop 20 digits

theorem length_registryForm
    {digits : List Char}
    (all : digits.length = 32) : (registryForm digits).length = 38 := by
  simp [registryForm, all]

/-- The digits in the text of an identifier are all of its digits. -/
theorem digitsOf_text : digitsOf guid.text = guid.digits := by
  rw [text, textChars_eq]
  refine digitsOf_registryForm fun digit member => ?_
  exact Text.isSome_of_isUpperHex (Text.isUpperHex_of_mem_fixedHex member)

/-- The fields of an identifier recombine to its value.  Its text is the
registry form of 32 upper-case hexadecimal digits that are read as the value,
so only one identifier has that text. -/
theorem text_tells_value (value : BitVec 128) :
    (Guid.ofNat value.toNat).toNat = value.toNat ∧
    let guid := Guid.ofNat value.toNat
    let digits := digitsOf guid.text
    (guid.data4.length = 8 ∧
      guid.data1.toNat * 2 ^ 96 + guid.data2.toNat * 2 ^ 80 +
        guid.data3.toNat * 2 ^ 64 + bigEndian guid.data4 = value.toNat) ∧
    (guid.text.length = 38 ∧ guid.text.toList = registryForm digits) ∧
    (digits.length = 32 ∧ (∀ digit ∈ digits, IsUpperHex digit) ∧
      readHex? digits = some value.toNat) ∧
    ∀ other : BitVec 128,
      (Guid.ofNat other.toNat).text = guid.text ↔ other = value := by
  have number (value : BitVec 128) :
      (Guid.ofNat value.toNat).toNat = value.toNat := by
    rw [Guid.ofNat, Guid.toNat, BitVec.ofNat_toNat, BitVec.setWidth_eq]
  refine ⟨number value, ?_⟩
  intro guid digits
  have read (value : BitVec 128) :
      readHex? (digitsOf (Guid.ofNat value.toNat).text) = some value.toNat := by
    rw [digitsOf_text, Guid.digits, Text.readHex?_fixedHex, number]
    exact congrArg some (Nat.mod_eq_of_lt value.isLt)
  have shown : digits = guid.digits := digitsOf_text guid
  have all : digits.length = 32 := by
    rw [shown]
    exact Text.length_fixedHex ..
  have form : guid.text.toList = registryForm digits := by
    rw [shown, text, String.toList_ofList, textChars_eq]
  refine ⟨⟨rfl, ?_⟩, ⟨?_, form⟩, ⟨all, fun digit member => ?_, read value⟩, ?_⟩
  · rw [fields_recombine, number]
  · rw [← String.length_toList, form]
    exact length_registryForm all
  · rw [shown] at member
    exact Text.isUpperHex_of_mem_fixedHex member
  · intro other
    refine ⟨fun same => ?_, fun same => by rw [same]⟩
    have alike := read other
    rw [same, read value] at alike
    exact BitVec.eq_of_toNat_eq (Option.some.inj alike).symm

/-- Zeros at the start and within the fields are shown, and the only identifier
with that text is found by reading the digits. -/
theorem text_tells_value_of_many_zeros :
    let value : BitVec 128 := 0x0000000A00B00C00000D0E000000000F
    let text := "\x7b0000000A-00B0-0C00-000D-0E000000000F\x7d"
    (Guid.ofNat value.toNat).text = text ∧
      readHex? "0000000A00B00C00000D0E000000000F".toList = some value.toNat ∧
      IsUpperHex 'F' ∧
      ∀ other : BitVec 128, (Guid.ofNat other.toNat).text = text → other = value := by
  intro value text
  have shown : (Guid.ofNat value.toNat).text = text := by decide +kernel
  have digits : digitsOf text = "0000000A00B00C00000D0E000000000F".toList := by
    decide +kernel
  obtain ⟨_, _, _, ⟨_, among, read⟩, only⟩ := text_tells_value value
  rw [shown, digits] at read among
  rw [shown] at only
  exact ⟨shown, read, among 'F' (by decide), fun other => (only other).mp⟩

end Guid
end VirtualAdapter

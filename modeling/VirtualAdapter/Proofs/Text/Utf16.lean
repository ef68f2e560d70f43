import VirtualAdapter.Text.Utf16

/-!
# Encoded text is read back

The rules of UTF-16 say which code units spell which characters.  Encoding
follows them, and decoding gives the only characters that are spelled; neither
knows of the other.
-/

namespace VirtualAdapter
namespace Text
namespace Utf16

/-- Code units spell characters, each by the unit of its number or by a pair of
surrogates. -/
inductive Spells : List UInt16 → List Char → Prop
  | nil : Spells [] []
  | basic {unit : UInt16} {character : Char}
      {units : List UInt16} {characters : List Char}
      (number : character.toNat = unit.toNat)
      (rest : Spells units characters) :
      Spells (unit :: units) (character :: characters)
  | pair {high low : UInt16} {character : Char}
      {units : List UInt16} {characters : List Char}
      (opens : isHighSurrogate high = true)
      (closes : isLowSurrogate low = true)
      (number : character.toNat =
        0x10000 + (high.toNat - 0xD800) * 0x400 + (low.toNat - 0xDC00))
      (rest : Spells units characters) :
      Spells (high :: low :: units) (character :: characters)

theorem isHighSurrogate_iff {unit : UInt16} :
    isHighSurrogate unit = true ↔
      0xD800 ≤ unit.toNat ∧ unit.toNat < 0xDC00 := by
  simp [isHighSurrogate, UInt16.le_iff_toNat_le, UInt16.lt_iff_toNat_lt]

theorem isLowSurrogate_iff {unit : UInt16} :
    isLowSurrogate unit = true ↔
      0xDC00 ≤ unit.toNat ∧ unit.toNat < 0xE000 := by
  simp [isLowSurrogate, UInt16.le_iff_toNat_le, UInt16.lt_iff_toNat_lt]

/-- No character has the number of a surrogate. -/
theorem toNat_not_surrogate (character : Char) :
    character.toNat < 0xD800 ∨
      0xE000 ≤ character.toNat ∧ character.toNat < 0x110000 := by
  rcases character.valid with low | ⟨high, bounded⟩
  · exact .inl low
  · exact .inr ⟨high, bounded⟩

/-! ## Encoding -/

@[simp]
theorem encode_nil : encode [] = [] := rfl

@[simp]
theorem encode_cons (character : Char) (characters : List Char) :
    encode (character :: characters) =
      encodeChar character ++ encode characters := rfl

theorem encodeChar_of_lt
    {character : Char}
    (small : character.toNat < 0x10000) :
    encodeChar character = [UInt16.ofNat character.toNat] :=
  if_pos small

theorem encodeChar_of_le
    {character : Char}
    (large : 0x10000 ≤ character.toNat) :
    encodeChar character =
      [UInt16.ofNat (0xD800 + (character.toNat - 0x10000) / 0x400),
        UInt16.ofNat (0xDC00 + (character.toNat - 0x10000) % 0x400)] :=
  if_neg (Nat.not_lt.mpr large)

/-- The code units of a text spell it. -/
theorem spells_encode (characters : List Char) :
    Spells (encode characters) characters := by
  induction characters with
  | nil => exact .nil
  | cons character characters hypothesis =>
      rw [encode_cons]
      have bounds := toNat_not_surrogate character
      rcases Nat.lt_or_ge character.toNat 0x10000 with small | large
      · rw [encodeChar_of_lt small]
        exact .basic (UInt16.toNat_ofNat_of_lt small).symm hypothesis
      · -- Both halves of the number fit the surrogates.
        have high : (UInt16.ofNat
            (0xD800 + (character.toNat - 0x10000) / 0x400)).toNat =
              0xD800 + (character.toNat - 0x10000) / 0x400 :=
          UInt16.toNat_ofNat_of_lt (by simp only [UInt16.size]; omega)
        have low : (UInt16.ofNat
            (0xDC00 + (character.toNat - 0x10000) % 0x400)).toNat =
              0xDC00 + (character.toNat - 0x10000) % 0x400 :=
          UInt16.toNat_ofNat_of_lt (by simp only [UInt16.size]; omega)
        rw [encodeChar_of_le large]
        refine .pair ?_ ?_ ?_ hypothesis
        · rw [isHighSurrogate_iff, high]
          omega
        · rw [isLowSurrogate_iff, low]
          omega
        · rw [high, low]
          omega

/-- Every character takes a unit. -/
theorem length_le_length_encode (characters : List Char) :
    characters.length ≤ (encode characters).length := by
  induction characters with
  | nil => exact Nat.le_refl 0
  | cons character characters hypothesis =>
      have one : 1 ≤ (encodeChar character).length := by
        unfold encodeChar
        dsimp only
        split <;> simp
      rw [encode_cons, List.length_append, List.length_cons]
      omega

/-! ## Decoding -/

/-- A unit that is no surrogate stands for itself. -/
theorem decode_basic
    {unit : UInt16}
    (notHigh : isHighSurrogate unit = false)
    (notLow : isLowSurrogate unit = false)
    (units : List UInt16) :
    decode (unit :: units) = Char.ofNat unit.toNat :: decode units := by
  cases units with
  | nil => simp [decode, notHigh, notLow]
  | cons next rest => simp [decode, notHigh, notLow]

/-- A pair of surrogates stands for one character. -/
theorem decode_pair
    {high low : UInt16}
    (opens : isHighSurrogate high = true)
    (closes : isLowSurrogate low = true)
    (units : List UInt16) :
    decode (high :: low :: units) = joinPair high low :: decode units := by
  simp [decode, opens, closes]

namespace Spells

/-- Decoding gives the characters that are spelled. -/
theorem decode_eq
    {units : List UInt16}
    {characters : List Char}
    (spells : Spells units characters) : decode units = characters := by
  induction spells with
  | nil => rfl
  | @basic unit character units characters number _ hypothesis =>
      have bounds := toNat_not_surrogate character
      have notHigh : isHighSurrogate unit = false := by
        rw [← Bool.not_eq_true, isHighSurrogate_iff]
        omega
      have notLow : isLowSurrogate unit = false := by
        rw [← Bool.not_eq_true, isLowSurrogate_iff]
        omega
      rw [decode_basic notHigh notLow, hypothesis, ← number, Char.ofNat_toNat]
  | pair opens closes number _ hypothesis =>
      rw [decode_pair opens closes, hypothesis, joinPair, ← number,
        Char.ofNat_toNat]

/-- Only the character zero is spelled with a zero unit. -/
theorem zero_mem_iff
    {units : List UInt16}
    {characters : List Char}
    (spells : Spells units characters) :
    0 ∈ units ↔ '\x00' ∈ characters := by
  induction spells with
  | nil => simp
  | @basic unit character _ _ number _ hypothesis =>
      have first : 0 = unit ↔ '\x00' = character := by
        rw [← UInt16.toNat_inj, ← Char.toNat_inj, number]
        rfl
      rw [List.mem_cons, List.mem_cons, first, hypothesis]
  | @pair high low character _ _ opens closes number _ hypothesis =>
      have apart : 0 ≠ high ∧ 0 ≠ low ∧ '\x00' ≠ character := by
        rw [isHighSurrogate_iff] at opens
        rw [isLowSurrogate_iff] at closes
        refine ⟨?_, ?_, ?_⟩
        · rintro rfl
          exact absurd opens.1 (by decide)
        · rintro rfl
          exact absurd closes.1 (by decide)
        · rintro rfl
          change 0 = _ at number
          omega
      simp [apart, hypothesis]

/-- Units spell one text at most. -/
theorem unique
    {units : List UInt16}
    {first second : List Char}
    (one : Spells units first)
    (other : Spells units second) : first = second :=
  one.decode_eq.symm.trans other.decode_eq

end Spells

/-- The code units of a text spell it and nothing else. -/
theorem spells_encode_iff {characters others : List Char} :
    Spells (encode characters) others ↔ others = characters := by
  constructor
  · intro spells
    exact spells.unique (spells_encode characters)
  · rintro rfl
    exact spells_encode others

@[simp]
theorem decode_encode (characters : List Char) :
    decode (encode characters) = characters :=
  (spells_encode characters).decode_eq

/-- A text without the character zero has no zero unit. -/
theorem zero_mem_encode_iff {characters : List Char} :
    0 ∈ encode characters ↔ '\x00' ∈ characters :=
  (spells_encode characters).zero_mem_iff

/-! ## Terminated text -/

/-- A reader of terminated text sees a text without the character zero as a
whole, and nothing of what lies beyond its terminator. -/
theorem decodeTerminated_encodeTerminated
    {text : String}
    (whole : '\x00' ∉ text.toList)
    (beyond : List UInt16) :
    decodeTerminated (encodeTerminated text ++ beyond) = text := by
  have nonzero : ∀ unit ∈ encode text.toList, (unit != 0) = true := by
    intro unit member
    rw [bne_iff_ne]
    rintro rfl
    exact whole (zero_mem_encode_iff.mp member)
  rw [decodeTerminated, encodeTerminated, List.append_assoc,
    List.takeWhile_append_of_pos nonzero]
  simp

/-- Different texts have different code units. -/
theorem encodeTerminated_injective : Function.Injective encodeTerminated := by
  intro first second same
  have equal := congrArg decode (List.append_cancel_right same)
  rw [decode_encode, decode_encode] at equal
  exact String.toList_injective equal

/-- The only zero unit of a text without the character zero is the last one. -/
theorem getElem?_encodeTerminated_eq_zero_iff
    {text : String}
    (whole : '\x00' ∉ text.toList)
    (position : Nat) :
    (encodeTerminated text)[position]? = some 0 ↔
      position + 1 = (encodeTerminated text).length := by
  rw [encodeTerminated, List.length_append, List.length_singleton]
  rcases Nat.lt_trichotomy position (encode text.toList).length with
    inside | last | outside
  · rw [List.getElem?_append_left inside]
    constructor
    · intro zero
      exact absurd (zero_mem_encode_iff.mp (List.mem_of_getElem? zero)) whole
    · omega
  · simp [last]
  · rw [List.getElem?_append_right (by omega)]
    simp only [List.getElem?_singleton]
    split
    · omega
    · simp; omega

end Utf16
end Text
end VirtualAdapter

/-!
# Hexadecimal digits

Numbers written in a fixed number of hexadecimal digits, and in as few as
they need.
-/

namespace VirtualAdapter
namespace Text

/-- The case of the letters among hexadecimal digits. -/
inductive LetterCase
  | upper
  | lower
  deriving DecidableEq

/-- The digit of a value below sixteen; larger values show their remainder. -/
def hexDigit (letters : LetterCase) (value : Nat) : Char :=
  let remainder := value % 16
  if remainder < 10 then Char.ofNat (48 + remainder)
  else
    match letters with
    | .upper => Char.ofNat (55 + remainder)
    | .lower => Char.ofNat (87 + remainder)

/-- The lowest `width` hexadecimal digits of a value, highest first. -/
def fixedHex (letters : LetterCase) : (width : Nat) → (value : Nat) → List Char
  | 0, _ => []
  | width + 1, value =>
      fixedHex letters width (value / 16) ++ [hexDigit letters value]

/-- Fixed-width digits are exactly as many as asked for. -/
@[simp]
theorem length_fixedHex
    (letters : LetterCase)
    (width value : Nat) :
    (fixedHex letters width value).length = width := by
  induction width generalizing value with
  | zero => rfl
  | succ width hypothesis => simp [fixedHex, hypothesis]

/-- The text form of `fixedHex`. -/
def fixedHexText
    (letters : LetterCase)
    (width value : Nat) : String :=
  String.ofList (fixedHex letters width value)

/-- The shortest lower-case hexadecimal form of a value, with its `0x` mark. -/
def markedHexText (value : Nat) : String :=
  "0x" ++ String.ofList (Nat.toDigits 16 value)

/-- The value of one hexadecimal digit of either case. -/
def hexDigitValue? (digit : Char) : Option Nat :=
  if '0' ≤ digit ∧ digit ≤ '9' then some (digit.toNat - 48)
  else if 'A' ≤ digit ∧ digit ≤ 'F' then some (digit.toNat - 55)
  else if 'a' ≤ digit ∧ digit ≤ 'f' then some (digit.toNat - 87)
  else none

/-- Read hexadecimal digits, highest first; anything else is refused. -/
def readHex? (digits : List Char) : Option Nat :=
  digits.foldlM (fun total digit =>
    (hexDigitValue? digit).map (total * 16 + ·)) 0

end Text
end VirtualAdapter

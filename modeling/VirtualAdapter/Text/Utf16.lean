/-!
# UTF-16 text

Characters above the basic plane take two code units, a high surrogate and a
low one.  Decoding puts the replacement character in place of every unit that
belongs to no pair.
-/

namespace VirtualAdapter
namespace Text
namespace Utf16

/-- The code units of one character. -/
def encodeChar (character : Char) : List UInt16 :=
  let code := character.toNat
  if code < 0x10000 then [UInt16.ofNat code]
  else
    [UInt16.ofNat (0xD800 + (code - 0x10000) / 0x400),
      UInt16.ofNat (0xDC00 + (code - 0x10000) % 0x400)]

/-- The code units of a text, without a terminator. -/
def encode (characters : List Char) : List UInt16 :=
  characters.flatMap encodeChar

/-- The code units of a text, followed by a zero unit. -/
def encodeTerminated (text : String) : List UInt16 :=
  encode text.toList ++ [0]

/-- The unit opens a pair. -/
def isHighSurrogate (unit : UInt16) : Bool :=
  0xD800 ≤ unit && unit < 0xDC00

/-- The unit closes a pair. -/
def isLowSurrogate (unit : UInt16) : Bool :=
  0xDC00 ≤ unit && unit < 0xE000

/-- The character that stands for a unit without a partner. -/
def replacement : Char := '\uFFFD'

/-- The character of a surrogate pair. -/
def joinPair (high low : UInt16) : Char :=
  Char.ofNat (0x10000 + (high.toNat - 0xD800) * 0x400 + (low.toNat - 0xDC00))

/-- Read code units, replacing every lone surrogate. -/
def decode : List UInt16 → List Char
  | [] => []
  | [unit] =>
      if isHighSurrogate unit || isLowSurrogate unit then [replacement]
      else [Char.ofNat unit.toNat]
  | unit :: next :: rest =>
      if isHighSurrogate unit then
        if isLowSurrogate next then joinPair unit next :: decode rest
        else replacement :: decode (next :: rest)
      else if isLowSurrogate unit then replacement :: decode (next :: rest)
      else Char.ofNat unit.toNat :: decode (next :: rest)

/-- The text before the first zero unit, as a reader of terminated text sees it. -/
def decodeTerminated (units : List UInt16) : String :=
  String.ofList (decode (units.takeWhile (· != 0)))

end Utf16
end Text
end VirtualAdapter

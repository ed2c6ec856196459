/-
# Base64

Two forms are read. The standard form has `+` and `/` and is padded to groups
of four; the URL form has `-` and `_` and no padding. In both, the bits that
the last digit has too many must be zero.

Key definitions: `Alphabet`, `digits?`, `bytesOfDigits?`, `decodePadded?`,
`decodeUnpadded?`.
-/

namespace Halyard.Bytes.Base64

/-- Which characters stand for the digits 62 and 63. -/
structure Alphabet where
  digit62 : Char
  digit63 : Char

/-- The standard alphabet. -/
def standard : Alphabet := ⟨'+', '/'⟩

/-- The alphabet for URLs and file names. -/
def urlSafe : Alphabet := ⟨'-', '_'⟩

/-- The value of a digit. -/
def digit? (a : Alphabet) (c : Char) : Option Nat :=
  let n := c.toNat
  if 0x41 ≤ n && n ≤ 0x5A then some (n - 0x41)
  else if 0x61 ≤ n && n ≤ 0x7A then some (n - 0x61 + 26)
  else if 0x30 ≤ n && n ≤ 0x39 then some (n - 0x30 + 52)
  else if c = a.digit62 then some 62
  else if c = a.digit63 then some 63
  else none

/-- The values of all digits. -/
def digits? (a : Alphabet) (s : List Char) : Option (List Nat) :=
  s.mapM (digit? a)

/-- The bytes that digits spell; the bits left over at the end must be zero. -/
def bytesOfDigits? : List Nat → Option (List UInt8)
  | [] => some []
  | [_] => none
  | [a, b] => if b % 16 = 0 then some [UInt8.ofNat (a * 4 + b / 16)] else none
  | [a, b, c] =>
    if c % 4 = 0 then
      some [UInt8.ofNat (a * 4 + b / 16), UInt8.ofNat (b % 16 * 16 + c / 4)]
    else none
  | a :: b :: c :: d :: rest =>
    (bytesOfDigits? rest).map fun bytes =>
      UInt8.ofNat (a * 4 + b / 16) :: UInt8.ofNat (b % 16 * 16 + c / 4) ::
        UInt8.ofNat (c % 4 * 64 + d) :: bytes

/-- Reads unpadded text. -/
def decodeUnpadded? (a : Alphabet) (s : List Char) : Option (List UInt8) := do
  bytesOfDigits? (← digits? a s)

/-- Reads text that is padded to groups of four. -/
def decodePadded? (a : Alphabet) (s : List Char) : Option (List UInt8) :=
  let padding := (s.reverse.takeWhile (· = '=')).length
  if s.length % 4 = 0 && padding ≤ 2 then decodeUnpadded? a (s.take (s.length - padding)) else none

end Halyard.Bytes.Base64

/-
# Percent encoding

A character outside a set that may stand for itself is written as the bytes of
its UTF-8 form, each as a percent sign and two hexadecimal digits.

Key definitions: `Percent.encode`, `Percent.decode`, `Percent.form`.
-/
import Halyard.Text.Digits
import Halyard.Text.Utf8

namespace Halyard.Text.Percent

/-- A hexadecimal digit, in upper case. -/
def hexDigit (n : Nat) : Char :=
  if n < 10 then Char.ofNat (0x30 + n) else Char.ofNat (0x37 + n)

/-- A byte as a percent sign and two digits. -/
def encodeByte (b : UInt8) : List Char :=
  ['%', hexDigit (b.toNat / 16), hexDigit (b.toNat % 16)]

/-- Encodes the characters that are not printable ASCII and those in `reserved`. -/
def encode (reserved : List Char) (s : List Char) : List Char :=
  s.flatMap fun c =>
    if c.toNat ≤ 0x1F || 0x7E < c.toNat || reserved.contains c then
      (String.utf8EncodeChar c).flatMap encodeByte
    else [c]

/-- The bytes of a text with its percent signs resolved. A percent sign without two
digits stands for itself. -/
def decodeBytes : List Char → List UInt8
  | '%' :: a :: b :: rest =>
    match hexValue? a, hexValue? b with
    | some h, some l => UInt8.ofNat (h * 16 + l) :: decodeBytes rest
    | _, _ => 0x25 :: decodeBytes (a :: b :: rest)
  | c :: rest => String.utf8EncodeChar c ++ decodeBytes rest
  | [] => []

/-- The characters of a text with its percent signs resolved. -/
def decode (s : List Char) : List Char :=
  Utf8.decodeLossy (decodeBytes s)

/-- The form used for the fields of a query: a space becomes a plus sign. -/
def form (s : List Char) : List Char :=
  s.flatMap fun c =>
    if c = ' ' then ['+']
    else if c.isAlphanum || ['*', '-', '.', '_'].contains c then [c]
    else (String.utf8EncodeChar c).flatMap encodeByte

end Halyard.Text.Percent

/-
# UTF-8

Bytes are turned into characters by one machine that takes a byte at a time.
`decode?` refuses malformed input; `decodeLossy` puts U+FFFD for each maximal
run of bytes that begins a character but does not finish it, and goes on with
the byte that broke it off.

Key definitions: `Utf8.Pending`, `Utf8.start`, `Utf8.decode?`,
`Utf8.decodeLossy`, `Utf8.encode`.
-/

namespace Halyard.Text.Utf8

/-- A character of which some bytes are still missing: the bits read so far, the
number of missing bytes, and the range of the next one. -/
structure Pending where
  bits : Nat
  missing : Nat
  low : UInt8
  high : UInt8
deriving DecidableEq

/-- What a first byte says. -/
inductive Start where
  | complete (c : Char)
  | lead (p : Pending)
  | invalid
deriving DecidableEq

/-- Classifies a first byte. The ranges of the second byte leave out overlong
forms, surrogates and numbers past U+10FFFF. -/
def start (b : UInt8) : Start :=
  if b < 0x80 then .complete (Char.ofNat b.toNat)
  else if b < 0xC2 then .invalid
  else if b < 0xE0 then .lead ⟨b.toNat - 0xC0, 1, 0x80, 0xBF⟩
  else if b < 0xF0 then
    .lead ⟨b.toNat - 0xE0, 2, if b = 0xE0 then 0xA0 else 0x80, if b = 0xED then 0x9F else 0xBF⟩
  else if b < 0xF5 then
    .lead ⟨b.toNat - 0xF0, 3, if b = 0xF0 then 0x90 else 0x80, if b = 0xF4 then 0x8F else 0xBF⟩
  else .invalid

namespace Pending

/-- Whether `b` may come next. -/
def accepts (p : Pending) (b : UInt8) : Bool :=
  p.low ≤ b && b ≤ p.high

/-- The bits once `b` is taken in. -/
def extend (p : Pending) (b : UInt8) : Nat :=
  p.bits * 64 + (b.toNat - 0x80)

end Pending

/-- Decodes what follows a pending character, or a fresh start; `none` at the
first malformed byte. -/
def decodeFrom? : Option Pending → List UInt8 → Option (List Char)
  | none, [] => some []
  | some _, [] => none
  | none, b :: bs =>
    match start b with
    | .complete c => (decodeFrom? none bs).map (c :: ·)
    | .lead p => decodeFrom? (some p) bs
    | .invalid => none
  | some p, b :: bs =>
    if p.accepts b then
      if p.missing ≤ 1 then (decodeFrom? none bs).map (Char.ofNat (p.extend b) :: ·)
      else decodeFrom? (some ⟨p.extend b, p.missing - 1, 0x80, 0xBF⟩) bs
    else none

/-- The characters of well-formed UTF-8. -/
def decode? (bytes : List UInt8) : Option (List Char) :=
  decodeFrom? none bytes

/-- U+FFFD, which stands for what could not be decoded. -/
def replacement : Char := Char.ofNat 0xFFFD

/-- Decodes what follows a pending character, or a fresh start, replacing what is
malformed. -/
def decodeLossyFrom : Option Pending → List UInt8 → List Char
  | none, [] => []
  | some _, [] => [replacement]
  | none, b :: bs =>
    match start b with
    | .complete c => c :: decodeLossyFrom none bs
    | .lead p => decodeLossyFrom (some p) bs
    | .invalid => replacement :: decodeLossyFrom none bs
  | some p, b :: bs =>
    if p.accepts b then
      if p.missing ≤ 1 then Char.ofNat (p.extend b) :: decodeLossyFrom none bs
      else decodeLossyFrom (some ⟨p.extend b, p.missing - 1, 0x80, 0xBF⟩) bs
    else
      replacement ::
        match start b with
        | .complete c => c :: decodeLossyFrom none bs
        | .lead q => decodeLossyFrom (some q) bs
        | .invalid => replacement :: decodeLossyFrom none bs

/-- The characters of any bytes, with U+FFFD for what is malformed. -/
def decodeLossy (bytes : List UInt8) : List Char :=
  decodeLossyFrom none bytes

/-- The UTF-8 bytes of a text. -/
def encode (text : List Char) : List UInt8 :=
  text.flatMap String.utf8EncodeChar

/-- The UTF-8 bytes of a string. -/
def ofString (s : String) : List UInt8 :=
  s.toUTF8.toList

end Halyard.Text.Utf8

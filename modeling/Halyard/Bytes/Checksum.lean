/-
# Checksums

CRC-32 (reflected polynomial `EDB88320`) and Adler-32, and numbers of several
bytes in either order.

Key definitions: `crc32`, `adler32`, `littleEndian`, `bigEndian`.
-/

namespace Halyard.Bytes

/-- One step of division by the CRC polynomial. -/
def crcShift (c : UInt32) : UInt32 :=
  if c &&& 1 = 1 then (c >>> 1) ^^^ 0xEDB88320 else c >>> 1

/-- The CRC register after a byte. -/
def crcByte (c : UInt32) (b : UInt8) : UInt32 :=
  let c := c ^^^ b.toUInt32
  crcShift (crcShift (crcShift (crcShift (crcShift (crcShift (crcShift (crcShift c)))))))

/-- The CRC-32 of a byte sequence. -/
def crc32 (bytes : Array UInt8) : Nat :=
  (bytes.foldl crcByte 0xFFFFFFFF ^^^ 0xFFFFFFFF).toNat

/-- The Adler-32 checksum of a byte sequence. -/
def adler32 (bytes : Array UInt8) : Nat :=
  let (a, b) := bytes.foldl
    (fun (s : Nat × Nat) x =>
      let a := (s.1 + x.toNat) % 65521
      (a, (s.2 + a) % 65521)) (1, 0)
  b * 65536 + a

/-- The number whose least significant byte comes first. -/
def littleEndian : List UInt8 → Nat
  | [] => 0
  | b :: bs => b.toNat + 256 * littleEndian bs

/-- The number whose most significant byte comes first. -/
def bigEndian (bytes : List UInt8) : Nat :=
  bytes.foldl (fun n b => n * 256 + b.toNat) 0

end Halyard.Bytes

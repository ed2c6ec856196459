/-
# Compressed containers

Deflate data comes in one of two wrappers. Gzip has a header with optional
parts and ends in the CRC-32 and the length of the data; zlib has two bytes in
front and ends in the Adler-32 checksum. Only the first gzip member is read,
and what follows a container is ignored.

Key definitions: `gunzip?`, `unzlib?`.
-/
import Halyard.Bytes.Checksum
import Halyard.Bytes.Deflate

namespace Halyard.Bytes

/-- The longest optional text or field that a gzip header may hold. -/
def maxHeaderField : Nat := 65535

/-- What follows the next zero byte. -/
def skipText? (bytes : List UInt8) : Option (List UInt8) :=
  let text := bytes.takeWhile (· != 0)
  if maxHeaderField < text.length then none
  else match bytes.drop text.length with
    | [] => none
    | _ :: rest => some rest

/-- What follows a field that is preceded by its length in two bytes. -/
def skipField? : List UInt8 → Option (List UInt8)
  | a :: b :: rest =>
    let n := littleEndian [a, b]
    if n ≤ rest.length then some (rest.drop n) else none
  | _ => none

/-- Applies `f` if the flag is set. -/
def whenSet? (flag : Bool) (f : List UInt8 → Option (List UInt8)) (bytes : List UInt8) :
    Option (List UInt8) :=
  if flag then f bytes else some bytes

/-- What follows a gzip header. Reserved flags are refused, and a checksum of the
header has to hold. -/
def skipGzipHeader? (bytes : List UInt8) : Option (List UInt8) := do
  let 0x1F :: 0x8B :: 0x08 :: flags :: _ :: _ :: _ :: _ :: _ :: _ :: rest := bytes | none
  if flags &&& 0xE0 != 0 then none
  let rest ← whenSet? (flags &&& 4 != 0) skipField? rest
  let rest ← whenSet? (flags &&& 8 != 0) skipText? rest
  let rest ← whenSet? (flags &&& 16 != 0) skipText? rest
  whenSet? (flags &&& 2 != 0)
    (fun
      | a :: b :: tail =>
        let header := bytes.take (bytes.length - rest.length)
        if crc32 header.toArray % 65536 = littleEndian [a, b] then some tail else none
      | _ => none) rest

/-- The data of the first gzip member. -/
def gunzip? (bytes : List UInt8) : Option (List UInt8) := do
  let (out, trailer) ← Deflate.inflate? (← skipGzipHeader? bytes)
  if 8 ≤ trailer.length && littleEndian (trailer.take 4) = crc32 out
      && littleEndian ((trailer.drop 4).take 4) = out.size % Nat.pow 2 32 then
    return out.toList
  else none

/-- The data of a zlib container. The window may not be larger than 32 KiB and
there may be no preset dictionary. -/
def unzlib? : List UInt8 → Option (List UInt8)
  | method :: flags :: rest => do
    if (method.toNat * 256 + flags.toNat) % 31 != 0 || method.toNat % 16 != 8
        || 7 < method.toNat / 16 || flags &&& 0x20 != 0 then none
    let (out, trailer) ← Deflate.inflate? rest
    if 4 ≤ trailer.length && bigEndian (trailer.take 4) = adler32 out then return out.toList
    else none
  | _ => none

end Halyard.Bytes

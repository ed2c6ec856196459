/-
# Inline payloads

An update message may carry the new definition: base64 text whose bytes are
plain, gzipped or in a zlib container, as a code says.

Key definitions: `PayloadError`, `decodePayload`.
-/
import Halyard.Bytes.Base64
import Halyard.Bytes.Compression
import Halyard.Text.Blank

namespace Halyard.Push

open Bytes

/-- Why a message or its payload could not be read. -/
inductive PayloadError where
  | base64
  | inflate
  | json
  | unknownCompression (code : Nat)
deriving DecidableEq

namespace PayloadError

/-- The wording of a payload error. -/
def message : PayloadError → String
  | .base64 => "invalid base64: not the standard form"
  | .inflate => "could not inflate payload: damaged data"
  | .json => "invalid JSON: not the expected document"
  | .unknownCompression code => "unknown compression type " ++ toString code

end PayloadError

/-- How the bytes of a payload are compressed. -/
inductive Compression where
  | plain
  | gzip
  | zlib
deriving DecidableEq

namespace Compression

/-- The compression that a code stands for. -/
def ofCode : Nat → Except PayloadError Compression
  | 0 => .ok .plain
  | 1 => .ok .gzip
  | 2 => .ok .zlib
  | code => .error (.unknownCompression code)

/-- The bytes before they were compressed. -/
def expand? : Compression → List UInt8 → Option (List UInt8)
  | .plain, bytes => some bytes
  | .gzip, bytes => gunzip? bytes
  | .zlib, bytes => unzlib? bytes

end Compression

/-- The bytes of a payload. White space around the base64 text is ignored. -/
def decodePayload (code : Nat) (data : String) : Except PayloadError (List UInt8) := do
  let compression ← Compression.ofCode code
  let some raw := Base64.decodePadded? Base64.standard (Text.trim data.toList) | throw .base64
  let some bytes := compression.expand? raw | throw .inflate
  return bytes

end Halyard.Push

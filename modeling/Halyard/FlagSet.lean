/-
# Flag set names

Flag sets are named by lower-case letters, digits and underscores, up to fifty
characters that do not begin with an underscore. A filter may spell them with
white space around them and with capitals.

Key definitions: `FlagSet.normal`, `FlagSet.valid`, `FlagSet.filter`.
-/
import Halyard.Dict
import Halyard.Text.Blank
import Halyard.Text.Lowercase
import Halyard.Text.Utf8

namespace Halyard.FlagSet

open Text

/-- A name without white space around it and in small letters. -/
def normal (raw : String) : List Char :=
  lowercase (trim raw.toList)

/-- Whether a name may begin with the byte: that of a small letter or of a digit. -/
def startsName (b : UInt8) : Bool :=
  (0x61 ≤ b && b ≤ 0x7A) || (0x30 ≤ b && b ≤ 0x39)

/-- The longest name. -/
def maxLength : Nat := 50

/-- Whether the bytes form a name. Behind the first one there may be underscores. -/
def valid : List UInt8 → Bool
  | [] => false
  | b :: rest =>
    startsName b && rest.length < maxLength && rest.all fun d => startsName d || d = 0x5F

/-- The names that a filter spells, or the first spelling that is not of a name. -/
def filter (raw : List String) : Except String Names := do
  let names ← raw.mapM fun r =>
    if valid (Utf8.encode (normal r)) then .ok (String.ofList (normal r)) else .error r
  return Names.ofList names

end Halyard.FlagSet

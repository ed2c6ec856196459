/-
# Quoted text

A text between double quotes, in which quotes and backslashes are escaped, the
usual control characters have short names, and every other hidden character is
given by its code point.

Key definitions: `Quoted.char`, `quoted`.
-/
import Halyard.Text.Hidden

namespace Halyard.Text

namespace Quoted

/-- A character inside quotes. -/
def char (c : Char) : List Char :=
  if c = '\x00' then ['\\', '0']
  else if c = '\t' then ['\\', 't']
  else if c = '\r' then ['\\', 'r']
  else if c = '\n' then ['\\', 'n']
  else if c = '\\' then ['\\', '\\']
  else if c = '"' then ['\\', '"']
  else if isHidden c then ['\\', 'u', '\x7b'] ++ Nat.toDigits 16 c.toNat ++ ['\x7d']
  else [c]

end Quoted

/-- The text between quotes. -/
def quoted (s : String) : String :=
  "\"" ++ String.ofList (s.toList.flatMap Quoted.char) ++ "\""

end Halyard.Text

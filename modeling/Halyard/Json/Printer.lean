/-
# Writing JSON text

Values are written without spaces. In strings a quote, a backslash and the
control characters are escaped and all else stands for itself. A `real` is
written as its coefficient with an exponent, which reads back as the same
double.

Key definitions: `escapeChar`, `Decimal.text`, `Value.print`.
-/
import Halyard.Json.Value

namespace Halyard.Json

/-- A hexadecimal digit, in lower case. -/
def hexChar (n : Nat) : Char :=
  if n < 10 then Char.ofNat (0x30 + n) else Char.ofNat (0x57 + n)

/-- How a character stands in a JSON string. -/
def escapeChar (c : Char) : List Char :=
  if c = '"' then ['\\', '"']
  else if c = '\\' then ['\\', '\\']
  else if c = '\n' then ['\\', 'n']
  else if c = '\r' then ['\\', 'r']
  else if c = '\t' then ['\\', 't']
  else if c.toNat < 0x20 then
    ['\\', 'u', '0', '0', hexChar (c.toNat / 16), hexChar (c.toNat % 16)]
  else [c]

/-- A text as a JSON string. -/
def quote (s : String) : String :=
  "\"" ++ String.ofList (s.toList.flatMap escapeChar) ++ "\""

/-- A decimal as a JSON number. -/
def Decimal.text (d : Decimal) : String :=
  (if d.negative then "-" else "") ++ toString d.coefficient ++ "e" ++ toString d.exponent

namespace Value

mutual

/-- The value as JSON text. -/
def print : Value → String
  | .null => "null"
  | .bool true => "true"
  | .bool false => "false"
  | .int i => toString i
  | .real d => d.text
  | .string s => quote s
  | .plain s => quote s
  | .array items => "[" ++ printItems items ++ "]"
  | .object fields => "\x7b" ++ printFields fields ++ "\x7d"
  | .unreadable => "null"

/-- Array items, separated by commas. -/
def printItems : List Value → String
  | [] => ""
  | [v] => v.print
  | v :: vs => v.print ++ "," ++ printItems vs

/-- Object fields, separated by commas. -/
def printFields : List (String × Value) → String
  | [] => ""
  | [(k, v)] => quote k ++ ":" ++ v.print
  | (k, v) :: fs => quote k ++ ":" ++ v.print ++ "," ++ printFields fs

end

end Value

end Halyard.Json

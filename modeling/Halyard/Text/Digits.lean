/-
# Digits

Digits and the numbers that they spell.

Key definitions: `hexValue?`, `number?`.
-/

namespace Halyard.Text

/-- The value of a hexadecimal digit. -/
def hexValue? (c : Char) : Option Nat :=
  if '0' ≤ c && c ≤ '9' then some (c.toNat - 0x30)
  else if 'a' ≤ c && c ≤ 'f' then some (c.toNat - 0x57)
  else if 'A' ≤ c && c ≤ 'F' then some (c.toNat - 0x37)
  else none

/-- The number that digits of a base spell. No digits spell zero. -/
def number? (base : Nat) (digits : List Char) : Option Nat :=
  digits.foldl (fun n c => do
    let d ← hexValue? c
    if d < base then return (← n) * base + d else none) (some 0)

end Halyard.Text

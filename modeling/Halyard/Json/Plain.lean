/-
# Unquoted scalars

In a block document the reader of a setting decides what an unquoted scalar
means: a text setting takes its characters, a number setting the number that it
spells. Where no setting is known yet, `resolve?` decides by the spelling
alone.

Key definitions: `nullWords`, `plainBool?`, `plainNat?`, `plainInt?`, `resolve?`.
-/
import Halyard.Json.Numeral

namespace Halyard.Json

/-- The spellings of null. -/
def nullWords : List String := ["", "~", "null", "Null", "NULL"]

/-- The truth value that a scalar spells. -/
def plainBool? (s : String) : Option Bool :=
  if ["true", "True", "TRUE"].contains s then some true
  else if ["false", "False", "FALSE"].contains s then some false
  else none

/-- The value of a digit, also of one beyond nine. -/
def digitValue? (c : Char) : Option Nat :=
  if '0' ≤ c && c ≤ '9' then some (c.toNat - 0x30)
  else if 'a' ≤ c && c ≤ 'f' then some (c.toNat - 0x57)
  else if 'A' ≤ c && c ≤ 'F' then some (c.toNat - 0x37)
  else none

/-- The number that digits spell in a base. -/
def digits? (base : Nat) (ds : List Char) : Option Nat :=
  if ds.isEmpty then none
  else ds.foldlM (fun a c => do
    let d ← digitValue? c
    if d < base then return a * base + d else none) 0

/-- Whether the characters are digits with a zero in front, which do not spell a number. -/
def zeroLed : List Char → Bool
  | '0' :: c :: cs => (c :: cs).all Char.isDigit
  | _ => false

/-- The number that characters without a sign spell: in decimal, or after a mark in
base sixteen, eight or two. -/
def magnitude? : List Char → Option Nat
  | '0' :: 'x' :: ds => digits? 16 ds
  | '0' :: 'o' :: ds => digits? 8 ds
  | '0' :: 'b' :: ds => digits? 2 ds
  | ds => if zeroLed ds then none else digits? 10 ds

/-- The number that a scalar spells. It may have a plus sign. -/
def plainNat? (s : String) : Option Nat :=
  match s.toList with
  | '+' :: cs => magnitude? cs
  | cs => magnitude? cs

/-- The integer that a scalar spells. -/
def plainInt? (s : String) : Option Int :=
  match s.toList with
  | '-' :: cs => (magnitude? cs).map fun n => -(n : Int)
  | _ => (plainNat? s).map Int.ofNat

/-- The digits of an exponent with its sign. -/
def exponent? : List Char → Option (Bool × List Nat)
  | '-' :: ds => ((digits? 10 ds).bind fun _ => ds.mapM digitValue?).map (true, ·)
  | '+' :: ds => ((digits? 10 ds).bind fun _ => ds.mapM digitValue?).map (false, ·)
  | ds => ((digits? 10 ds).bind fun _ => ds.mapM digitValue?).map (false, ·)

/-- The parts of a real number in decimal. Digits may be missing on one side of the point. -/
def plainNumeral? (s : List Char) : Option Numeral := do
  let (negative, s) := match s with
    | '-' :: cs => (true, cs)
    | '+' :: cs => (false, cs)
    | cs => (false, cs)
  let whole := s.takeWhile Char.isDigit
  let s := s.dropWhile Char.isDigit
  let (fraction, s) := match s with
    | '.' :: cs => (cs.takeWhile Char.isDigit, cs.dropWhile Char.isDigit)
    | cs => ([], cs)
  if whole.isEmpty && fraction.isEmpty then none
  let exponent ← match s with
    | [] => some none
    | e :: cs => if e = 'e' || e = 'E' then (exponent? cs).map some else none
  return ⟨negative, ← whole.mapM digitValue?, some (← fraction.mapM digitValue?), exponent⟩

/-- The spellings of what is no finite number. -/
def infiniteWords : List String :=
  [".inf", ".Inf", ".INF", "+.inf", "+.Inf", "+.INF", "-.inf", "-.Inf", "-.INF", ".nan", ".NaN",
    ".NAN"]

/-- A scalar that spells no integer: a real number, or its characters. -/
def realOrText (s : String) : Value :=
  if infiniteWords.contains s then .unreadable
  else ((plainNumeral? s.toList).bind Numeral.value?).getD (.string s)

/-- Whether an integer fits into `bits` bits, signed or unsigned. -/
def fitsBits (bits : Nat) (i : Int) : Bool :=
  -(Nat.pow 2 (bits - 1) : Int) ≤ i && i < (Nat.pow 2 bits : Int)

/-- What a scalar means where no reader decides. Integers of more than 64 bits are
refused as long as they fit into 128, and real numbers beyond. -/
def resolve? (s : String) : Option Value :=
  if nullWords.contains s then some .null
  else
    match plainBool? s, plainInt? s with
    | some b, _ => some (.bool b)
    | none, some i =>
      if fitsBits 64 i then some (.int i)
      else if fitsBits 128 i then none
      else some (realOrText s)
    | none, none =>
      if zeroLed (s.toList.dropWhile fun c => c = '-' || c = '+') then some (.string s)
      else some (realOrText s)

end Halyard.Json

/-
# Numerals

A numeral is read as an integer when it has neither fraction nor exponent and
fits into 64 bits (signed if it has a minus sign, unsigned otherwise; minus
zero does not count as an integer). Every other numeral is read as a
double-precision number and kept as the shortest decimal that identifies the
double, so that writing it back gives the same double.

A double is found as `significand · 10 ^ scale` with one multiplication or
division: the significand takes the leading digits while they fit into 64
bits, the scale counts the places.

Key definitions: `Numeral`, `Numeral.value?`, `shortest`.
-/
import Halyard.Json.Value

namespace Halyard.Json

/-- The parts of a written number. Digits are values below ten. -/
structure Numeral where
  negative : Bool
  whole : List Nat
  fraction : Option (List Nat)
  /-- Sign and digits of the exponent. -/
  exponent : Option (Bool × List Nat)
deriving Inhabited

/-- Leading digits held in 64 bits, the power of ten that remains, and whether
a digit was already left out. -/
structure Significand where
  digits : Nat
  scale : Int
  full : Bool

namespace Significand

/-- Whether the digit `d` still fits behind the digits held. -/
def fits (s : Significand) (d : Nat) : Bool :=
  s.digits * 10 + d < Nat.pow 2 64

/-- A digit before the point: held if it fits, else it only counts as a place. -/
def whole (s : Significand) (d : Nat) : Significand :=
  if !s.full && s.fits d then { s with digits := s.digits * 10 + d }
  else { s with scale := s.scale + 1, full := true }

/-- A digit behind the point: held if it fits, else it and all that follow are
left out. -/
def fraction (s : Significand) (d : Nat) : Significand :=
  if !s.full && s.fits d then { s with digits := s.digits * 10 + d, scale := s.scale - 1 }
  else { s with full := true }

/-- `digits · 10 ^ scale` as a double, `none` if it is beyond the largest one.
Scales below the smallest power of ten are divided out in two steps. -/
def toFloat? (s : Significand) : Option Float :=
  let f := (UInt64.ofNat s.digits).toFloat
  if s.scale ≥ 0 then
    if s.scale.toNat ≤ 308 then
      let r := f * Float.ofScientific 1 false s.scale.toNat
      if r.isInf then none else some r
    else if f == 0 then some f else none
  else
    let k := (-s.scale).toNat
    if k ≤ 308 then some (f / Float.ofScientific 1 false k)
    else if k ≤ 616 then
      some (f / Float.ofScientific 1 false 308 / Float.ofScientific 1 false (k - 308))
    else some 0

end Significand

/-- The bit of a mantissa that is not stored. -/
def hiddenBit : Nat := Nat.pow 2 52

/-- Mantissa and binary exponent of a finite positive double. -/
def binaryParts (f : Float) : Nat × Int :=
  let bits : Nat := f.toBits.toNat
  let e : Nat := bits / hiddenBit % 2048
  let m : Nat := bits % hiddenBit
  if e = 0 then (m, -1074) else (m + hiddenBit, Int.ofNat e - 1075)

/-- The multiples of `10 ^ k` next to `num / den`, below and above, as
coefficients; `num / den` itself counts as below. -/
def gridNeighbours (num den : Nat) (k : Int) : Nat × Nat :=
  let c := if k ≥ 0 then num / (den * Nat.pow 10 k.toNat) else num * Nat.pow 10 (-k).toNat / den
  (c, c + 1)

/-- Whether `c · 10 ^ k` lies in the interval of numbers that round to the double
`m · 2 ^ q`. All is scaled by four so that the ends are whole; the lower end is
nearer at a power of two, and the ends belong to even mantissas. -/
def roundsTo (m : Nat) (q : Int) (c : Nat) (k : Int) : Bool :=
  let low := if m = hiddenBit ∧ q > -1074 then 4 * m - 1 else 4 * m - 2
  let high := 4 * m + 2
  -- compare 4 · c · 10 ^ k with low · 2 ^ q and high · 2 ^ q
  let x := 4 * c * Nat.pow 10 k.toNat * Nat.pow 2 (-q).toNat
  let scale := Nat.pow 2 q.toNat * Nat.pow 10 (-k).toNat
  if m % 2 = 0 then low * scale ≤ x && x ≤ high * scale
  else low * scale < x && x < high * scale

/-- The distance of `c · 10 ^ k` from `m · 2 ^ q`, times a factor common to all `c`. -/
def gridDistance (m : Nat) (q : Int) (c : Nat) (k : Int) : Nat :=
  let x := c * Nat.pow 10 k.toNat * Nat.pow 2 (-q).toNat
  let y := m * Nat.pow 2 q.toNat * Nat.pow 10 (-k).toNat
  (x - y) + (y - x)

/-- Searches the decimal grids from coarse to fine for one with a point that
rounds to `m · 2 ^ q`; of two such points the nearer is taken. -/
def searchGrids (m : Nat) (q : Int) : Nat → Int → Nat × Int
  | 0, k => (0, k)
  | steps + 1, k =>
    let (lo, hi) := gridNeighbours (m * Nat.pow 2 q.toNat) (Nat.pow 2 (-q).toNat) k
    let below := lo != 0 && roundsTo m q lo k
    let above := roundsTo m q hi k
    if below && above then
      if gridDistance m q hi k < gridDistance m q lo k then (hi, k) else (lo, k)
    else if below then (lo, k)
    else if above then (hi, k)
    else searchGrids m q steps (k - 1)

/-- The decimal with the fewest digits that rounds to the double. -/
def shortest (f : Float) : Decimal :=
  let negative := f.toBits.toNat ≥ Nat.pow 2 63
  let (m, q) := binaryParts f.abs
  if m = 0 then ⟨negative, 0, 0⟩
  else
    let (c, k) := searchGrids m q 640 309
    ⟨negative, c, k⟩

namespace Numeral

/-- The exponent as a number, stopped at a bound that no double reaches. -/
def exponentValue (n : Numeral) : Int :=
  match n.exponent with
  | none => 0
  | some (negative, ds) =>
    let e : Nat := ds.foldl (fun a d => min (a * 10 + d) 100000) 0
    if negative then -(e : Int) else e

/-- The digits of the numeral as a significand with its scale. -/
def significand (n : Numeral) : Significand :=
  let s := n.whole.foldl Significand.whole ⟨0, 0, false⟩
  let s := { s with full := false }
  let s := (n.fraction.getD []).foldl Significand.fraction s
  { s with scale := s.scale + n.exponentValue }

/-- The integer that the digits before the point spell. -/
def wholeValue (n : Numeral) : Nat :=
  n.whole.foldl (fun a d => a * 10 + d) 0

/-- The number a numeral denotes, `none` if it is beyond the doubles. -/
def value? (n : Numeral) : Option Value :=
  if n.fraction.isNone && n.exponent.isNone && !n.negative && n.wholeValue < Nat.pow 2 64 then
    some (.int n.wholeValue)
  else if n.fraction.isNone && n.exponent.isNone && n.negative && n.wholeValue != 0
      && n.wholeValue ≤ Nat.pow 2 63 then
    some (.int (-(n.wholeValue : Int)))
  else
    n.significand.toFloat?.map fun f => .real (shortest (if n.negative then -f else f))

end Numeral

end Halyard.Json

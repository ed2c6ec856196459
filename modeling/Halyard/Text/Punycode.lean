/-
# Punycode

How a host label with characters beyond ASCII is written in ASCII: the ASCII
characters first, then the others as the distances between them in variable
length digits.

Key definitions: `Punycode.encode`, `Punycode.label`, `Punycode.decode?`.
-/

namespace Halyard.Text.Punycode

/-- The number of digits. -/
def base : Nat := 36

/-- The least threshold of a digit position. -/
def tMin : Nat := 1

/-- The largest threshold of a digit position. -/
def tMax : Nat := 26

/-- A digit: letters first, then decimal digits. -/
def digit (n : Nat) : Char :=
  if n < 26 then Char.ofNat (0x61 + n) else Char.ofNat (0x30 + (n - 26))

/-- Divides until the threshold fits; `fuel` bounds the number of divisions. -/
def settleBias : Nat → Nat → Nat → Nat
  | 0, _, k => k
  | fuel + 1, delta, k =>
    if ((base - tMin) * tMax) / 2 < delta then settleBias fuel (delta / (base - tMin)) (k + base)
    else k + (base - tMin + 1) * delta / (delta + 38)

/-- The bias after a distance. -/
def adapt (delta points : Nat) (first : Bool) : Nat :=
  let delta := if first then delta / 700 else delta / 2
  let delta := delta + delta / points
  settleBias (delta + 1) delta 0

/-- The threshold of a digit position: the last digit of a number lies below it. -/
def threshold (bias k : Nat) : Nat :=
  if k ≤ bias then tMin else if bias + tMax ≤ k then tMax else k - bias

/-- A number in digits whose thresholds depend on the bias. -/
def variableLength (bias : Nat) : Nat → Nat → Nat → List Char
  | 0, _, _ => []
  | fuel + 1, q, k =>
    let t := threshold bias k
    if q < t then [digit q]
    else digit (t + (q - t) % (base - t)) ::
      variableLength bias fuel ((q - t) / (base - t)) (k + base)

/-- What is carried from one character to the next. -/
structure State where
  delta : Nat
  bias : Nat
  handled : Nat
  out : List Char

/-- Passes over the text, writing a distance at each occurrence of `n`. -/
def pass (n basic : Nat) (s : State) (c : Nat) : State :=
  if c < n then { s with delta := s.delta + 1 }
  else if c = n then
    { delta := 0
      bias := adapt s.delta (s.handled + 1) (s.handled == basic)
      handled := s.handled + 1
      out := s.out ++ variableLength s.bias (s.delta + 1) s.delta base }
  else s

/-- Takes the code points in ascending order. -/
def rounds (text : List Nat) (basic : Nat) : List Nat → Nat → State → State
  | [], _, s => s
  | m :: ms, n, s =>
    let s := { s with delta := s.delta + (m - n) * (s.handled + 1) }
    let s := text.foldl (pass m basic) s
    rounds text basic ms (m + 1) { s with delta := s.delta + 1 }

/-- The ASCII form of a text. -/
def encode (text : List Char) : List Char :=
  let points := text.map Char.toNat
  let plain := text.filter fun c => c.toNat < 0x80
  let others := ((points.filter (0x80 ≤ ·)).mergeSort (· ≤ ·)).eraseDups
  let out := if plain.isEmpty then [] else plain ++ ['-']
  (rounds points plain.length others 0x80 ⟨0, 72, plain.length, out⟩).out

/-- The value of a digit. -/
def digitValue? (c : Char) : Option Nat :=
  if 'a' ≤ c && c ≤ 'z' then some (c.toNat - 0x61)
  else if 'A' ≤ c && c ≤ 'Z' then some (c.toNat - 0x41)
  else if '0' ≤ c && c ≤ '9' then some (c.toNat - 0x30 + 26)
  else none

/-- What numbers stay below. -/
def limit : Nat := 0x100000000

/-- Reads digits up to the last one of a number: the number and what follows. The digit
at position `k` counts `weight` times, and `sum` is the number so far. -/
def readNumber? (bias : Nat) : List Char → Nat → Nat → Nat → Option (Nat × List Char)
  | [], _, _, _ => none
  | c :: cs, k, weight, sum => do
    let d ← digitValue? c
    let sum := sum + d * weight
    if limit ≤ sum then none
    let t := threshold bias k
    if d < t then return (sum, cs)
    if limit ≤ weight * (base - t) then none
    readNumber? bias cs (k + base) (weight * (base - t)) sum

/-- Inserts the characters that the distances stand for, the next one not before position
`i` and not below the code point `n`. `fuel` bounds the number of distances. -/
def insertions? : Nat → List Char → List Char → Nat → Nat → Nat → Option (List Char)
  | _, text, [], _, _, _ => some text
  | 0, _, _ :: _, _, _, _ => none
  | fuel + 1, text, c :: cs, i, n, bias => do
    let (distance, rest) ← readNumber? bias (c :: cs) base 1 0
    let size := text.length + 1
    let n := n + (i + distance) / size
    if !n.isValidChar then none
    let i := (i + distance) % size
    insertions? fuel (text.insertIdx i (Char.ofNat n)) rest (i + 1) n
      (adapt distance size (text.all fun c => c.toNat < 0x80))

/-- The text that an ASCII form stands for. -/
def decode? (code : List Char) : Option (List Char) :=
  let digits := (code.reverse.takeWhile (· != '-')).reverse
  let plain := code.take (code.length - digits.length - 1)
  if plain.isEmpty then insertions? code.length [] code 0 0x80 72
  else insertions? digits.length plain digits 0 0x80 72

/-- A host label in ASCII. -/
def label (text : List Char) : List Char :=
  if text.all fun c => c.toNat < 0x80 then text
  else ['x', 'n', '-', '-'] ++ encode text

end Halyard.Text.Punycode

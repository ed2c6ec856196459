/-
# Addresses

Network addresses as they stand in URLs: four bytes, of which each may be written
in one of three bases and the last may fill several, or eight pieces between
colons, of which a run of zeros may be left out.

Key definitions: `ipv4?`, `endsInNumber`, `ipv6?`, `ipv6Text`.
-/
import Halyard.Text.Digits
import Halyard.Text.Split

namespace Halyard.Text.Url

/-- A part of an IPv4 address: hexadecimal after `0x`, octal after `0`, else decimal. -/
def ipv4Part? : List Char → Option Nat
  | [] => none
  | ['0'] => some 0
  | '0' :: 'x' :: digits => number? 16 digits
  | '0' :: 'X' :: digits => number? 16 digits
  | '0' :: digits => number? 8 digits
  | digits => number? 10 digits

/-- The parts between dots, without an empty one at the end. -/
def dotParts (host : List Char) : List (List Char) :=
  let parts := splitAtEach (· = '.') host
  if 1 < parts.length && parts.getLast? = some [] then parts.dropLast else parts

/-- Whether the last part of a host is a number, so that the host is an IPv4 address. -/
def endsInNumber (host : List Char) : Bool :=
  match (dotParts host).getLast? with
  | some last => (!last.isEmpty && last.all Char.isDigit) || (ipv4Part? last).isSome
  | none => false

/-- The four bytes of an address in dotted form. -/
def dotted (n : Nat) : List Char :=
  (String.intercalate "." ([n / 0x1000000, n / 0x10000 % 256, n / 0x100 % 256, n % 256].map
    toString)).toList

/-- Reads an IPv4 address. The last part fills the bytes that the others leave. -/
def ipv4? (host : List Char) : Option (List Char) := do
  let parts ← (dotParts host).mapM ipv4Part?
  let last ← parts.getLast?
  let front := parts.dropLast
  if 4 < parts.length || front.any (255 < ·) || Nat.pow 256 (5 - parts.length) ≤ last then none
  let high := (front.mapIdx fun i p => p * Nat.pow 256 (3 - i)).foldl (· + ·) 0
  return dotted (high + last)

/-- The pieces of part of an IPv6 address. The last one may be in dotted form. -/
def ipv6Pieces? : List (List Char) → Option (List Nat)
  | [] => some []
  | [last] =>
    if last.contains '.' then do
      let parts := splitAtEach (· = '.') last
      let bytes ← parts.mapM fun p =>
        if p.isEmpty || (1 < p.length && p.head? = some '0') || !p.all Char.isDigit then none
        else (number? 10 p).filter (· ≤ 255)
      match bytes with
      | [a, b, c, d] => some [a * 256 + b, c * 256 + d]
      | _ => none
    else piece? last
  | p :: ps => do return (← piece? p) ++ (← ipv6Pieces? ps)
where
  /-- A piece of one to four hexadecimal digits. -/
  piece? (p : List Char) : Option (List Nat) :=
    if p.isEmpty || 4 < p.length then none else (number? 16 p).map ([·])

/-- What stands before and after the first double colon. -/
def cutDoubleColon : List Char → List Char × Option (List Char)
  | ':' :: ':' :: rest => ([], some rest)
  | c :: rest => let (a, b) := cutDoubleColon rest; (c :: a, b)
  | [] => ([], none)

/-- The eight pieces of an IPv6 address. -/
def ipv6? (s : List Char) : Option (List Nat) := do
  let half? (s : List Char) : Option (List Nat) :=
    if s.isEmpty then some [] else ipv6Pieces? (splitAtEach (· = ':') s)
  match cutDoubleColon s with
  | (a, none) => (← half? a) |> fun ps => if ps.length = 8 then some ps else none
  | (a, some b) =>
    if a.contains '.' then none
    let front ← half? a
    let back ← half? b
    if 8 ≤ front.length + back.length then none
    return front ++ List.replicate (8 - front.length - back.length) 0 ++ back

/-- The lengths of the runs of zeros that begin at each piece. -/
def zeroRuns : List Nat → List Nat
  | [] => []
  | p :: ps => (if p = 0 then 1 + (zeroRuns ps).headD 0 else 0) :: zeroRuns ps

/-- An IPv6 address in brackets. The first of the longest runs of zeros is left out. -/
def ipv6Text (pieces : List Nat) : List Char :=
  let hex (ps : List Nat) : List Char :=
    List.intercalate [':'] (ps.map fun p => Nat.toDigits 16 p)
  let longest := (zeroRuns pieces).foldl max 0
  let inner :=
    if longest < 2 then hex pieces
    else
      let start := (zeroRuns pieces).idxOf longest
      hex (pieces.take start) ++ [':', ':'] ++ hex (pieces.drop (start + longest))
  ['['] ++ inner ++ [']']

end Halyard.Text.Url

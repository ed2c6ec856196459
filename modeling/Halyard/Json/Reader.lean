/-
# Reading JSON text

Text goes through tokens to a value. The tokens are found from left to right;
the value is built by a machine that takes one token at a time and keeps the
open containers on a stack, so no recursion follows the nesting of the input.

Strict points: only space, tab, line feed and carriage return separate tokens;
no leading zeros, no trailing commas, no raw control characters in strings,
nothing behind the value. What is correct in form but denotes nothing (an
unpaired surrogate, bytes that are no UTF-8, a number beyond the doubles, a
container inside more than `maxOuter` others) becomes `Value.unreadable`.

Key definitions: `Token`, `tokens?`, `Builder`, `Value.parse?`.
-/
import Halyard.Json.Numeral
import Halyard.Text.Utf8

namespace Halyard.Json

open Halyard.Text

/-- A lexical unit. A string or number that denotes nothing is held as `none`. -/
inductive Token where
  | openObject | closeObject | openArray | closeArray | colon | comma
  | null | bool (b : Bool)
  | number (v : Option Value)
  | string (s : Option String)
deriving Inhabited

/-- A piece of a string: a raw byte, or a UTF-16 unit written as an escape. -/
inductive Piece where
  | byte (b : UInt8)
  | unit (u : Nat)

/-- The value of a hexadecimal digit. -/
def hexDigit? (b : UInt8) : Option Nat :=
  if 0x30 ≤ b && b ≤ 0x39 then some (b.toNat - 0x30)
  else if 0x41 ≤ b && b ≤ 0x46 then some (b.toNat - 0x37)
  else if 0x61 ≤ b && b ≤ 0x66 then some (b.toNat - 0x57)
  else none

/-- The byte that a one-letter escape stands for. -/
def escaped? (b : UInt8) : Option UInt8 :=
  match Char.ofNat b.toNat with
  | '"' => some 0x22
  | '\\' => some 0x5C
  | '/' => some 0x2F
  | 'b' => some 0x08
  | 'f' => some 0x0C
  | 'n' => some 0x0A
  | 'r' => some 0x0D
  | 't' => some 0x09
  | _ => none

/-- The pieces of a string up to its closing quote, in reverse, and what follows. -/
def stringPieces? (acc : List Piece) : List UInt8 → Option (List Piece × List UInt8)
  | [] => none
  | 0x22 :: rest => some (acc, rest)
  | 0x5C :: 0x75 :: a :: b :: c :: d :: rest => do
    let u :=
      (((← hexDigit? a) * 16 + (← hexDigit? b)) * 16 + (← hexDigit? c)) * 16 + (← hexDigit? d)
    stringPieces? (.unit u :: acc) rest
  | 0x5C :: e :: rest => do
    stringPieces? (.byte (← escaped? e) :: acc) rest
  | b :: rest => if b < 0x20 || b = 0x5C then none else stringPieces? (.byte b :: acc) rest

/-- The bytes that pieces denote; a surrogate must be half of a pair. -/
def pieceBytes? : List Piece → Option (List UInt8)
  | [] => some []
  | .byte b :: ps => (pieceBytes? ps).map (b :: ·)
  | .unit hi :: .unit lo :: ps =>
    if 0xD800 ≤ hi && hi < 0xDC00 then
      if 0xDC00 ≤ lo && lo < 0xE000 then
        (pieceBytes? ps).map
          (String.utf8EncodeChar
            (Char.ofNat (0x10000 + (hi - 0xD800) * 0x400 + (lo - 0xDC00))) ++ ·)
      else none
    else if 0xDC00 ≤ hi && hi < 0xE000 then none
    else (pieceBytes? (.unit lo :: ps)).map (String.utf8EncodeChar (Char.ofNat hi) ++ ·)
  | .unit u :: ps =>
    if 0xD800 ≤ u && u < 0xE000 then none
    else (pieceBytes? ps).map (String.utf8EncodeChar (Char.ofNat u) ++ ·)

/-- The text that the pieces of a string spell, if they spell one. -/
def stringOfPieces? (pieces : List Piece) : Option String := do
  return String.ofList (← Utf8.decode? (← pieceBytes? pieces))

/-- Whether the byte is a decimal digit. -/
def isDigit (b : UInt8) : Bool := 0x30 ≤ b && b ≤ 0x39

/-- The values of the leading digits, and what follows them. -/
def takeDigits (s : List UInt8) : List Nat × List UInt8 :=
  ((s.takeWhile isDigit).map (·.toNat - 0x30), s.dropWhile isDigit)

/-- A fraction, if one follows; its point needs a digit behind it. -/
def takeFraction? : List UInt8 → Option (Option (List Nat) × List UInt8)
  | 0x2E :: s =>
    match takeDigits s with
    | ([], _) => none
    | (ds, rest) => some (some ds, rest)
  | s => some (none, s)

/-- An exponent, if one follows; it needs a digit behind its mark and sign. -/
def takeExponent? : List UInt8 → Option (Option (Bool × List Nat) × List UInt8)
  | [] => some (none, [])
  | e :: s =>
    if e = 0x65 || e = 0x45 then
      let (negative, s) :=
        match s with
        | 0x2B :: t => (false, t)
        | 0x2D :: t => (true, t)
        | t => (false, t)
      match takeDigits s with
      | ([], _) => none
      | (ds, rest) => some (some (negative, ds), rest)
    else some (none, e :: s)

/-- A number at the head of the text and what follows it. A leading zero stands alone. -/
def takeNumeral? (s : List UInt8) : Option (Numeral × List UInt8) := do
  let (negative, s) := match s with
    | 0x2D :: t => (true, t)
    | t => (false, t)
  let (whole, s) ← match takeDigits s with
    | ([], _) => none
    | (0 :: _ :: _, _) => none
    | r => some r
  let (fraction, s) ← takeFraction? s
  let (exponent, s) ← takeExponent? s
  return (⟨negative, whole, fraction, exponent⟩, s)

/-- The token at the head of a text that starts with neither space nor end, and
what follows it. -/
def takeToken? : List UInt8 → Option (Token × List UInt8)
  | [] => none
  | 0x7B :: s => some (.openObject, s)
  | 0x7D :: s => some (.closeObject, s)
  | 0x5B :: s => some (.openArray, s)
  | 0x5D :: s => some (.closeArray, s)
  | 0x3A :: s => some (.colon, s)
  | 0x2C :: s => some (.comma, s)
  | 0x22 :: s => do
    let (pieces, rest) ← stringPieces? [] s
    return (.string (stringOfPieces? pieces.reverse), rest)
  | 0x6E :: 0x75 :: 0x6C :: 0x6C :: s => some (.null, s)
  | 0x74 :: 0x72 :: 0x75 :: 0x65 :: s => some (.bool true, s)
  | 0x66 :: 0x61 :: 0x6C :: 0x73 :: 0x65 :: s => some (.bool false, s)
  | s => do
    let (n, rest) ← takeNumeral? s
    return (.number n.value?, rest)

/-- Whether the byte may stand between tokens. -/
def isSpace (b : UInt8) : Bool :=
  b = 0x20 || b = 0x09 || b = 0x0A || b = 0x0D

/-- The tokens of a text, given at least as many steps as it has bytes. -/
def tokensWithin? : Nat → List Token → List UInt8 → Option (List Token)
  | _, acc, [] => some acc.reverse
  | 0, _, _ => none
  | steps + 1, acc, b :: s =>
    if isSpace b then tokensWithin? steps acc s
    else do
      let (t, rest) ← takeToken? (b :: s)
      tokensWithin? steps (t :: acc) rest

/-- The tokens of a text. -/
def tokens? (text : List UInt8) : Option (List Token) :=
  tokensWithin? text.length [] text

/-- An open container: what it holds already, in reverse. -/
inductive Frame where
  | items (done : List Value)
  | fields (done : List (Option String × Value)) (key : Option String)

/-- What the next token has to be. -/
inductive Expected where
  | value
  | valueOrClose
  | key
  | keyOrClose
  | colon
  | commaOrClose
  | nothing
deriving DecidableEq

/-- A value in the making: the open containers, innermost first, the expected
token, and the finished value once `expected` is `nothing`. -/
structure Builder where
  stack : List Frame
  expected : Expected
  result : Value

namespace Builder

/-- Before the first token. -/
def empty : Builder := ⟨[], .value, .null⟩

/-- How many others a container may be open inside. -/
def maxOuter : Nat := 126

/-- The object with these fields, in reverse; `unreadable` if a key is. -/
def objectOf (done : List (Option String × Value)) : Value :=
  match done.reverse.mapM fun (k, v) => k.map (·, v) with
  | some fields => .object fields
  | none => .unreadable

/-- Puts a finished value into the innermost open container. -/
def finish (v : Value) : List Frame → Builder
  | [] => ⟨[], .nothing, v⟩
  | .items done :: outer => ⟨.items (v :: done) :: outer, .commaOrClose, .null⟩
  | .fields done key :: outer => ⟨.fields ((key, v) :: done) key :: outer, .commaOrClose, .null⟩

/-- Closes a container inside the open containers `outer`. -/
def close (v : Value) (outer : List Frame) : Builder :=
  finish (if (outer.drop maxOuter).isEmpty then v else .unreadable) outer

/-- Takes one token. -/
def step? (b : Builder) (t : Token) : Option Builder :=
  match b.expected, t, b.stack with
  | .valueOrClose, .closeArray, .items done :: outer => some (close (.array done.reverse) outer)
  | .commaOrClose, .closeArray, .items done :: outer => some (close (.array done.reverse) outer)
  | .keyOrClose, .closeObject, .fields done _ :: outer => some (close (objectOf done) outer)
  | .commaOrClose, .closeObject, .fields done _ :: outer => some (close (objectOf done) outer)
  | .commaOrClose, .comma, .items done :: outer => some ⟨.items done :: outer, .value, .null⟩
  | .commaOrClose, .comma, .fields done k :: outer => some ⟨.fields done k :: outer, .key, .null⟩
  | .key, .string k, .fields done _ :: outer => some ⟨.fields done k :: outer, .colon, .null⟩
  | .keyOrClose, .string k, .fields done _ :: outer => some ⟨.fields done k :: outer, .colon, .null⟩
  | .colon, .colon, stack => some ⟨stack, .value, .null⟩
  | .value, t, stack => value? t stack
  | .valueOrClose, t, stack => value? t stack
  | _, _, _ => none
where
  /-- Takes a token that starts or is a value. -/
  value? (t : Token) (stack : List Frame) : Option Builder :=
    match t with
    | .openArray => some ⟨.items [] :: stack, .valueOrClose, .null⟩
    | .openObject => some ⟨.fields [] none :: stack, .keyOrClose, .null⟩
    | .null => some (finish .null stack)
    | .bool b => some (finish (.bool b) stack)
    | .number v => some (finish (v.getD .unreadable) stack)
    | .string s => some (finish ((s.map Value.string).getD .unreadable) stack)
    | _ => none

/-- Takes all tokens. -/
def run? : Builder → List Token → Option Builder
  | b, [] => some b
  | b, t :: ts => do run? (← b.step? t) ts

end Builder

/-- The value of a JSON document in UTF-8. -/
def Value.parse? (text : List UInt8) : Option Value := do
  let b ← Builder.empty.run? (← tokens? text)
  if b.expected = .nothing then some b.result else none

/-- The value of a JSON document. -/
def Value.parseString? (text : String) : Option Value :=
  Value.parse? (Utf8.ofString text)

end Halyard.Json

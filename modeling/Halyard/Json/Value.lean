/-
# JSON values

A document is read in two steps: the syntax once, and what a record asks for
after that. Between them stands `Value`, which keeps the fields of an object
in their order and with their repetitions, because what a repeated field means
is decided by the record that reads it.

`Value.unreadable` stands for a part that is correct syntax but denotes
nothing a reader may look at: a string with an unpaired surrogate, a number
beyond the floats, a container nested too deep. A reader that skips the part
is not disturbed by it; one that looks at it fails.

`Value.plain` stands for a scalar whose type its reader decides. Block
documents have such scalars, JSON text has none.

Key definitions: `Decimal`, `Value`, `Value.readable`, `Value.distinct`.
-/
import Halyard.Dict

namespace Halyard.Json

/-- The number `coefficient · 10 ^ exponent`, negated if `negative`. -/
structure Decimal where
  negative : Bool
  coefficient : Nat
  exponent : Int
deriving DecidableEq, Inhabited

/-- A JSON value. Integers are the numbers written without fraction and exponent
that fit into 64 bits, signed or unsigned; all others are `real`. -/
inductive Value where
  | null
  | bool (b : Bool)
  | int (i : Int)
  | real (d : Decimal)
  | string (s : String)
  | array (items : List Value)
  | object (fields : List (String × Value))
  | plain (text : String)
  | unreadable
deriving Inhabited

namespace Value

mutual

/-- Whether every part of the value denotes something. -/
def readable : Value → Bool
  | .unreadable => false
  | .array items => readableItems items
  | .object fields => readableFields fields
  | _ => true

/-- `readable` for each item. -/
def readableItems : List Value → Bool
  | [] => true
  | v :: vs => v.readable && readableItems vs

/-- `readable` for the value of each field. -/
def readableFields : List (String × Value) → Bool
  | [] => true
  | (_, v) :: fs => v.readable && readableFields fs

end

mutual

/-- The value with every field of an object once, under the last value it was given. -/
def distinct : Value → Value
  | .array items => .array (distinctItems items)
  | .object fields => .object (Dict.ofList (distinctFields fields)).entries
  | v => v

/-- `distinct` for each item. -/
def distinctItems : List Value → List Value
  | [] => []
  | v :: vs => v.distinct :: distinctItems vs

/-- `distinct` for the value of each field. -/
def distinctFields : List (String × Value) → List (String × Value)
  | [] => []
  | (k, v) :: fs => (k, v.distinct) :: distinctFields fs

end

end Value

end Halyard.Json

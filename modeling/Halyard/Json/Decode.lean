/-
# Reading records from JSON values

A record names its fields in order. It may be written as an object, where
unknown fields are skipped and a known field must not be repeated, or as an
array of its fields in order, where fields may be missing at the end. Either
way each field becomes a `Slot`, and the record says per field what an absent
one means: an error, a default, or nothing.

Key definitions: `Slot`, `Value.record?`, `Slot.required?`,
`Slot.optional?`, `Slot.withDefault?`, `Value.list?`, `Value.dictionary?`.
-/
import Halyard.Json.Plain

namespace Halyard.Json

/-- What was found for a field of a record. -/
inductive Slot where
  /-- The field was written. -/
  | given (v : Value)
  /-- The object has no such field. -/
  | absent
  /-- The array ended before the field. -/
  | cutOff

/-- Whether the value says that there is none. -/
def Value.isNull : Value → Bool
  | .null => true
  | .plain s => nullWords.contains s
  | _ => false

namespace Slot

/-- A field that has to be written. -/
def required? {α : Type} (read : Value → Option α) : Slot → Option α
  | .given v => read v
  | _ => none

/-- A field with a default. It may be left out, but what is written must be readable. -/
def withDefault? {α : Type} (read : Value → Option α) (default : α) : Slot → Option α
  | .given v => read v
  | _ => some default

/-- A field that may be null. An object may leave it out, an array may not. -/
def optional? {α : Type} (read : Value → Option α) : Slot → Option (Option α)
  | .given v => if v.isNull then some none else (read v).map some
  | .absent => some none
  | .cutOff => none

/-- A field that may be null or left out. -/
def optionalDefault? {α : Type} (read : Value → Option α) : Slot → Option (Option α)
  | .cutOff => some none
  | s => s.optional? read

end Slot

namespace Value

/-- The slot of the field known under any of `names`. -/
def slotOf? (fields : List (String × Value)) (names : List String) : Option Slot :=
  match fields.filter fun f => names.contains f.1 with
  | [] => some .absent
  | [f] => some (.given f.2)
  | _ => none

/-- The slots of a record in array form. -/
def slotsInOrder? : List (List String) → List Value → Option (List Slot)
  | [], [] => some []
  | [], _ :: _ => none
  | _ :: names, [] => (slotsInOrder? names []).map (.cutOff :: ·)
  | _ :: names, v :: vs => (slotsInOrder? names vs).map (.given v :: ·)

/-- The slots of an object. -/
def fieldSlots? (names : List (List String)) : Value → Option (List Slot)
  | .object fields => names.mapM (slotOf? fields)
  | _ => none

/-- The slots of a record whose fields are known under the given names. -/
def record? (names : List (List String)) : Value → Option (List Slot)
  | .array items => slotsInOrder? names items
  | v => v.fieldSlots? names

/-- A text. -/
def string? : Value → Option String
  | .string s => some s
  | .plain s => some s
  | _ => none

/-- A truth value. -/
def bool? : Value → Option Bool
  | .bool b => some b
  | .plain s => plainBool? s
  | _ => none

/-- An integer from `low` to `high`. -/
def intIn? (low high : Int) (v : Value) : Option Int := do
  let i ← match v with
    | .int i => some i
    | .plain s => (plainNat? s).map Int.ofNat
    | _ => none
  if low ≤ i && i ≤ high then some i else none

/-- A signed integer of `bits` bits. -/
def signed? (bits : Nat) : Value → Option Int :=
  intIn? (-(Nat.pow 2 (bits - 1) : Int)) (Nat.pow 2 (bits - 1) - 1)

/-- An unsigned integer of `bits` bits. -/
def unsigned? (bits : Nat) (v : Value) : Option Nat :=
  (intIn? 0 (Nat.pow 2 bits - 1) v).map Int.toNat

/-- A list of items. An empty scalar is the empty list. -/
def list? {α : Type} (read : Value → Option α) : Value → Option (List α)
  | .array items => items.mapM read
  | .plain "" => some []
  | _ => none

/-- The entries of an object whose keys are free; the last of equal keys is left. -/
def dictionary? {α : Type} (read : Value → Option α) : Value → Option (List (String × α))
  | .object fields => fields.mapM fun (k, v) => (read v).map (k, ·)
  | _ => none

/-- The name of an enumerated value: a text, or an object with that one key and null. -/
def variant? : Value → Option String
  | .string s => some s
  | .object [(k, .null)] => some k
  | _ => none

/-- The value itself, if all of it is readable. -/
def whole? (v : Value) : Option Value :=
  if v.readable then some v else none

end Value

end Halyard.Json

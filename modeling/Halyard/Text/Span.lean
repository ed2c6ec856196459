/-
# Spans of code points

A property of characters is given by the spans of consecutive code points that
share a value, in ascending order, and looked up by halving. Spans are written
as words: one hexadecimal number, or two with a dash between them.

Key definitions: `Span`, `Span.find?`, `Span.ofRows`.
-/
import Halyard.Text.Digits

namespace Halyard.Text

/-- Consecutive code points that share a value. -/
structure Span (α : Type) where
  first : Nat
  last : Nat
  value : α

namespace Span

variable {α : Type}

/-- The value at a number among the spans from position `lo` up to `hi`. -/
def search (spans : Array (Span α)) (n lo hi : Nat) : Option α :=
  if lo < hi then
    match spans[(lo + hi) / 2]? with
    | none => none
    | some s =>
      if n < s.first then search spans n lo ((lo + hi) / 2)
      else if s.last < n then search spans n ((lo + hi) / 2 + 1) hi
      else some s.value
  else none
termination_by hi - lo

/-- The value at a number. -/
def find? (spans : Array (Span α)) (n : Nat) : Option α :=
  search spans n 0 spans.size

/-- Whether the number lies in one of the spans. -/
def covers (spans : Array (Span α)) (n : Nat) : Bool :=
  (find? spans n).isSome

/-- The spans in ascending order. -/
def sorted (spans : List (Span α)) : Array (Span α) :=
  (spans.mergeSort fun s t => s.first ≤ t.first).toArray

/-- The number that a word spells. -/
def hex? (word : String) : Option Nat :=
  number? 16 word.toList

/-- The first and the last number of a word. -/
def bounds? (word : String) : Option (Nat × Nat) :=
  match word.splitOn "-" with
  | [a] => (hex? a).map fun n => (n, n)
  | [a, b] => do return (← hex? a, ← hex? b)
  | _ => none

/-- The words of rows. -/
def words (rows : List String) : List String :=
  rows.flatMap (·.splitOn " ")

/-- The spans that rows of words name, each with the value of its rows. -/
def ofRows (rows : List (α × List String)) : Array (Span α) :=
  sorted (rows.flatMap fun r => (words r.2).filterMap fun w =>
    (bounds? w).map fun b => ⟨b.1, b.2, r.1⟩)

end Span

end Halyard.Text

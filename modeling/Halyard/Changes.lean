/-
# Change pages

What a polling endpoint answers: the changes after one change number up to
another, for flags and rule-based segments together or for one segment.

Key definitions: `RulePage`, `RuleChanges`, `SegmentChanges`.
-/
import Halyard.Rule.Json

namespace Halyard

open Json

/-- The rules that changed after `since` up to `till`. -/
structure RulePage (α : Type) where
  since : ChangeNumber
  till : ChangeNumber
  data : List α

/-- The changes of flags and of rule-based segments. -/
structure RuleChanges where
  flags : RulePage Flag
  segments : RulePage RuleBasedSegment

/-- The keys that joined and left a segment after `since` up to `till`. -/
structure SegmentChanges where
  name : String
  since : ChangeNumber
  till : ChangeNumber
  added : List String
  removed : List String
deriving DecidableEq

namespace RulePage

variable {α : Type}

/-- Reads a page. Its fields have a short name each. -/
def ofJson? (read : Value → Option α) (v : Value) : Option (RulePage α) := do
  let [since, till, data] ← v.record? [["since", "s"], ["till", "t"], ["data", "d"]] | none
  return ⟨← since.required? (Value.signed? 64), ← till.required? (Value.signed? 64),
    ← data.withDefault? (Value.list? read) []⟩

/-- Writes a page. -/
def toJson (write : α → Value) (p : RulePage α) : Value :=
  .object [("since", .int p.since), ("till", .int p.till), ("data", .array (p.data.map write))]

end RulePage

namespace RuleChanges

/-- Reads the changes of both kinds of rules. -/
def ofJson? (v : Value) : Option RuleChanges := do
  let [flags, segments] ← v.record? [["ff"], ["rbs"]] | none
  return ⟨← flags.required? (RulePage.ofJson? Flag.ofJson?),
    ← segments.required? (RulePage.ofJson? RuleBasedSegment.ofJson?)⟩

/-- Writes the changes of both kinds of rules. -/
def toJson (c : RuleChanges) : Value :=
  .object [("ff", c.flags.toJson Flag.toJson), ("rbs", c.segments.toJson RuleBasedSegment.toJson)]

end RuleChanges

namespace SegmentChanges

/-- Reads the changes of a segment. -/
def ofJson? (v : Value) : Option SegmentChanges := do
  let [name, since, till, added, removed] ←
    v.record? [["name"], ["since"], ["till"], ["added"], ["removed"]] | none
  return ⟨← name.withDefault? Value.string? "", ← since.required? (Value.signed? 64),
    ← till.required? (Value.signed? 64), ← added.withDefault? (Value.list? Value.string?) [],
    ← removed.withDefault? (Value.list? Value.string?) []⟩

/-- Writes the changes of a segment. -/
def toJson (c : SegmentChanges) : Value :=
  .object [("name", .string c.name), ("since", .int c.since), ("till", .int c.till),
    ("added", stringsJson c.added), ("removed", stringsJson c.removed)]

end SegmentChanges

end Halyard

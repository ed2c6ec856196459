/-
# Rules as JSON

How flags and rule-based segments are read and written. Writing gives every
field; reading takes missing fields from their defaults. A matcher keeps
unknown fields, so it can only be written as an object.

Key definitions: `Flag.ofJson?`, `Flag.toJson`, `RuleBasedSegment.ofJson?`,
`RuleBasedSegment.toJson`.
-/
import Halyard.Rule.Basic
import Halyard.Json.Decode

namespace Halyard

open Json

/-- An optional value as JSON. -/
def optionJson {α : Type} (write : α → Value) : Option α → Value
  | none => .null
  | some a => write a

/-- A number as JSON. -/
def natJson (n : Nat) : Value := .int n

/-- A list of texts as JSON. -/
def stringsJson (ss : List String) : Value := .array (ss.map .string)

/-- A set of names. -/
def Names.ofJson? (v : Value) : Option Names :=
  (v.list? Value.string?).map Names.ofList

namespace Status

/-- Reads a status. -/
def ofJson? (v : Value) : Option Status :=
  match v.variant? with
  | some "ACTIVE" => some .active
  | some "ARCHIVED" => some .archived
  | _ => none

/-- Writes a status. -/
def toJson : Status → Value
  | .active => .string "ACTIVE"
  | .archived => .string "ARCHIVED"

end Status

namespace Partition

/-- Reads a partition. -/
def ofJson? (v : Value) : Option Partition := do
  let [treatment, size] ← v.record? [["treatment"], ["size"]] | none
  return ⟨← treatment.required? Value.string?, ← size.required? (Value.unsigned? 32)⟩

/-- Writes a partition. -/
def toJson (p : Partition) : Value :=
  .object [("treatment", .string p.treatment), ("size", natJson p.size)]

end Partition

namespace Matcher

/-- The fields that a matcher interprets. -/
def knownFields : List String :=
  ["matcherType", "negate", "userDefinedSegmentMatcherData"]

/-- Reads the segment that a matcher refers to. -/
def segmentOfJson? (v : Value) : Option String := do
  let [name] ← v.record? [["segmentName"]] | none
  name.required? Value.string?

/-- Reads a matcher. Of fields that it does not interpret the last one counts. -/
def ofJson? (v : Value) : Option Matcher := do
  let .object fields := v | none
  let [kind, negate, segment] ← v.fieldSlots? (knownFields.map fun f => [f]) | none
  let extra ← (fields.filter fun f => !knownFields.contains f.1).mapM fun (k, v) =>
    (Datum.ofValue? v).map (k, ·)
  return {
    kind := ← kind.required? Value.string?
    negate := ← negate.withDefault? Value.bool? false
    segment := ← segment.optionalDefault? segmentOfJson?
    extra := Dict.ofList extra }

/-- Writes a matcher. -/
def toJson (m : Matcher) : Value :=
  .object ([("matcherType", .string m.kind), ("negate", .bool m.negate),
    ("userDefinedSegmentMatcherData",
      optionJson (fun s => .object [("segmentName", .string s)]) m.segment)] ++
    m.extra.entries.map fun e => (e.1, e.2.value))

end Matcher

namespace MatcherGroup

/-- Reads a group of matchers. -/
def ofJson? (v : Value) : Option MatcherGroup := do
  let [combiner, matchers] ← v.record? [["combiner"], ["matchers"]] | none
  return ⟨← combiner.optionalDefault? Value.string?,
    ← matchers.withDefault? (Value.list? Matcher.ofJson?) []⟩

/-- Writes a group of matchers. -/
def toJson (g : MatcherGroup) : Value :=
  .object [("combiner", optionJson .string g.combiner),
    ("matchers", .array (g.matchers.map Matcher.toJson))]

end MatcherGroup

namespace Condition

/-- Reads a condition. -/
def ofJson? (v : Value) : Option Condition := do
  let [kind, group, partitions, label] ←
    v.record? [["conditionType"], ["matcherGroup"], ["partitions"], ["label"]] | none
  return ⟨← kind.optionalDefault? Value.string?, ← group.required? MatcherGroup.ofJson?,
    ← partitions.withDefault? (Value.list? Partition.ofJson?) [],
    ← label.optionalDefault? Value.string?⟩

/-- Writes a condition. -/
def toJson (c : Condition) : Value :=
  .object [("conditionType", optionJson .string c.kind), ("matcherGroup", c.group.toJson),
    ("partitions", .array (c.partitions.map Partition.toJson)),
    ("label", optionJson .string c.label)]

end Condition

namespace Prerequisite

/-- Reads a prerequisite. -/
def ofJson? (v : Value) : Option Prerequisite := do
  let [flag, treatments] ← v.record? [["n"], ["ts"]] | none
  return ⟨← flag.required? Value.string?, ← treatments.required? (Value.list? Value.string?)⟩

/-- Writes a prerequisite. -/
def toJson (p : Prerequisite) : Value :=
  .object [("n", .string p.flag), ("ts", stringsJson p.treatments)]

end Prerequisite

namespace Flag

/-- The fields of a flag in their order. -/
def fieldNames : List (List String) :=
  [["name"], ["trafficTypeName"], ["changeNumber"], ["status"], ["killed"], ["defaultTreatment"],
    ["trafficAllocation"], ["trafficAllocationSeed"], ["seed"], ["algo"], ["conditions"],
    ["configurations"], ["sets"], ["prerequisites"], ["impressionsDisabled"]]

/-- Reads a flag. -/
def ofJson? (v : Value) : Option Flag := do
  let [name, trafficType, changeNumber, status, killed, defaultTreatment, allocation,
    allocationSeed, seed, algo, conditions, configurations, sets, prerequisites,
    impressionsDisabled] ← v.record? fieldNames | none
  return {
    name := ← name.required? Value.string?
    trafficType := ← trafficType.optionalDefault? Value.string?
    changeNumber := ← changeNumber.required? (Value.signed? 64)
    status := ← status.withDefault? Status.ofJson? .active
    killed := ← killed.withDefault? Value.bool? false
    defaultTreatment := ← defaultTreatment.required? Value.string?
    trafficAllocation := ← allocation.optionalDefault? (Value.unsigned? 32)
    trafficAllocationSeed := ← allocationSeed.optionalDefault? (Value.signed? 64)
    seed := ← seed.optionalDefault? (Value.signed? 64)
    algo := ← algo.optionalDefault? (Value.signed? 32)
    conditions := ← conditions.withDefault? (Value.list? Condition.ofJson?) []
    configurations := (← configurations.optionalDefault? (Value.dictionary? Value.string?)).map
      Dict.ofList
    sets := ← sets.optionalDefault? Names.ofJson?
    prerequisites := ← prerequisites.optionalDefault? (Value.list? Prerequisite.ofJson?)
    impressionsDisabled := ← impressionsDisabled.withDefault? Value.bool? false }

/-- Writes a flag. -/
def toJson (f : Flag) : Value :=
  .object [("name", .string f.name), ("trafficTypeName", optionJson .string f.trafficType),
    ("changeNumber", .int f.changeNumber), ("status", f.status.toJson),
    ("killed", .bool f.killed), ("defaultTreatment", .string f.defaultTreatment),
    ("trafficAllocation", optionJson natJson f.trafficAllocation),
    ("trafficAllocationSeed", optionJson .int f.trafficAllocationSeed),
    ("seed", optionJson .int f.seed), ("algo", optionJson .int f.algo),
    ("conditions", .array (f.conditions.map Condition.toJson)),
    ("configurations", optionJson (fun d => .object (d.map .string).entries) f.configurations),
    ("sets", optionJson (fun s => stringsJson s.toList) f.sets),
    ("prerequisites", optionJson (fun ps => .array (ps.map Prerequisite.toJson)) f.prerequisites),
    ("impressionsDisabled", .bool f.impressionsDisabled)]

end Flag

namespace ExcludedKind

/-- Reads the kind of an excluded segment; an unfamiliar name is kept as `unknown`. -/
def ofJson? (v : Value) : Option ExcludedKind :=
  v.variant?.map fun s =>
    if s = "standard" then .standard else if s = "rule-based" then .ruleBased else .unknown

/-- Writes the kind of an excluded segment. -/
def toJson : ExcludedKind → Value
  | .standard => .string "standard"
  | .ruleBased => .string "rule-based"
  | .unknown => .string "unknown"

end ExcludedKind

namespace ExcludedSegment

/-- Reads an excluded segment. -/
def ofJson? (v : Value) : Option ExcludedSegment := do
  let [name, kind] ← v.record? [["name"], ["type"]] | none
  return ⟨← name.required? Value.string?, ← kind.required? ExcludedKind.ofJson?⟩

/-- Writes an excluded segment. -/
def toJson (e : ExcludedSegment) : Value :=
  .object [("name", .string e.name), ("type", e.kind.toJson)]

end ExcludedSegment

namespace Excluded

/-- Reads what is excluded. -/
def ofJson? (v : Value) : Option Excluded := do
  let [keys, segments] ← v.record? [["keys"], ["segments"]] | none
  return ⟨← keys.optionalDefault? (Value.list? Value.string?),
    ← segments.optionalDefault? (Value.list? ExcludedSegment.ofJson?)⟩

/-- Writes what is excluded. -/
def toJson (e : Excluded) : Value :=
  .object [("keys", optionJson stringsJson e.keys),
    ("segments", optionJson (fun ss => .array (ss.map ExcludedSegment.toJson)) e.segments)]

end Excluded

namespace RuleBasedSegment

/-- The fields of a rule-based segment in their order. -/
def fieldNames : List (List String) :=
  [["name"], ["trafficTypeName"], ["changeNumber"], ["status"], ["excluded"], ["conditions"]]

/-- Reads a rule-based segment. -/
def ofJson? (v : Value) : Option RuleBasedSegment := do
  let [name, trafficType, changeNumber, status, excluded, conditions] ←
    v.record? fieldNames | none
  return {
    name := ← name.required? Value.string?
    trafficType := ← trafficType.optionalDefault? Value.string?
    changeNumber := ← changeNumber.required? (Value.signed? 64)
    status := ← status.withDefault? Status.ofJson? .active
    excluded := ← excluded.withDefault? Excluded.ofJson? ⟨none, none⟩
    conditions := ← conditions.withDefault? (Value.list? Condition.ofJson?) [] }

/-- Writes a rule-based segment. -/
def toJson (s : RuleBasedSegment) : Value :=
  .object [("name", .string s.name), ("trafficTypeName", optionJson .string s.trafficType),
    ("changeNumber", .int s.changeNumber), ("status", s.status.toJson),
    ("excluded", s.excluded.toJson), ("conditions", .array (s.conditions.map Condition.toJson))]

end RuleBasedSegment

end Halyard

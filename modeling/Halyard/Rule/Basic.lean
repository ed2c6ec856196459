/-
# Targeting rules

A flag assigns treatments to keys by conditions; a rule-based segment decides
membership by conditions. Only what synchronisation needs is spelled out here:
names, change numbers, liveness, and which segments a rule refers to. A
matcher keeps everything else about itself as it was written.

Key definitions: `Flag`, `RuleBasedSegment`, `Rule`, `Rule.segmentNames`,
`Flag.ruleBasedSegmentNames`, `Flag.matchesSets`.
-/
import Halyard.Dict
import Halyard.Json.Datum

namespace Halyard

/-- The version of an entity, a page or a store. -/
abbrev ChangeNumber := Int

/-- The watermark of a store that was never synchronised. -/
def unsynced : ChangeNumber := -1

/-- Whether a rule is in use. -/
inductive Status where
  | active
  | archived
deriving DecidableEq, Inhabited

/-- A share of the traffic and the treatment it gets. -/
structure Partition where
  treatment : String
  size : Nat
deriving DecidableEq

/-- One test of a condition. `segment` is the segment it refers to, `extra` the
rest of what was written about it. -/
structure Matcher where
  kind : String
  negate : Bool
  segment : Option String
  extra : Dict Json.Datum

/-- The tests of a condition and how they are combined. -/
structure MatcherGroup where
  combiner : Option String
  matchers : List Matcher

/-- A group of tests and the partitions for keys that pass them. -/
structure Condition where
  kind : Option String
  group : MatcherGroup
  partitions : List Partition
  label : Option String

/-- A flag that has to evaluate to one of `treatments` first. -/
structure Prerequisite where
  flag : String
  treatments : List String
deriving DecidableEq

/-- A feature flag. -/
structure Flag where
  name : String
  trafficType : Option String
  changeNumber : ChangeNumber
  status : Status
  killed : Bool
  defaultTreatment : String
  trafficAllocation : Option Nat
  trafficAllocationSeed : Option Int
  seed : Option Int
  algo : Option Int
  conditions : List Condition
  configurations : Option (Dict String)
  sets : Option Names
  prerequisites : Option (List Prerequisite)
  impressionsDisabled : Bool

/-- What kind of segment is excluded. -/
inductive ExcludedKind where
  | standard
  | ruleBased
  | unknown
deriving DecidableEq

/-- A segment whose members do not belong to a rule-based segment. -/
structure ExcludedSegment where
  name : String
  kind : ExcludedKind
deriving DecidableEq

/-- Keys and segments that do not belong to a rule-based segment. -/
structure Excluded where
  keys : Option (List String)
  segments : Option (List ExcludedSegment)
deriving DecidableEq, Inhabited

/-- A segment whose members are found by conditions. -/
structure RuleBasedSegment where
  name : String
  trafficType : Option String
  changeNumber : ChangeNumber
  status : Status
  excluded : Excluded
  conditions : List Condition

/-- The kind of a matcher that tests membership in a standard segment. -/
def inSegmentKind : String := "IN_SEGMENT"

/-- The kind of a matcher that tests membership in a rule-based segment. -/
def inRuleBasedSegmentKind : String := "IN_RULE_BASED_SEGMENT"

/-- The segments that matchers of the given kind refer to, as often as they do. -/
def references (kind : String) (conditions : List Condition) : List String :=
  conditions.flatMap fun c =>
    c.group.matchers.filterMap fun m => if m.kind = kind then m.segment else none

/-- What flags and rule-based segments have in common. -/
class Rule (α : Type) where
  name : α → String
  changeNumber : α → ChangeNumber
  status : α → Status
  /-- The standard segments that evaluating the rule needs. -/
  segmentNames : α → Names

namespace Rule

/-- Whether the rule is in use. -/
def active {α : Type} [Rule α] (r : α) : Bool :=
  status r == .active

end Rule

instance : Rule Flag where
  name := Flag.name
  changeNumber := Flag.changeNumber
  status := Flag.status
  segmentNames f := Names.ofList (references inSegmentKind f.conditions)

instance : Rule RuleBasedSegment where
  name := RuleBasedSegment.name
  changeNumber := RuleBasedSegment.changeNumber
  status := RuleBasedSegment.status
  segmentNames s :=
    Names.ofList (references inSegmentKind s.conditions ++
      (s.excluded.segments.getD []).filterMap fun e =>
        if e.kind = .standard then some e.name else none)

namespace Flag

/-- The rule-based segments that the flag's conditions refer to. -/
def ruleBasedSegmentNames (f : Flag) : Names :=
  Names.ofList (references inRuleBasedSegmentKind f.conditions)

/-- Whether the flag belongs to one of the given flag sets. The empty filter
keeps every flag. -/
def matchesSets (filter : Names) (f : Flag) : Bool :=
  filter.isEmpty || (f.sets.getD Names.empty).keys.any fun s => filter.contains s

end Flag

end Halyard

/-
# The stores of a client

What evaluation reads and synchronisation writes: the flags, the rule-based
segments and the segments.

Key definitions: `Stores`, `Stores.freeze`, `Stores.applyChanges`.
-/
import Halyard.Store.Rules
import Halyard.Store.Segments

namespace Halyard

/-- The three stores of a client. -/
structure Stores where
  flags : RuleStore Flag
  ruleSegments : RuleStore RuleBasedSegment
  segments : SegmentStore
deriving Inhabited

namespace Stores

/-- The stores before anything was fetched. -/
def empty : Stores := ⟨.empty, .empty, .empty⟩

/-- Refuses every write from now on. -/
def freeze (s : Stores) : Stores :=
  ⟨s.flags.freeze, s.ruleSegments.freeze, s.segments.freeze⟩

/-- Applies the page of rule-based segments. -/
def applyRuleSegments (s : Stores) (page : RulePage RuleBasedSegment) :
    Except SyncError (Stores × Names) := do
  let (rules, outcome) ← s.ruleSegments.applyDelta (Delta.ofPage page fun _ => true)
  return ({ s with ruleSegments := rules }, outcome.referenced)

/-- Applies the page of flags, of which only those in the filter are stored. -/
def applyFlags (filter : Names) (s : Stores) (page : RulePage Flag) :
    Except SyncError (Stores × Names) := do
  let (flags, outcome) ← s.flags.applyDelta (Delta.ofPage page (Flag.matchesSets filter))
  return ({ s with flags := flags }, outcome.referenced)

/-- Applies both pages, rule-based segments first, so that no flag refers to one that
is missing. If the second page is refused the first one stays applied. Answers with
the segments that the added rules refer to. -/
def applyChanges (filter : Names) (s : Stores) (c : RuleChanges) :
    Stores × Except SyncError Names :=
  match s.applyRuleSegments c.segments with
  | .error e => (s, .error e)
  | .ok (s, fromRules) =>
    match s.applyFlags filter c.flags with
    | .error e => (s, .error e)
    | .ok (s, fromFlags) => (s, .ok (fromRules.union fromFlags))

end Stores

end Halyard

/-
# Matching keys against conditions

A plain evaluator. A condition matches a key if all its matchers do, each of
which may be negated; all of them are tried, also after one has failed. The
first condition that matches decides, by its first partition.

Key definitions: `Matching.hit`, `Matching.matchesCondition`,
`Matching.evaluator`.
-/
import Halyard.Evaluation

namespace Halyard.Matching

open Json

/-- An inquiry that may fail. -/
abbrev Trial := ExceptT EvaluationError Inquiry

/-- A look-up as a trial. -/
def lookup {α : Type} (r : Except LookupError α) : Trial α :=
  ExceptT.mk (.done (r.mapError .lookup))

/-- Asks for the treatment of a flag. -/
def treatmentOf (key flag : String) : Trial String :=
  ExceptT.mk (.ask key flag .done)

/-- The texts in a list. -/
def texts : Value → List String
  | .array items => items.filterMap fun
    | .string s => some s
    | _ => none
  | _ => []

/-- Whether a whitelist has the key. -/
def whitelisted (m : Matcher) (key : String) : Bool :=
  match (m.extra.get? "whitelistMatcherData").bind (Datum.field? "whitelist") with
  | some list => (texts list).contains key
  | none => false

/-- The flag and the treatments that a dependency asks for. -/
def dependency? (m : Matcher) : Option (String × List String) := do
  let data ← m.extra.get? "dependencyMatcherData"
  let .string flag ← data.field? "split" | none
  let .array items ← data.field? "treatments" | none
  return (flag, texts (.array items))

/-- Whether all trials succeed with `true`. Each of them is made. -/
def all : List (Trial Bool) → Trial Bool
  | [] => pure true
  | t :: ts => do
    let here ← t
    let there ← all ts
    return here && there

/-- Whether some trial succeeds with `true`. Those after it are not made. -/
def any : List (Trial Bool) → Trial Bool
  | [] => pure false
  | t :: ts => do
    if ← t then return true
    any ts

/-- Whether a key is excluded from a rule-based segment. -/
def excluded (v : View) (key : String) (s : RuleBasedSegment) : Trial Bool := do
  if (s.excluded.keys.getD []).contains key then return true
  any (((s.excluded.segments.getD []).filter fun e => e.kind = .standard).map fun e =>
    lookup (v.inSegment e.name key))

mutual

/-- Whether a matcher hits the key, before negation. Rule-based segments are followed
through at most `levels` others. -/
def hit (v : View) (key : String) (levels : Nat) (m : Matcher) : Trial Bool :=
  if m.kind = "ALL_KEYS" then pure true
  else if m.kind = "WHITELIST" then pure (whitelisted m key)
  else if m.kind = inSegmentKind then lookup (v.inSegment (m.segment.getD "") key)
  else if m.kind = inRuleBasedSegmentKind then
    match levels with
    | 0 => pure false
    | levels + 1 => inRuleBasedSegment v key levels (m.segment.getD "")
  else if m.kind = "IN_SPLIT_TREATMENT" then
    match dependency? m with
    | none => pure false
    | some (flag, treatments) => do return treatments.contains (← treatmentOf key flag)
  else pure false
termination_by (levels, 0)

/-- Whether a condition matches the key. -/
def matchesCondition (v : View) (key : String) (levels : Nat) (c : Condition) : Trial Bool :=
  all (c.group.matchers.map fun m => do return (← hit v key levels m) != m.negate)
termination_by (levels, 1)

/-- Whether the key belongs to a rule-based segment. -/
def inRuleBasedSegment (v : View) (key : String) (levels : Nat) (name : String) : Trial Bool := do
  let s ← lookup (v.ruleBasedSegment name)
  if ← excluded v key s then return false
  any (s.conditions.map fun c => matchesCondition v key levels c)
termination_by (levels, 2)

end

/-- The treatment of the first condition that matches. -/
def firstMatch (v : View) (key : String) (levels : Nat) :
    List Condition → Trial (Option String)
  | [] => pure none
  | c :: cs => do
    if ← matchesCondition v key levels c then
      return c.partitions.head?.map fun p => p.treatment
    else firstMatch v key levels cs

/-- The evaluator. A chain of rule-based segments cannot be longer than there are
rule-based segments, unless it runs in a circle. -/
def evaluator : Evaluator := fun v f key =>
  (firstMatch v key (v.stores.ruleSegments.items.size + 1) f.conditions).run

end Halyard.Matching

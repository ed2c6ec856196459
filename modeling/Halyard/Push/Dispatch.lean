/-
# What an announcement leads to

An announced rule that carries its definition is applied at once, if the store
is exactly where the definition was computed and nothing it refers to is
missing; otherwise it has to be fetched. A kill is applied ahead of its fetch,
and an announced segment is fetched. While a fetch of rules is under way no
definition is applied.

Key definitions: `PushOutcome`, `Stores.applyPushedFlag`,
`Stores.applyPushedSegment`, `FetchJob`, `Replica.dispatch`.
-/
import Halyard.Fetch.Target
import Halyard.Push.Notification
import Halyard.Replica

namespace Halyard

/-- What became of a definition that came with an announcement. -/
inductive PushOutcome where
  /-- It was applied and refers to these segments. -/
  | applied (referenced : Names)
  /-- The store is complete up to it or further. -/
  | stale
  /-- It cannot be applied on its own. -/
  | needsFetch

/-- Applies a definition that was computed against `previous`. -/
def RuleStore.applyPushed {α : Type} [Rule α] (s : RuleStore α) (r : α)
    (previous : Option ChangeNumber) (keep : Bool) :
    Except SyncError (RuleStore α × PushOutcome) := do
  if Rule.changeNumber r ≤ s.watermark then return (s, .stale)
  if previous ≠ some s.watermark then return (s, .needsFetch)
  let referenced := if keep && Rule.active r then Rule.segmentNames r else Names.empty
  match ← s.applyEntity r keep with
  | (s, .applied) => return (s, .applied referenced)
  | (s, .stale) => return (s, .stale)

namespace Stores

/-- Whether a flag refers to a rule-based segment that is not stored. -/
def lacksRuleSegments (s : Stores) (f : Flag) : Bool :=
  f.ruleBasedSegmentNames.toList.any fun n => (s.ruleSegments.get? n).isNone

/-- Applies the definition of a flag. `busy` says that a fetch of rules is under way. -/
def applyPushedFlag (filter : Names) (busy : Bool) (s : Stores) (f : Flag)
    (previous : Option ChangeNumber) : Except SyncError (Stores × PushOutcome) := do
  if busy then return (s, .needsFetch)
  if s.flags.watermark < f.changeNumber && s.lacksRuleSegments f then return (s, .needsFetch)
  let (flags, outcome) ← s.flags.applyPushed f previous (f.matchesSets filter)
  return ({ s with flags := flags }, outcome)

/-- Applies the definition of a rule-based segment. -/
def applyPushedSegment (busy : Bool) (s : Stores) (r : RuleBasedSegment)
    (previous : Option ChangeNumber) : Except SyncError (Stores × PushOutcome) := do
  if busy then return (s, .needsFetch)
  let (rules, outcome) ← s.ruleSegments.applyPushed r previous true
  return ({ s with ruleSegments := rules }, outcome)

end Stores

/-- A fetch that is to be made. -/
inductive FetchJob where
  | rules (target : FetchTarget)
  | segment (name : String) (till : Option ChangeNumber)
deriving DecidableEq

namespace Replica

/-- The fetch that makes the rule stores reach a target, if they have not. -/
def fetchFor (r : Replica) (target : FetchTarget) : List FetchJob :=
  if target.reached r.stores then [] else [.rules target]

/-- Registers segments; those that are new are fetched. -/
def track (r : Replica) (names : Names) : Replica × List FetchJob :=
  let (r, fresh) := r.register names.toList
  (r, fresh.map fun n => .segment n none)

/-- What follows an attempt to apply a definition. -/
def settle (r : Replica) (target : FetchTarget) :
    Except SyncError (Stores × PushOutcome) → Replica × List FetchJob
  | .ok (s, .applied referenced) => track { r with stores := s } referenced
  | .ok (s, .stale) => ({ r with stores := s }, [])
  | .ok (s, .needsFetch) =>
    let r := { r with stores := s }
    (r, r.fetchFor target)
  | .error _ => (r, r.fetchFor target)

/-- Takes in a notification. `busy` says that a fetch of rules is under way. -/
def dispatch (filter : Names) (busy : Bool) (r : Replica) :
    Push.Notification → Replica × List FetchJob
  | .flagUpdate u =>
    r.settle (.ofFlags u.changeNumber)
      (match u.inlined.toOption with
        | some f => r.stores.applyPushedFlag filter busy f u.previous
        | none => .ok (r.stores, .needsFetch))
  | .segmentRuleUpdate u =>
    r.settle (.ofRuleSegments u.changeNumber)
      (match u.inlined.toOption with
        | some s => r.stores.applyPushedSegment busy s u.previous
        | none => .ok (r.stores, .needsFetch))
  | .kill n name treatment =>
    let flags :=
      match r.stores.flags.kill name treatment n with
      | .ok (flags, _) => flags
      | .error _ => r.stores.flags
    let r := { r with stores := { r.stores with flags := flags } }
    (r, r.fetchFor (.ofFlags n))
  | .segmentUpdate n name =>
    if n ≤ r.stores.segments.watermark name then (r, [])
    else ((r.register [name]).1, [.segment name (some n)])
  | _ => (r, [])

end Replica

end Halyard

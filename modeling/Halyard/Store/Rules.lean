/-
# The store of rules

Flags, or rule-based segments, by name, with one watermark: the change number
up to which the store is complete. Beside the rules stands an index that tells
for each segment which rules refer to it. A write either answers with the new
store or is refused, and then there is no new store. Once frozen, a store
refuses every write.

Key definitions: `RuleStore`, `Delta`, `RuleStore.applyDelta`,
`RuleStore.applyEntity`, `RuleStore.kill`.
-/
import Halyard.Changes
import Halyard.Fetch.Error

namespace Halyard

/-- Changes that lead from `since` to `till`. -/
structure Delta (α : Type) where
  since : ChangeNumber
  till : ChangeNumber
  additions : List α
  removals : List String

namespace Delta

variable {α : Type} [Rule α]

/-- Whether a rule is to be stored: it is in use and `keep` accepts it. -/
def wanted (keep : α → Bool) (r : α) : Bool :=
  Rule.active r && keep r

/-- The changes of a page. Rules that are not to be stored are removed. -/
def ofPage (page : RulePage α) (keep : α → Bool) : Delta α where
  since := page.since
  till := page.till
  additions := page.data.filter (wanted keep)
  removals := (page.data.filter fun r => !wanted keep r).map Rule.name

/-- Whether applying the changes may alter anything. -/
def effective (d : Delta α) : Bool :=
  d.till != d.since || !d.additions.isEmpty || !d.removals.isEmpty

/-- The segments that the added rules refer to. -/
def segmentNames (d : Delta α) : Names :=
  d.additions.foldl (fun s r => s.union (Rule.segmentNames r)) Names.empty

end Delta

/-- What applying a delta did. -/
structure DeltaOutcome where
  changed : Bool
  /-- The segments that the added rules refer to. -/
  referenced : Names

/-- What became of a single rule that was offered to a store. -/
inductive EntityOutcome where
  | applied
  /-- The store is complete up to the rule's change number or further. -/
  | stale
deriving DecidableEq

/-- Rules by name, the index of the segments they refer to, and the watermark. -/
structure RuleStore (α : Type) where
  items : Dict α
  references : Dict Names
  watermark : ChangeNumber
  frozen : Bool

namespace RuleStore

variable {α : Type} [Rule α]

/-- The store that was never synchronised. -/
def empty : RuleStore α := ⟨Dict.empty, Dict.empty, unsynced, false⟩

instance : Inhabited (RuleStore α) := ⟨empty⟩

/-- The rule of the given name. -/
def get? (s : RuleStore α) (name : String) : Option α :=
  s.items.get? name

/-- The names of the rules that refer to a segment. -/
def referencing (s : RuleStore α) (segment : String) : Names :=
  (s.references.get? segment).getD Names.empty

/-- The segments that stored rules refer to. -/
def segmentNames (s : RuleStore α) : Names :=
  Names.ofList s.references.keys

/-- The index with one more reference. -/
def addReference (name : String) (index : Dict Names) (segment : String) : Dict Names :=
  index.insert segment (((index.get? segment).getD Names.empty).add name)

/-- The index without one reference. A segment without references has no entry. -/
def dropReference (name : String) (index : Dict Names) (segment : String) : Dict Names :=
  match index.get? segment with
  | none => index
  | some names =>
    let rest := names.erase name
    if Names.isEmpty rest then index.erase segment else index.insert segment rest

/-- The store with the references of a stored rule taken out of the index. -/
def unlink (s : RuleStore α) (name : String) : RuleStore α :=
  match s.items.get? name with
  | none => s
  | some r =>
    { s with references := (Rule.segmentNames r).toList.foldl (dropReference name) s.references }

/-- Stores a rule in place of the one of its name. -/
def insert (s : RuleStore α) (r : α) : RuleStore α :=
  let t := s.unlink (Rule.name r)
  { t with
    references := (Rule.segmentNames r).toList.foldl (addReference (Rule.name r)) t.references
    items := t.items.insert (Rule.name r) r }

/-- Removes the rule of the given name. -/
def erase (s : RuleStore α) (name : String) : RuleStore α :=
  let t := s.unlink name
  { t with items := t.items.erase name }

/-- Refuses a write to a frozen store. -/
def writable (s : RuleStore α) : Except SyncError Unit :=
  if s.frozen then .error .frozen else .ok ()

/-- Stores a rule as it is. -/
def put (s : RuleStore α) (r : α) : Except SyncError (RuleStore α) := do
  s.writable
  return s.insert r

/-- Removes a rule and tells whether there was one. -/
def remove (s : RuleStore α) (name : String) : Except SyncError (RuleStore α × Bool) := do
  s.writable
  return (s.erase name, s.items.contains name)

/-- Moves the watermark. -/
def setWatermark (s : RuleStore α) (n : ChangeNumber) : Except SyncError (RuleStore α) := do
  s.writable
  return { s with watermark := n }

/-- Refuses every write from now on. -/
def freeze (s : RuleStore α) : RuleStore α :=
  { s with frozen := true }

/-- Removes and adds what a delta says and moves the watermark. -/
def advance (s : RuleStore α) (d : Delta α) : RuleStore α :=
  let s := d.removals.foldl erase s
  let s := d.additions.foldl insert s
  { s with watermark := d.till }

/-- Applies a delta. It has to start at the watermark and must not lead back. -/
def applyDelta (s : RuleStore α) (d : Delta α) :
    Except SyncError (RuleStore α × DeltaOutcome) := do
  s.writable
  if d.since ≠ s.watermark then throw (.gap s.watermark d.since)
  if d.till < d.since then
    throw (.malformedPayload
      ("till " ++ toString d.till ++ " is behind since " ++ toString d.since))
  return (s.advance d, ⟨d.effective, d.segmentNames⟩)

/-- Applies a single rule, unless the store is complete up to its change number.
The rule is stored if it is in use and `keep` holds, and removed otherwise. -/
def applyEntity (s : RuleStore α) (r : α) (keep : Bool) :
    Except SyncError (RuleStore α × EntityOutcome) := do
  s.writable
  if Rule.changeNumber r ≤ s.watermark then return (s, .stale)
  let t := if Rule.active r && keep then s.insert r else s.erase (Rule.name r)
  return ({ t with watermark := Rule.changeNumber r }, .applied)

/-- The killed form of a flag. -/
def killed (f : Flag) (treatment : String) (n : ChangeNumber) : Flag :=
  { f with killed := true, defaultTreatment := treatment, changeNumber := n }

/-- Kills a flag ahead of the definition that will say so. A flag that is missing or
not older than `n` stays as it is; the watermark does not move. -/
def kill (s : RuleStore Flag) (name treatment : String) (n : ChangeNumber) :
    Except SyncError (RuleStore Flag × Bool) := do
  s.writable
  match s.get? name with
  | none => return (s, false)
  | some f =>
    if n ≤ f.changeNumber then return (s, false)
    else return (s.insert (killed f treatment n), true)

/-- The names of the flags in each of the given flag sets. -/
def namesBySets (s : RuleStore Flag) (sets : List String) : Dict Names :=
  Dict.ofList (sets.map fun set =>
    (set, Names.ofList ((s.items.entries.filter fun e =>
      (e.2.sets.getD Names.empty).contains set).map fun e => e.2.name)))

/-- The rule-based segments that stored flags refer to. -/
def ruleBasedSegmentNames (s : RuleStore Flag) : Names :=
  Names.ofList (s.items.entries.flatMap fun e => e.2.ruleBasedSegmentNames.toList)

end RuleStore

end Halyard

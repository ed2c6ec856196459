/-
# What a fetch has to reach

A push message announces a change number; a target names the change numbers
that the rule stores have to reach because of such messages. Targets that wait
together are merged into one.

Key definitions: `FetchOptions`, `FetchTarget`, `FetchTarget.merge`,
`FetchTarget.reached`.
-/
import Halyard.Store

namespace Halyard

/-- How a fetch is to be answered. -/
structure FetchOptions where
  /-- Not from a cache in between. -/
  noCache : Bool
  /-- Up to this change number, so that a cache cannot answer with less. -/
  till : Option ChangeNumber
deriving DecidableEq

namespace FetchOptions

/-- The options of a poll. -/
def poll : FetchOptions := ⟨false, none⟩

/-- The options of a fetch that push asks for. -/
def onDemand : FetchOptions := ⟨true, none⟩

/-- The options of a fetch that goes past caches that are behind. -/
def bypass (till : ChangeNumber) : FetchOptions := ⟨true, some till⟩

end FetchOptions

/-- The larger of two change numbers, if there are any. -/
def laterOf : Option ChangeNumber → Option ChangeNumber → Option ChangeNumber
  | none, b => b
  | a, none => a
  | some a, some b => some (max a b)

/-- Change numbers that the rule stores have to reach. -/
structure FetchTarget where
  flags : Option ChangeNumber
  ruleSegments : Option ChangeNumber
deriving DecidableEq

namespace FetchTarget

/-- Nothing has to be reached. -/
def empty : FetchTarget := ⟨none, none⟩

/-- The flags have to reach a change number. -/
def ofFlags (n : ChangeNumber) : FetchTarget := ⟨some n, none⟩

/-- The rule-based segments have to reach a change number. -/
def ofRuleSegments (n : ChangeNumber) : FetchTarget := ⟨none, some n⟩

/-- The target that asks for what both ask for. -/
def merge (a b : FetchTarget) : FetchTarget :=
  ⟨laterOf a.flags b.flags, laterOf a.ruleSegments b.ruleSegments⟩

/-- The largest change number asked for. -/
def till (t : FetchTarget) : Option ChangeNumber :=
  laterOf t.flags t.ruleSegments

/-- Whether a watermark is at or past what is asked for. -/
def covered (watermark : ChangeNumber) : Option ChangeNumber → Bool
  | none => true
  | some n => n ≤ watermark

/-- Whether the stores reached the target. -/
def reached (t : FetchTarget) (s : Stores) : Bool :=
  covered s.flags.watermark t.flags && covered s.ruleSegments.watermark t.ruleSegments

end FetchTarget

end Halyard

/-
# Fetching a segment

The keys of a segment are fetched page by page, until an answer has nothing
after it. What comes is taken for the segment that was asked for, whatever name
it bears.

Key definitions: `SegmentFetch`, `SegmentFetch.receive`.
-/
import Halyard.Fetch.Rules

namespace Halyard

/-- A fetch of a segment that is under way: how often a page did not fit. -/
structure SegmentFetch where
  gaps : Nat
deriving DecidableEq

namespace SegmentFetch

/-- A fetch before its first request. -/
def start : SegmentFetch := ⟨0⟩

/-- The number of keys that a page mentions. -/
def keyCount (c : SegmentChanges) : Nat :=
  c.added.length + c.removed.length

/-- Takes in an answer. Also tells how many keys were applied, if there was a change. -/
def receive (name : String) (f : SegmentFetch) (s : SegmentStore) :
    Except FetchError SegmentChanges → SegmentStore × Option Nat × Reception SegmentFetch Unit
  | .error e => (s, none, .over (.error e.toSync))
  | .ok c =>
    let c := { c with name := name }
    match s.applyDelta c with
    | (s, .ok changed) =>
      let count := if changed then some (keyCount c) else none
      if c.till = c.since then (s, count, .over (.ok ())) else (s, count, .again f)
    | (s, .error (.gap expected got)) =>
      if f.gaps < maxRefetches then (s, none, .again ⟨f.gaps + 1⟩)
      else (s, none, .over (.error (.gap expected got)))
    | (s, .error e) => (s, none, .over (.error e))

end SegmentFetch

end Halyard

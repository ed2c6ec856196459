/-
# Fetching rules

Flags and rule-based segments are fetched page by page, until an answer has
nothing new for either. A page that does not begin at the watermark is asked
for again, a few times. Any other refusal ends the fetch; pages that were
applied before stay applied.

Key definitions: `RuleFetch`, `RuleFetch.receive`, `Reception`.
-/
import Halyard.Fetch.Target

namespace Halyard

/-- How often a page that does not fit is asked for again. -/
def maxRefetches : Nat := 3

/-- What becomes of a fetch after an answer: it goes on, or it is over. -/
inductive Reception (φ α : Type) where
  | again (f : φ)
  | over (r : Except SyncError α)

/-- A fetch of rules that is under way: how often a page did not fit, and the segments
that the fetched rules refer to. -/
structure RuleFetch where
  gaps : Nat
  referenced : Names

namespace RuleFetch

/-- A fetch before its first request. -/
def start : RuleFetch := ⟨0, Names.empty⟩

/-- Whether an answer has nothing after it. -/
def caughtUp (c : RuleChanges) : Bool :=
  c.flags.till == c.flags.since && c.segments.till == c.segments.since

/-- Takes in an answer. -/
def receive (filter : Names) (f : RuleFetch) (s : Stores) :
    Except FetchError RuleChanges → Stores × Reception RuleFetch Names
  | .error e => (s, .over (.error e.toSync))
  | .ok c =>
    match s.applyChanges filter c with
    | (s, .ok names) =>
      let referenced := f.referenced.union names
      if caughtUp c then (s, .over (.ok referenced))
      else (s, .again { f with referenced := referenced })
    | (s, .error (.gap expected got)) =>
      if f.gaps < maxRefetches then (s, .again { f with gaps := f.gaps + 1 })
      else (s, .over (.error (.gap expected got)))
    | (s, .error e) => (s, .over (.error e))

end RuleFetch

end Halyard

/-
# Fetches on a virtual clock

A fetch that is under way, with the answer it waits for. Endpoints are given by
scripts: each reply says how long it takes, what else happens before it
arrives, and what it answers. Requests are logged when they are made. Times are
in milliseconds.

Key definitions: `Reply`, `Pending`, `RuleCall`, `SegmentCall`, `Work`.
-/
import Halyard.Fetch.Pursuit
import Halyard.Fetch.Segments

namespace Halyard.Virtual

/-- How a request will be answered: after a delay, and after some interjections. -/
structure Reply (ρ α : Type) where
  delay : Nat
  during : List ρ
  answer : α

/-- An answer that is on its way. -/
structure Pending (ρ α : Type) where
  due : Nat
  during : List ρ
  answer : Except FetchError α

/-- The reply to a request for rules. It depends on where the stores are. -/
abbrev RuleReply (ρ : Type) :=
  Reply ρ (ChangeNumber → ChangeNumber → Except FetchError RuleChanges)

/-- The reply to a request for a segment. It depends on where the segment is. -/
abbrev SegmentReply (ρ : Type) :=
  Reply ρ (ChangeNumber → Except FetchError SegmentChanges)

/-- The answer that nothing is new since the given change numbers. -/
def nothingNew (flags rules : ChangeNumber) : RuleChanges :=
  ⟨⟨flags, flags, []⟩, ⟨rules, rules, []⟩⟩

/-- The answer that nothing is new in a segment. -/
def nothingNewIn (name : String) (since : ChangeNumber) : SegmentChanges :=
  ⟨name, since, since, [], []⟩

/-- A logged request for rules. -/
structure RuleRequest where
  time : Nat
  since : ChangeNumber
  ruleSince : ChangeNumber
  options : FetchOptions

/-- A logged request for a segment. -/
structure SegmentRequest where
  time : Nat
  name : String
  since : ChangeNumber
  options : FetchOptions

/-- A fetch of rules: its place in the queue for the rule stores, and the answer it
waits for. -/
structure RuleCall (ρ : Type) where
  ticket : Nat
  options : FetchOptions
  fetch : RuleFetch
  pending : Option (Pending ρ RuleChanges)

/-- A fetch of a segment and the answer it waits for. -/
structure SegmentCall (ρ : Type) where
  name : String
  options : FetchOptions
  fetch : SegmentFetch
  pending : Option (Pending ρ SegmentChanges)

/-- A pursuit of rules: the segments found so far, the fetch under way, or else when
the next one begins. -/
structure RulePursuit (ρ : Type) where
  target : FetchTarget
  referenced : Names
  pursuit : Pursuit
  call : Option (RuleCall ρ)
  wake : Nat

/-- A pursuit of a segment: the fetch under way, or else when the next one begins. -/
structure SegmentPursuit (ρ : Type) where
  name : String
  target : ChangeNumber
  pursuit : Pursuit
  call : Option (SegmentCall ρ)
  wake : Nat

/-- What a worker or a task is busy with. -/
inductive Work (ρ : Type) where
  | rules (c : RuleCall ρ)
  | segment (c : SegmentCall ρ)
  | pursueRules (p : RulePursuit ρ)
  | pursueSegment (p : SegmentPursuit ρ)
  | settled (r : Except SyncError Names)

namespace Work

variable {ρ : Type}

/-- When the work can go on. -/
def due : Work ρ → List Nat
  | .rules c => c.pending.toList.map (·.due)
  | .segment c => c.pending.toList.map (·.due)
  | .pursueRules p =>
    match p.call with
    | some c => c.pending.toList.map (·.due)
    | none => [p.wake]
  | .pursueSegment p =>
    match p.call with
    | some c => c.pending.toList.map (·.due)
    | none => [p.wake]
  | .settled _ => []

/-- The place in the queue for the rule stores that the work holds. -/
def ticket? : Work ρ → Option Nat
  | .rules c => some c.ticket
  | .pursueRules p => p.call.map (·.ticket)
  | _ => none

end Work

end Halyard.Virtual

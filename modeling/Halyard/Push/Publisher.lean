/-
# Publishing the push status

The current status is published to subscribers as a sequence of transitions;
a status that repeats the current one is no transition. A subscriber that
falls behind keeps the newest transitions and learns how many it lost.

Key definitions: `Subscriber`, `Publisher`, `Publisher.publish`,
`Subscriber.drain`.
-/
import Halyard.Push.Availability

namespace Halyard.Push

/-- The transitions that wait for a subscriber, oldest first, and how many it lost. -/
structure Subscriber where
  pending : List PushStatus
  lost : Nat
deriving DecidableEq

namespace Subscriber

/-- How many transitions wait at most. -/
def capacity : Nat := 64

/-- A subscriber that has just joined. -/
def joined : Subscriber := ⟨[], 0⟩

/-- Hands over a transition. -/
def receive (s : Subscriber) (status : PushStatus) : Subscriber :=
  let pending := s.pending ++ [status]
  let excess := pending.length - capacity
  ⟨pending.drop excess, s.lost + excess⟩

/-- Takes all that waits: how many were lost, and the transitions. -/
def drain (s : Subscriber) : (Nat × List PushStatus) × Subscriber :=
  ((s.lost, s.pending), joined)

end Subscriber

/-- The status, which can be watched, and those who are told about its transitions. -/
structure Publisher where
  current : Option PushStatus
  subscribers : List Subscriber
deriving DecidableEq

namespace Publisher

/-- Before anything was published. -/
def start : Publisher := ⟨none, []⟩

/-- Whether publishing the status is a transition. -/
def changes (p : Publisher) (status : PushStatus) : Bool :=
  p.current != some status

/-- Publishes a status. -/
def publish (p : Publisher) (status : PushStatus) : Publisher :=
  if p.changes status then
    ⟨some status, p.subscribers.map fun s => s.receive status⟩
  else p

/-- Adds a subscriber, who learns of later transitions. -/
def subscribe (p : Publisher) : Publisher :=
  { p with subscribers := p.subscribers ++ [.joined] }

end Publisher

end Halyard.Push

/-
# The cadence of polling

While push is healthy polling slows down to a safety interval. When push is
not, both polling tasks go back to their own intervals, and if they had been
slow they run at once, because push may have missed something.

Key definitions: `PollIntervals`, `Cadence`, `Cadence.apply`.
-/
import Halyard.Push.Availability

namespace Halyard

/-- The intervals of the polling tasks, in milliseconds. -/
structure PollIntervals where
  flags : Nat
  segments : Nat
deriving DecidableEq

/-- The intervals while push is not healthy, and the one while it is. -/
structure Cadence where
  fast : PollIntervals
  safety : Nat
deriving DecidableEq

namespace Cadence

/-- The intervals after a status, and whether both tasks are to run at once. -/
def apply (c : Cadence) (current : PollIntervals) (status : Push.PushStatus) :
    PollIntervals × Bool :=
  if status.healthy then (⟨c.safety, c.safety⟩, false)
  else (c.fast, current.flags != c.fast.flags)

end Cadence

end Halyard

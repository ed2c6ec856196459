/-
# Backoff

Delays between attempts double from a base up to a maximum. Jitter adds up to
half of a delay, but never exceeds the maximum. Times are lengths as in
`Halyard.Duration`, in one unit: in milliseconds where nothing else is said.

All numbers on the way are bounded. Attempts and the factor have 32 bits, and a
product that is longer than any time is the longest one.

Key definitions: `Backoff`, `Backoff.delay`, `Backoff.next`, `Backoff.reset`.
-/
import Halyard.Duration

namespace Halyard

/-- Delays that grow with the number of attempts. -/
structure Backoff where
  base : Nat
  max : Nat
  attempt : Nat
deriving DecidableEq

namespace Backoff

/-- Backoff before the first attempt. -/
def start (base max : Nat) : Backoff := ⟨base, max, 0⟩

/-- The largest power of two by which the base is multiplied. -/
def maxDoublings : Nat := 31

/-- The largest attempt number; counting stops there. -/
def maxAttempt : Nat := 0xFFFFFFFF

/-- The largest factor. -/
def maxFactor : Nat := 0xFFFFFFFF

/-- The factor by which the base is multiplied. -/
def factor (b : Backoff) : Nat :=
  min (Nat.pow 2 (min b.attempt maxDoublings)) maxFactor

/-- The delay before the next attempt. -/
def delay (b : Backoff) : Nat :=
  min (Duration.times b.base b.factor) b.max

/-- Takes a delay. -/
def next (b : Backoff) : Nat × Backoff :=
  (b.delay, { b with attempt := min (b.attempt + 1) maxAttempt })

/-- The delay with jitter. -/
def jittered (b : Backoff) (jitter : Nat) : Nat :=
  min (Duration.plus b.delay jitter) b.max

/-- Starts again at the base. -/
def reset (b : Backoff) : Backoff :=
  { b with attempt := 0 }

end Backoff

end Halyard

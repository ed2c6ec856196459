/-
# Lengths of time

A length of time has at most `longest` nanoseconds, which is one less than
`2 ^ 64` seconds have. What would be longer is `longest`.

In a coarser unit fewer counts make that length. Nothing here depends on it:
what is limited to a length that there is (`Backoff.delay`) comes out alike.

Key definitions: `Duration.longest`, `Duration.times`, `Duration.plus`.
-/

namespace Halyard.Duration

/-- The longest time there is. -/
def longest : Nat := Nat.pow 2 64 * 1000000000 - 1

/-- A time taken several times. -/
def times (d n : Nat) : Nat := min (d * n) longest

/-- One time after another. -/
def plus (d e : Nat) : Nat := min (d + e) longest

end Halyard.Duration

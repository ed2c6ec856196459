/-
# Pursuing an announced change

After a push message the stores are fetched until they reach what was
announced. Plain fetches are tried first, with growing delays between them; if
the change does not show, fetches that go past the caches are tried in the same
way. A failure that trying again does not cure ends the pursuit.

Key definitions: `Pursuit`, `Pursuit.start`, `Pursuit.next`, `Pursuit.Move`.
-/
import Halyard.Backoff
import Halyard.Config
import Halyard.Fetch.Target

namespace Halyard

/-- The longest delay between two attempts, in milliseconds. -/
def maxPursuitDelay : Nat := 60000

/-- A pursuit: whether it goes past the caches by now, the attempts made in this phase,
and the delays between them. -/
structure Pursuit where
  bypassing : Bool
  attempts : Nat
  backoff : Backoff
deriving DecidableEq

namespace Pursuit

/-- What a pursuit does next. -/
inductive Move where
  /-- Fetch at once. -/
  | fetch (p : Pursuit)
  /-- Fetch after a delay. -/
  | wait (ms : Nat) (p : Pursuit)
  /-- Nothing more. -/
  | stop (r : Except SyncError Unit)

/-- How many attempts a number of retries allows. Attempts are counted in 32 bits. -/
def allowed (retries : Nat) : Nat :=
  (retries + 1) % Nat.pow 2 32

/-- How many attempts a phase has. -/
def phaseAttempts (settings : OnDemandSettings) (bypassing : Bool) : Nat :=
  allowed (if bypassing then settings.bypassRetries else settings.retries)

/-- The pursuit at the beginning of a phase. -/
def atPhase (settings : OnDemandSettings) (bypassing : Bool) : Pursuit :=
  ⟨bypassing, 0, .start settings.backoffMs maxPursuitDelay⟩

/-- Enters a phase, or passes over it if it has no attempts. -/
def enter (settings : OnDemandSettings) (bypassing : Bool) : Move :=
  if 0 < phaseAttempts settings bypassing then .fetch (atPhase settings bypassing)
  else if !bypassing && 0 < phaseAttempts settings true then .fetch (atPhase settings true)
  else .stop (.ok ())

/-- How a pursuit begins, if the target is not reached yet. -/
def start (settings : OnDemandSettings) (reached : Bool) : Move :=
  if reached then .stop (.ok ()) else enter settings false

/-- What follows an attempt that ended in `result`, after which the target is reached
or not. -/
def next (settings : OnDemandSettings) (p : Pursuit) (result : Except SyncError Unit)
    (reached : Bool) : Move :=
  match result with
  | .error e =>
    if e.retryable then proceed p reached else .stop (.error e)
  | .ok () => proceed p reached
where
  /-- What follows an attempt that did not end the pursuit. -/
  proceed (p : Pursuit) (reached : Bool) : Move :=
    if reached then .stop (.ok ())
    else if p.attempts + 1 < phaseAttempts settings p.bypassing then
      let (delay, backoff) := p.backoff.next
      .wait delay { p with attempts := p.attempts + 1, backoff := backoff }
    else if p.bypassing then .stop (.ok ())
    else enter settings true

/-- How the attempts of a phase are fetched. -/
def options (p : Pursuit) (till : Option ChangeNumber) : FetchOptions :=
  if p.bypassing then ⟨true, till⟩ else .onDemand

end Pursuit

end Halyard

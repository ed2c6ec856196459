/-
# Periodic tasks

A task runs its body at once and then after every interval. Triggering it runs
the body without waiting for the interval to end; a trigger while the body runs
is kept for the wait after it, but only one. A changed interval counts from the
moment of the change. Times are in milliseconds.

Key definitions: `Periodic`, `Periodic.poll`, `Periodic.setInterval`,
`Periodic.finish`.
-/

namespace Halyard

/-- What a periodic task is doing. -/
inductive Periodic.Phase where
  | idle
  | running
  | waiting (since : Nat)
  | stopped
deriving DecidableEq

/-- A periodic task: its interval, whether a trigger is kept, and what it is doing. -/
structure Periodic where
  interval : Nat
  triggered : Bool
  phase : Periodic.Phase
deriving DecidableEq

namespace Periodic

/-- A task that is about to run its body for the first time. -/
def start (interval : Nat) : Periodic := ⟨interval, false, .idle⟩

/-- When the wait ends by itself. -/
def due (t : Periodic) : Option Nat :=
  match t.phase with
  | .waiting since => some (since + t.interval)
  | _ => none

/-- Whether the body is to run now, and the task once it does. -/
def poll (t : Periodic) (now : Nat) : Option Periodic :=
  match t.phase with
  | .idle => some { t with phase := .running }
  | .waiting since =>
    if t.triggered then some { t with triggered := false, phase := .running }
    else if since + t.interval ≤ now then some { t with phase := .running }
    else none
  | _ => none

/-- The body came to its end. -/
def finish (t : Periodic) (now : Nat) : Periodic :=
  match t.phase with
  | .running => { t with phase := .waiting now }
  | _ => t

/-- Asks for a run without waiting. -/
def trigger (t : Periodic) : Periodic :=
  { t with triggered := true }

/-- Changes the interval. The wait in progress begins anew. -/
def setInterval (t : Periodic) (now interval : Nat) : Periodic :=
  if t.interval = interval then t
  else
    { t with
      interval := interval
      phase := match t.phase with
        | .waiting _ => .waiting now
        | p => p }

/-- Ends the task; a body that is running is dropped. -/
def stop (t : Periodic) : Periodic :=
  { t with phase := .stopped }

end Periodic

end Halyard

/-
# A periodic task on a virtual clock

A periodic task whose body takes a fixed time, and the moments at which the
body started and came to its end.

Key definitions: `Ticking`, `Ticking.settle`, `Ticking.advanceTo`.
-/
import Halyard.Poll.Periodic

namespace Halyard.Virtual

/-- A periodic task with a body of fixed length, and its history. -/
structure Ticking where
  now : Nat
  task : Periodic
  length : Nat
  /-- When the body that is running will end. -/
  ends : Option Nat
  started : List Nat
  completed : List Nat

namespace Ticking

/-- A task that is about to start. -/
def start (interval length : Nat) : Ticking := ⟨0, .start interval, length, none, [], []⟩

/-- What the task does next without time passing. -/
def step (t : Ticking) : Option Ticking :=
  match t.ends with
  | some e =>
    if e ≤ t.now then
      some { t with
        task := t.task.finish t.now
        ends := none
        completed := t.completed ++ [t.now] }
    else none
  | none =>
    (t.task.poll t.now).map fun task =>
      { t with task := task, ends := some (t.now + t.length), started := t.started ++ [t.now] }

/-- Runs the task until it waits. -/
def settle : Nat → Ticking → Ticking
  | 0, t => t
  | n + 1, t =>
    match t.step with
    | some t => settle n t
    | none => t

/-- Lets time pass up to `target`. -/
def advanceTo (target : Nat) : Nat → Ticking → Ticking
  | 0, t => t
  | n + 1, t =>
    let t := t.settle n
    let next := ((t.ends.toList ++ t.task.due.toList ++ [target]).filter (t.now < ·)).min?
    match next with
    | some m => if m ≤ target then advanceTo target n { t with now := m } else t
    | none => t

/-- Ends the task. A body that is running is dropped. -/
def stop (t : Ticking) : Ticking :=
  { t with task := t.task.stop, ends := none }

/-- Forgets the history. -/
def clear (t : Ticking) : Ticking :=
  { t with started := [], completed := [] }

end Ticking

end Halyard.Virtual

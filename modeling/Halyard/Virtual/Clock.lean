/-
# The virtual clock

Tasks run until all of them wait; only then does time pass, and it jumps to the
next moment at which one of them can go on. Every run is bounded by a number of
rounds.

Key definitions: `World.settle`, `World.nextTime`, `World.advanceTo`,
`World.await`.
-/
import Halyard.Virtual.Tasks

namespace Halyard.Virtual

/-- How many rounds a run may have. -/
def maxRounds : Nat := 10000000

namespace World

variable {ρ β : Type}

/-- Runs a task until it waits. Also tells whether it did anything. -/
def runActor (f : Interject ρ β) (a : Actor) : Nat → Bool → World ρ β → World ρ β × Bool
  | 0, _, w => (w, false)
  | n + 1, woken, w =>
    match w.act f woken a with
    | none => (w, !woken)
    | some w => runActor f a n false w

/-- Gives every task its turn. Also tells whether one did anything. -/
def round (f : Interject ρ β) (w : World ρ β) : World ρ β × Bool :=
  w.actors.foldl (fun (w, moved) a =>
    let (w, here) := runActor f a maxRounds true w
    (w, moved || here)) (w, false)

/-- Runs all tasks until they wait. -/
def settle (f : Interject ρ β) : Nat → World ρ β → World ρ β
  | 0, w => w
  | n + 1, w =>
    match w.round f with
    | (w, true) => settle f n w
    | (w, false) => w

/-- The moments at which a worker goes on. -/
def workerDue : Worker ρ → List Nat
  | .busy _ work => work.due
  | _ => []

/-- The moments at which polling goes on. -/
def pollingDue (p : Polling ρ) : List Nat :=
  p.flags.task.due.toList ++ p.segments.task.due.toList ++
    (p.flags.body.map Work.due).getD []

/-- The moments at which push goes on. -/
def pushDue (p : PushSide ρ) : List Nat :=
  p.timer.toList ++ p.refreshAt.toList ++ p.answer.toList.map (·.due) ++
    ((p.link.bind (·.connection)).map (·.wake)).toList

/-- The moments at which a task goes on. -/
def due (w : World ρ β) : List Nat :=
  (w.front.map Work.due).getD [] ++ w.workers.flatMap workerDue ++
    (match w.ruleWorker with
      | .busy work => work.due
      | _ => []) ++
    (w.polling.map pollingDue).getD [] ++ (w.push.map pushDue).getD []

/-- The next moment at which something happens, among those of the tasks and the ones
given. -/
def nextTime (w : World ρ β) (others : List Nat) : Option Nat :=
  ((w.due ++ others).filter (w.now < ·)).min?

/-- Lets time pass up to `target`, as far as that takes at most the given number of jumps. -/
def advanceTo (f : Interject ρ β) (target : Nat) : Nat → World ρ β → World ρ β
  | 0, w => w
  | n + 1, w =>
    let w := w.settle f maxRounds
    match w.nextTime [target] with
    | some t => if t ≤ target then advanceTo f target n { w with now := t } else w
    | none => w

/-- Lets time pass by some milliseconds. -/
def advance (f : Interject ρ β) (w : World ρ β) (ms : Nat) : World ρ β :=
  w.advanceTo f (w.now + ms) maxRounds

/-- Lets time pass until `ready` has an answer. `others` are moments at which it may
have one though no task goes on. -/
def awaitWithin {γ : Type} (f : Interject ρ β) (ready : World ρ β → Option γ) (others : List Nat) :
    Nat → World ρ β → World ρ β × Option γ
  | 0, w => (w, none)
  | n + 1, w =>
    let w := w.settle f maxRounds
    match ready w with
    | some g => (w, some g)
    | none =>
      match w.nextTime others with
      | some t => awaitWithin f ready others n { w with now := t }
      | none => (w, none)

/-- Lets time pass until `ready` has an answer. -/
def await {γ : Type} (f : Interject ρ β) (w : World ρ β) (ready : World ρ β → Option γ) :
    World ρ β × Option γ :=
  awaitWithin f ready [] maxRounds w

/-- Does work at the front to its end. -/
def finish (f : Interject ρ β) (w : World ρ β) (work : Work ρ) :
    World ρ β × Option (Except SyncError Names) :=
  { w with front := some work, frontResult := none }.await f (·.frontResult)

/-- Fetches rules until they are current. -/
def synchronize (f : Interject ρ β) (w : World ρ β) (options : FetchOptions) :
    World ρ β × Option (Except SyncError Names) :=
  let (w, c) := w.startRules options
  w.finish f (.rules c)

/-- Fetches rules until they reach a target. -/
def synchronizeWithTarget (f : Interject ρ β) (w : World ρ β) (t : FetchTarget) :
    World ρ β × Option (Except SyncError Names) :=
  let (w, work) := w.pursueRules t
  w.finish f work

/-- Fetches a segment until it is current. -/
def synchronizeSegment (f : Interject ρ β) (w : World ρ β) (name : String)
    (options : FetchOptions) : World ρ β × Option (Except SyncError Names) :=
  w.finish f (.segment (startSegment name options))

/-- Fetches a segment until it reaches a change number. -/
def synchronizeSegmentWithTarget (f : Interject ρ β) (w : World ρ β) (name : String)
    (target : ChangeNumber) : World ρ β × Option (Except SyncError Names) :=
  w.finish f (w.pursueSegment name target)

/-- Hands a segment to the pool and waits for the outcome, if there is one. -/
def fetchAwaited (f : Interject ρ β) (w : World ρ β) (name : String) :
    World ρ β × Option TicketState :=
  let (w, ticket) := w.enqueueAwaited name
  w.await f fun w => if w.ticketSettled ticket then some (w.ticketState ticket) else none

/-- Fetches every registered segment. -/
def sweep (f : Interject ρ β) (w : World ρ β) : World ρ β × Option (Except SyncError Unit) :=
  let (w, tickets) := w.enqueueSweep
  w.await f fun w => if tickets.all w.ticketSettled then some (w.sweepResult tickets) else none

/-- Waits until everything is ready, but not longer than some milliseconds. -/
def awaitReady (f : Interject ρ β) (w : World ρ β) (ms : Nat) : World ρ β × Bool :=
  let deadline := w.now + ms
  let (w, r) := awaitWithin f (fun w =>
    if w.replica.readiness.allReady then some true
    else if deadline ≤ w.now then some false
    else none) [deadline] maxRounds w
  (w, r.getD false)

end World

end Halyard.Virtual

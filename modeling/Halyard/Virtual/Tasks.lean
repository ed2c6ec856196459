/-
# The tasks of an engine

What each task of an engine does next, if it can do anything without time
passing: the workers of the segment pool, the worker for rules, the polling
tasks, the one that keeps the cadence in step with push, and the push manager
with its connection. On shutdown a task drops what it is busy with and ends.

Key definitions: `Actor`, `World.actors`, `World.act`.
-/
import Halyard.Virtual.Progress

namespace Halyard.Virtual

open Push

/-- A task. `front` is the one that runs what is asked for from outside. -/
inductive Actor where
  | front
  | worker (i : Nat)
  | segmentsTask
  | flagsTask
  | ruleWorker
  | follower
  | manager
  | connection
deriving DecidableEq

namespace World

variable {ρ β : Type}

/-- Records the outcome of a job for whoever waits for it. -/
def resolve (w : World ρ β) (job : SegmentJob) (r : Except SyncError Unit) : World ρ β :=
  match job.ticket with
  | some t => { w with outcomes := w.outcomes ++ [(t, r)] }
  | none => w

/-- Replaces a worker. -/
def setWorker (w : World ρ β) (i : Nat) (x : Worker ρ) : World ρ β :=
  { w with workers := w.workers.set i x }

/-- What a job asks a worker to do. -/
def startJob (w : World ρ β) (job : SegmentJob) : Work ρ :=
  match job.till with
  | some till => w.pursueSegment job.name till
  | none => .segment (startSegment job.name .poll)

/-- The next step of a worker. -/
def actWorker (f : Interject ρ β) (woken : Bool) (w : World ρ β) (i : Nat) :
    Option (World ρ β) :=
  match w.workers[i]? with
  | some .idle =>
    if w.shutdown || (woken && w.aborted) then some (w.setWorker i .gone)
    else
      match w.jobs with
      | [] => none
      | job :: rest => some ({ w with jobs := rest }.setWorker i (.busy job (w.startJob job)))
  | some (.busy job work) =>
    if woken && w.aborted then some (w.setWorker i .gone)
    else if woken && w.shutdown then
      some ((w.resolve job (.error .cancelled)).setWorker i .gone)
    else
      (w.stepWork f work).map fun
        | (w, .inl work) => w.setWorker i (.busy job work)
        | (w, .inr r) => (w.resolve job (r.map fun _ => ())).setWorker i .idle
  | _ => none

/-- Ends all workers, each when it is woken next. What they are busy with is lost. -/
def abortWorkers (w : World ρ β) : World ρ β :=
  { w with aborted := true }

/-- The next step of the worker for rules. Targets that wait are merged. -/
def actRuleWorker (f : Interject ρ β) (woken : Bool) (w : World ρ β) : Option (World ρ β) :=
  match w.ruleWorker with
  | .idle =>
    if w.shutdown then some { w with ruleWorker := .gone }
    else
      match w.targets with
      | [] => none
      | t :: rest =>
        let (w, work) := { w with targets := [] }.pursueRules (rest.foldl FetchTarget.merge t)
        some { w with ruleWorker := .busy work }
  | .busy work =>
    if woken && w.shutdown then some { w.release work.ticket? with ruleWorker := .gone }
    else
      (w.stepWork f work).map fun
        | (w, .inl work) => { w with ruleWorker := .busy work }
        | (w, .inr (.ok names)) => { w with ruleWorker := .idle }.track names
        | (w, .inr (.error _)) => { w with ruleWorker := .idle }
  | _ => none

/-- The next step of what is asked for from outside. -/
def actFront (f : Interject ρ β) (w : World ρ β) : Option (World ρ β) :=
  match w.front with
  | none => none
  | some work =>
    (w.stepWork f work).map fun
      | (w, .inl work) => { w with front := some work }
      | (w, .inr r) => { w with front := none, frontResult := some r }

/-- Opens a gate and tells whether it was closed. -/
def mark (w : World ρ β) (r : Resource) : World ρ β × Bool :=
  let (readiness, opened) := w.replica.readiness.mark r
  ({ w with replica := { w.replica with readiness := readiness } }, opened)

/-- What follows a poll of flags: segments that are new are fetched, and the first
success opens the gate and asks for a sweep of the segments. -/
def afterFlagsPoll (w : World ρ β) (p : Polling ρ) (r : Except SyncError Names) : World ρ β :=
  let p := { p with flags := ⟨p.flags.task.finish w.now, none⟩ }
  match r with
  | .error _ => { w with polling := some p }
  | .ok names =>
    let (w, opened) := (w.track names).mark .flags
    let p :=
      if opened then { p with segments := { p.segments with task := p.segments.task.trigger } }
      else p
    { w with polling := some p }

/-- The next step of polling flags. -/
def actFlagsTask (f : Interject ρ β) (woken : Bool) (w : World ρ β) : Option (World ρ β) :=
  match w.polling with
  | none => none
  | some p =>
    if woken && w.shutdown then
      if p.flags.task.phase = .stopped then none
      else
        some { w.release (p.flags.body.bind Work.ticket?) with
          polling := some { p with flags := ⟨p.flags.task.stop, none⟩ } }
    else
      match p.flags.body with
      | none =>
        (p.flags.task.poll w.now).map fun task =>
          let (w, c) := w.startRules .poll
          { w with polling := some { p with flags := ⟨task, some (.rules c)⟩ } }
      | some work =>
        (w.stepWork f work).map fun
          | (w, .inl work) =>
            let p := w.polling.getD p
            { w with polling := some { p with flags := ⟨p.flags.task, some work⟩ } }
          | (w, .inr r) => w.afterFlagsPoll (w.polling.getD p) r

/-- The next step of polling segments. -/
def actSegmentsTask (w : World ρ β) : Option (World ρ β) :=
  match w.polling with
  | none => none
  | some p =>
    if w.shutdown then
      if p.segments.task.phase = .stopped then none
      else some { w with polling := some { p with segments := ⟨p.segments.task.stop, none⟩ } }
    else
      match p.segments.body with
      | none =>
        (p.segments.task.poll w.now).map fun task =>
          let flagsReady := w.replica.readiness.flags
          let (w, tickets) := w.enqueueSweep
          { w with polling := some { p with segments := ⟨task, some (flagsReady, tickets)⟩ } }
      | some (flagsReady, tickets) =>
        if tickets.all w.ticketSettled then
          let complete :=
            match w.sweepResult tickets with
            | .ok () => flagsReady
            | .error _ => false
          let w := if complete then (w.mark .segments).1 else w
          some { w with
            polling := some { p with segments := ⟨p.segments.task.finish w.now, none⟩ } }
        else none

/-- Applies a push status to the polling tasks. -/
def followStatus (now : Nat) (p : Polling ρ) (status : PushStatus) : Polling ρ :=
  let current : PollIntervals := ⟨p.flags.task.interval, p.segments.task.interval⟩
  let (intervals, atOnce) := p.cadence.apply current status
  let adjust (t : Periodic) (interval : Nat) : Periodic :=
    let t := t.setInterval now interval
    if atOnce then t.trigger else t
  { p with
    flags := { p.flags with task := adjust p.flags.task intervals.flags }
    segments := { p.segments with task := adjust p.segments.task intervals.segments } }

/-- The next step of keeping the cadence in step with push. Only the latest of several
transitions is seen. -/
def actFollower (w : World ρ β) : Option (World ρ β) :=
  match w.polling with
  | none => none
  | some p =>
    match p.followed with
    | none => none
    | some seen =>
      if w.shutdown || seen = w.transitionCount then none
      else
        let p := { p with followed := some w.transitionCount }
        match w.publisher.current with
        | none => some { w with polling := some p }
        | some status => some { w with polling := some (followStatus w.now p status) }

/-- Carries out an effect of the push manager. -/
def perform (w : World ρ β) : Manager.Effect → World ρ β
  | .publish s => w.publish s
  | .count m label => w.count m label
  | .dispatch n => w.dispatch n
  | .sleep ms => w.onPush fun p => { p with timer := some (w.now + ms) }
  | .disconnect => w.onPush fun p =>
    { p with refreshAt := none, link := p.link.map fun l => { l with told := true } }
  | .authenticate =>
    let w := { w with authLog := w.authLog ++ [w.now] }
    match w.authReplies with
    | [] => w.onPush fun p => { p with answer := some ⟨w.now, [], .ok defaultToken⟩ }
    | r :: rest =>
      { w with authReplies := rest }.onPush fun p =>
        { p with answer := some ⟨w.now + r.delay, r.during, r.answer⟩ }
  | .connect t =>
    let w := { w with connectLog := w.connectLog ++ [(w.now, t.jwt)] }
    let (session, rest) :=
      match w.sessions with
      | [] => (⟨[], 0, none⟩, [])
      | s :: rest => (s, rest)
    { w with sessions := rest }.onPush fun p =>
      { p with
        refreshAt := t.refreshIn?.map fun secs => w.now + secs * 1000
        link := some ⟨some (Playback.ofSession w.now session), [], false, none⟩ }

/-- Gives the push manager an input. -/
def feedManager (w : World ρ β) (p : PushSide ρ) (i : Manager.Input) : World ρ β :=
  let (m, effects) := p.manager.step i
  effects.foldl perform { w with push := some { p with manager := m } }

/-- Notes when the manager has stopped. -/
def noteStop (w : World ρ β) : World ρ β :=
  w.onPush fun p =>
    if p.manager.phase = .stopped && p.stoppedAt.isNone then { p with stoppedAt := some w.now }
    else p

/-- The next input of the push manager, with what remains to be waited for. -/
def nextInput (w : World ρ β) (p : PushSide ρ) : Option (PushSide ρ × Manager.Input) :=
  match p.manager.phase with
  | .authenticating =>
    if w.shutdown then some ({ p with answer := none }, .shutdown)
    else
      match p.answer with
      | some a =>
        if a.due ≤ w.now then some ({ p with answer := none }, .answered a.answer) else none
      | none => none
  | .delaying _ | .backingOff =>
    if w.shutdown then some ({ p with timer := none }, .shutdown)
    else
      match p.timer with
      | some t => if t ≤ w.now then some ({ p with timer := none }, .elapsed) else none
      | none => none
  | .streaming =>
    if w.shutdown then some (p, .shutdown)
    else if (p.refreshAt.map fun t => decide (t ≤ w.now)).getD false then some (p, .refreshDue)
    else
      match p.link with
      | some l =>
        match l.queued with
        | e :: rest => some ({ p with link := some { l with queued := rest } }, .event e)
        | [] => if l.ended.isSome then some (p, .drained) else none
      | none => none
  | .closing _ =>
    if w.shutdown && !p.manager.leaving then some (p, .shutdown)
    else
      match p.link.bind (·.ended) with
      | some outcome => some ({ p with link := none }, .ended outcome)
      | none => none
  | .stopped => none

/-- The next step of the push manager. -/
def actManager (w : World ρ β) : Option (World ρ β) := do
  let p ← w.push
  let (p, i) ← w.nextInput p
  return (w.feedManager p i).noteStop

/-- Ends a connection. -/
def endConnection (w : World ρ β) (p : PushSide ρ) (l : Link) (o : ConnectionOutcome) : World ρ β :=
  { w with push := some { p with link := some { l with connection := none, ended := some o } } }

/-- The next step of a connection: it reads an event, or hands it over if there is room. -/
def actConnection (w : World ρ β) : Option (World ρ β) := do
  let p ← w.push
  let l ← p.link
  let c ← l.connection
  if l.told then return w.endConnection p l .cancelled
  if w.now < c.wake then none
  match c.events with
  | (_, e) :: rest =>
    if !c.wasRead then
      let l := { l with connection := some { c with wasRead := true } }
      let w := { w with push := some { p with link := some l } }
      return match e with
        | .connected => w
        | .notification n => w.countLost n
    if p.buffer ≤ l.queued.length then none
    let wake := w.now + ((rest.head?.map (·.1)).getD c.endAfter)
    let l := { l with
      connection := some { c with events := rest, wake := wake, wasRead := false }
      queued := l.queued ++ [e] }
    return { w with push := some { p with link := some l } }
  | [] =>
    let o ← c.outcome
    return w.endConnection p l o

/-- The tasks in the order in which they get their turns. -/
def actors (w : World ρ β) : List Actor :=
  .front :: (List.range w.workers.length).map .worker ++
    [.segmentsTask, .flagsTask, .ruleWorker, .follower, .manager, .connection]

/-- The next step of a task. A task looks at the shutdown signal when it is woken, not
between steps that follow at once. -/
def act (f : Interject ρ β) (woken : Bool) (w : World ρ β) : Actor → Option (World ρ β)
  | .front => w.actFront f
  | .worker i => w.actWorker f woken i
  | .segmentsTask => w.actSegmentsTask
  | .flagsTask => w.actFlagsTask f woken
  | .ruleWorker => w.actRuleWorker f woken
  | .follower => w.actFollower
  | .manager => w.actManager
  | .connection => w.actConnection

end World

end Halyard.Virtual

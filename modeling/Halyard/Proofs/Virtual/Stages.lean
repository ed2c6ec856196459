/-
# Polling in small steps

When a poll of flags comes back, a world registers the segments that were found and
opens the gate of flags in the same turn, and a sweep reads that gate and lists the
registry in one turn. Other tasks may get in between. In a staged world the two
polling tasks take one such step at a time, and names may be registered by anybody
at any time.

Whatever a world does in a move, a staged world does in some moves
(`Staged.plays_of_move`). So what holds of all plays of staged worlds holds of the plays
of worlds, and of the runs of the clock.

Key definitions: `Staged`, `Staged.pollTurn`, `Staged.sweepTurn`, `Staged.move`.
Key theorems: `World.pollFinds_eq_some`, `Staged.plays_of_move`, `Staged.plays_play`.
-/
import Halyard.Proofs.Virtual.Pool

namespace Halyard.Virtual

open Push

variable {β : Type}

/-- Where a poll of flags is. -/
inductive PollStage where
  /-- It rests or fetches, as the world tells. -/
  | fetching
  /-- It came back; the names are not registered yet. -/
  | found (names : Names)
  /-- The names are registered; the gate is not opened yet. -/
  | registered

/-- Where a sweep of the segments is. -/
inductive SweepStage where
  /-- It rests or waits for its tickets, as the world tells. -/
  | waiting
  /-- It has read the gate of flags. -/
  | looked (flagsReady : Bool)
  /-- It has listed the registry and hands the names to the pool. -/
  | handing (flagsReady : Bool) (rest : List String) (tickets : List Nat)
  /-- All outcomes are well, and flags were ready; the gate is not opened yet. -/
  | succeeded

/-- A world whose polling tasks may be between two steps of a turn. -/
structure Staged (β : Type) where
  world : World Empty β
  poll : PollStage
  sweep : SweepStage

/-! ### The steps of a poll and of a sweep -/

namespace World

/-- The names with which the poll comes back in this turn, if it does. -/
def pollFinds (f : Interject Empty β) (woken : Bool) (w : World Empty β) :
    Option (World Empty β × Names) :=
  match w.polling with
  | none => none
  | some p =>
    if woken && w.shutdown then none
    else
      match p.flags.body with
      | none => none
      | some work =>
        match w.stepWork f work with
        | some (v, .inr (.ok names)) =>
          some ({ v with polling := some (v.polling.getD p) }, names)
        | _ => none

/-- Opens the gate of flags, with which a poll is over. -/
def openFlags (w : World Empty β) : World Empty β :=
  let (v, opened) := w.mark .flags
  match w.polling with
  | none => v
  | some p =>
    let p := { p with flags := ⟨p.flags.task.finish w.now, none⟩ }
    let p :=
      if opened then { p with segments := { p.segments with task := p.segments.task.trigger } }
      else p
    { v with polling := some p }

/-- Begins a sweep, if it is time for one. -/
def beginSweep (w : World Empty β) : Option (World Empty β) :=
  match w.polling with
  | none => none
  | some p =>
    if w.shutdown || p.segments.body.isSome then none
    else
      (p.segments.task.poll w.now).map fun task =>
        { w with polling := some { p with segments := ⟨task, none⟩ } }

/-- Changes what the sweep waits for. -/
def setSweep (w : World Empty β) (body : Option (Bool × List Nat)) : World Empty β :=
  { w with polling := w.polling.map fun p =>
      { p with segments := { p.segments with body := body } } }

/-- Whether a sweep that began when flags were ready comes to its end now, and well. -/
def sweepSucceeds (w : World Empty β) : Bool :=
  match w.polling.bind fun p => p.segments.body with
  | some (true, tickets) =>
    !w.shutdown && tickets.all w.ticketSettled && (w.sweepResult tickets).isOk
  | _ => false

/-- Opens the gate of segments, with which a sweep is over. -/
def openSegments (w : World Empty β) : World Empty β :=
  { (w.mark .segments).1 with polling := w.polling.map fun p =>
      { p with segments := ⟨p.segments.task.finish w.now, none⟩ } }

end World

namespace Staged

/-- A world whose polling tasks are not between two steps. -/
def of (w : World Empty β) : Staged β := ⟨w, .fetching, .waiting⟩

/-- The next step of polling flags. -/
def pollTurn (f : World.Interject Empty β) (woken : Bool) (x : Staged β) : Option (Staged β) :=
  match x.poll with
  | .fetching =>
    match x.world.pollFinds f woken with
    | some (w, names) => some { x with world := w, poll := .found names }
    | none => (x.world.actFlagsTask f woken).map fun w => { x with world := w }
  | .found names => some { x with world := x.world.track names, poll := .registered }
  | .registered => some { x with world := x.world.openFlags, poll := .fetching }

/-- The next step of polling segments. -/
def sweepTurn (x : Staged β) : Option (Staged β) :=
  match x.sweep with
  | .waiting =>
    if x.world.sweepSucceeds then
      some { x with world := x.world.setSweep none, sweep := .succeeded }
    else
      match x.world.beginSweep with
      | some w => some { x with world := w, sweep := .looked x.world.replica.readiness.flags }
      | none => x.world.actSegmentsTask.map fun w => { x with world := w }
  | .looked flagsReady =>
    some { x with sweep := .handing flagsReady x.world.replica.registry.names [] }
  | .handing flagsReady (name :: rest) tickets =>
    let (w, ticket) := x.world.enqueueAwaited name
    some { x with world := w, sweep := .handing flagsReady rest (tickets ++ [ticket]) }
  | .handing flagsReady [] tickets =>
    some { x with world := x.world.setSweep (some (flagsReady, tickets)), sweep := .waiting }
  | .succeeded => some { x with world := x.world.openSegments, sweep := .waiting }

/-- The next step of a task. -/
def turn (f : World.Interject Empty β) (woken : Bool) (x : Staged β) : Actor → Option (Staged β)
  | .flagsTask => x.pollTurn f woken
  | .segmentsTask => x.sweepTurn
  | a => (x.world.act f woken a).map fun w => { x with world := w }

/-- What may happen to a staged world: what may happen to a world, only that nobody waits for
jobs that are handed over from outside. Beside that, names are registered by anybody, and the
engine is told to stop or the workers are told to drop what they do. -/
inductive Move where
  | turn (woken : Bool) (a : Actor)
  | wait (ms : Nat)
  | notify (n : Notification)
  | target (t : FetchTarget)
  | job (name : String) (till : Option ChangeNumber)
  | register (names : List String)
  | stop
  | abort

/-- The staged world after a move. A task that waits lets its turn pass. -/
def move (f : World.Interject Empty β) (x : Staged β) : Move → Staged β
  | .turn woken a => (x.turn f woken a).getD x
  | .wait ms => { x with world := { x.world with now := x.world.now + ms } }
  | .notify n => { x with world := x.world.dispatch n }
  | .target t => { x with world := (x.world.enqueueRules t).1 }
  | .job name till => { x with world := (x.world.enqueueSegment ⟨name, till, none⟩).1 }
  | .register names =>
    { x with world := { x.world with replica := (x.world.replica.register names).1 } }
  | .stop =>
    { x with world :=
        { x.world.setStores x.world.replica.stores.freeze with shutdown := true } }
  | .abort => { x with world := x.world.abortWorkers }

/-- The staged world after some moves. -/
def play (f : World.Interject Empty β) (x : Staged β) (ms : List Move) : Staged β :=
  ms.foldl (move f) x

theorem play_append {f : World.Interject Empty β} {x : Staged β} (ms ms' : List Move) :
    x.play f (ms ++ ms') = (x.play f ms).play f ms' :=
  List.foldl_append

end Staged

/-! ### Worlds in small steps -/

/-- Whether nobody waits for a job that a move hands over. -/
def Move.Unawaited : Move → Prop
  | .job j => j.ticket = none
  | _ => True

namespace World

variable {f : Interject Empty β} {w : World Empty β}

theorem enqueueRules_withPolling (p : Option (Polling Empty)) (t : FetchTarget) :
    ({ w with polling := p }.enqueueRules t).1 = { (w.enqueueRules t).1 with polling := p } := by
  have hopen : { w with polling := p }.ruleWorkerOpen = w.ruleWorkerOpen := rfl
  rw [enqueueRules, enqueueRules, hopen]
  split <;> rfl

theorem enqueueSegment_withPolling (p : Option (Polling Empty)) (job : SegmentJob) :
    ({ w with polling := p }.enqueueSegment job).1 =
      { (w.enqueueSegment job).1 with polling := p } := by
  have hopen : { w with polling := p }.poolOpen = w.poolOpen := rfl
  rw [enqueueSegment, enqueueSegment, hopen]
  split <;> rfl

theorem enqueue_withPolling (p : Option (Polling Empty)) : ∀ (jobs : List FetchJob)
    (w : World Empty β), { w with polling := p }.enqueue jobs = { w.enqueue jobs with polling := p }
  | [], _ => rfl
  | .rules t :: jobs, w => by
    show ({ w with polling := p }.enqueueRules t).1.enqueue jobs = _
    rw [enqueueRules_withPolling]
    exact enqueue_withPolling p jobs _
  | .segment name till :: jobs, w => by
    show ({ w with polling := p }.enqueueSegment _).1.enqueue jobs = _
    rw [enqueueSegment_withPolling]
    exact enqueue_withPolling p jobs _

theorem now_enqueue (jobs : List FetchJob) : (w.enqueue jobs).now = w.now := by
  refine List.foldlRecOn (motive := fun v : World Empty β => v.now = w.now) jobs _ rfl ?_
  intro v hv job _
  cases job with
  | rules t =>
    show (v.enqueueRules t).1.now = w.now
    unfold enqueueRules
    split <;> exact hv
  | segment name till =>
    show (v.enqueueSegment _).1.now = w.now
    unfold enqueueSegment
    split <;> exact hv

/-- What follows a poll: the names are registered, and then the gate is opened. -/
theorem openFlags_track (p : Polling Empty) (names : Names) :
    ({ w with polling := some p }.track names).openFlags = w.afterFlagsPoll p (.ok names) := by
  have htrack : { w with polling := some p }.track names =
      { w.track names with polling := some p } :=
    enqueue_withPolling (some p) (w.replica.track names).2
      { w with replica := (w.replica.track names).1 }
  have hnow : (w.track names).now = w.now := now_enqueue _
  rw [htrack, afterFlagsPoll, ← hnow]
  rfl

theorem pollFinds_eq_some {woken : Bool} {v : World Empty β} {names : Names}
    (h : w.pollFinds f woken = some (v, names)) :
    w.actFlagsTask f woken = some (v.track names).openFlags := by
  unfold pollFinds at h
  unfold actFlagsTask
  cases hp : w.polling with
  | none => simp [hp] at h
  | some p =>
    simp only [hp] at h ⊢
    split at h
    · cases h
    rename_i hwoken
    rw [if_neg hwoken]
    cases hb : p.flags.body with
    | none => simp [hb] at h
    | some work =>
      simp only [hb] at h ⊢
      split at h
      · rename_i v₀ found hs
        cases h
        rw [hs, openFlags_track]
        rfl
      · cases h

/-- Hands a name to the pool, as a sweep does with each name of the registry. -/
def handOut (x : World Empty β × List Nat) (name : String) : World Empty β × List Nat :=
  ((x.1.enqueueAwaited name).1, x.2 ++ [(x.1.enqueueAwaited name).2])

theorem handOut_withPolling (p : Option (Polling Empty)) : ∀ (names : List String)
    (w : World Empty β) (tickets : List Nat),
    names.foldl handOut ({ w with polling := p }, tickets) =
      ({ (names.foldl handOut (w, tickets)).1 with polling := p },
        (names.foldl handOut (w, tickets)).2)
  | [], _, _ => rfl
  | name :: names, w, tickets => by
    have hstep : handOut ({ w with polling := p }, tickets) name =
        ({ (handOut (w, tickets) name).1 with polling := p }, (handOut (w, tickets) name).2) := by
      refine Prod.ext ?_ rfl
      exact enqueueSegment_withPolling (w := { w with nextTicket := w.nextTicket + 1 }) p _
    rw [List.foldl_cons, List.foldl_cons, hstep]
    exact handOut_withPolling p names _ _

end World

namespace Staged

variable {f : World.Interject Empty β} {x y z : Staged β} {w : World Empty β}

/-- Whether some moves lead from one staged world to the other. -/
def Plays (f : World.Interject Empty β) (x y : Staged β) : Prop :=
  ∃ ms, x.play f ms = y

theorem Plays.refl : Plays f x x := ⟨[], rfl⟩

theorem Plays.trans (h : Plays f x y) (h' : Plays f y z) : Plays f x z := by
  obtain ⟨ms, rfl⟩ := h
  obtain ⟨ms', rfl⟩ := h'
  exact ⟨ms ++ ms', play_append ms ms'⟩

theorem Plays.of_turn {woken : Bool} {a : Actor} (h : x.turn f woken a = some y) :
    Plays f x y := by
  refine ⟨[.turn woken a], ?_⟩
  show (x.turn f woken a).getD x = y
  rw [h]
  rfl

/-- A turn of polling flags is one step, or three if the poll comes back. -/
theorem plays_flagsTask (woken : Bool) :
    Plays f (of w) (of ((w.actFlagsTask f woken).getD w)) := by
  cases hf : w.pollFinds f woken with
  | some x =>
    obtain ⟨v, names⟩ := x
    rw [World.pollFinds_eq_some hf]
    have hfinds : (of w).turn f woken .flagsTask = some ⟨v, .found names, .waiting⟩ := by
      show (match w.pollFinds f woken with
        | some (v, names) => some { of w with world := v, poll := .found names }
        | none => (w.actFlagsTask f woken).map fun v => { of w with world := v }) = _
      rw [hf]
      rfl
    have hregisters : turn f false ⟨v, .found names, .waiting⟩ .flagsTask =
        some ⟨v.track names, .registered, .waiting⟩ := rfl
    have hopens : turn f false ⟨v.track names, .registered, .waiting⟩ .flagsTask =
        some (of (v.track names).openFlags) := rfl
    exact ((Plays.of_turn hfinds).trans (.of_turn hregisters)).trans (.of_turn hopens)
  | none =>
    have hturn : (of w).turn f woken .flagsTask = (w.actFlagsTask f woken).map of := by
      show (match w.pollFinds f woken with
        | some (v, names) => some { of w with world := v, poll := .found names }
        | none => (w.actFlagsTask f woken).map fun v => { of w with world := v }) = _
      rw [hf]
      rfl
    cases ha : w.actFlagsTask f woken with
    | none => exact .refl
    | some v =>
      rw [ha] at hturn
      exact .of_turn hturn

theorem plays_handOut (flagsReady : Bool) (poll : PollStage) : ∀ (names : List String)
    (w : World Empty β) (tickets : List Nat),
    Plays f ⟨w, poll, .handing flagsReady names tickets⟩
      ⟨(names.foldl World.handOut (w, tickets)).1, poll,
        .handing flagsReady [] (names.foldl World.handOut (w, tickets)).2⟩
  | [], _, _ => .refl
  | name :: names, w, tickets => by
    have hhands : turn f false ⟨w, poll, .handing flagsReady (name :: names) tickets⟩ .segmentsTask =
        some ⟨(w.enqueueAwaited name).1, poll,
          .handing flagsReady names (tickets ++ [(w.enqueueAwaited name).2])⟩ := rfl
    exact (Plays.of_turn hhands).trans (plays_handOut flagsReady poll names _ _)

/-- A turn that begins a sweep: the gate is read, the registry is listed, and the names are
handed out. -/
theorem plays_beginSweep {v : World Empty β} (hends : w.sweepSucceeds = false)
    (h : w.beginSweep = some v) : Plays f (of w) (of ((w.actSegmentsTask).getD w)) := by
  have hlooks : (of w).turn f false .segmentsTask =
      some ⟨v, .fetching, .looked w.replica.readiness.flags⟩ := by
    show (of w).sweepTurn = _
    unfold sweepTurn of
    simp only [hends, h, Bool.false_eq_true, if_false]
  unfold World.beginSweep at h
  cases hp : w.polling with
  | none => simp [hp] at h
  | some p =>
    simp only [hp] at h
    split at h
    · cases h
    rename_i hrest
    obtain ⟨hshut, hbody⟩ := not_or.mp fun hor => hrest (Bool.or_eq_true_iff.mpr hor)
    obtain ⟨task, htask, rfl⟩ := Option.map_eq_some_iff.mp h
    have hnone : p.segments.body = none := by simpa using hbody
    let names := w.replica.registry.names
    let p' : Polling Empty := { p with segments := ⟨task, none⟩ }
    have hact : w.actSegmentsTask = some { w.enqueueSweep.1 with
        polling := some { p with
          segments := ⟨task, some (w.replica.readiness.flags, w.enqueueSweep.2)⟩ } } := by
      unfold World.actSegmentsTask
      simp only [hp, if_neg hshut, hnone, htask, Option.map_some]
    have hlists : turn f false
        (⟨{ w with polling := some p' }, .fetching, .looked w.replica.readiness.flags⟩ : Staged β)
        .segmentsTask = some ⟨{ w with polling := some p' }, .fetching,
          .handing w.replica.readiness.flags names []⟩ := rfl
    have hhands : Plays f
        (⟨{ w with polling := some p' }, .fetching, .handing w.replica.readiness.flags names []⟩ :
          Staged β)
        ⟨{ w.enqueueSweep.1 with polling := some p' }, .fetching,
          .handing w.replica.readiness.flags [] w.enqueueSweep.2⟩ := by
      have hplays := plays_handOut (f := f) w.replica.readiness.flags .fetching names
        { w with polling := some p' } []
      rw [World.handOut_withPolling] at hplays
      exact hplays
    have hwaits : turn f false
        (⟨{ w.enqueueSweep.1 with polling := some p' }, .fetching,
          .handing w.replica.readiness.flags [] w.enqueueSweep.2⟩ : Staged β) .segmentsTask =
        some (of { w.enqueueSweep.1 with
          polling := some { p with
            segments := ⟨task, some (w.replica.readiness.flags, w.enqueueSweep.2)⟩ } }) := rfl
    rw [hact]
    exact (((Plays.of_turn hlooks).trans (.of_turn hlists)).trans hhands).trans (.of_turn hwaits)

theorem plays_sweepSucceeds (h : w.sweepSucceeds = true) :
    Plays f (of w) (of ((w.actSegmentsTask).getD w)) := by
  have hends : (of w).turn f false .segmentsTask =
      some ⟨w.setSweep none, .fetching, .succeeded⟩ := by
    show (of w).sweepTurn = _
    unfold sweepTurn of
    simp only [h, if_true]
  have hopens : turn f false (⟨w.setSweep none, .fetching, .succeeded⟩ : Staged β) .segmentsTask =
      some (of (w.setSweep none).openSegments) := rfl
  have hact : w.actSegmentsTask = some (w.setSweep none).openSegments := by
    unfold World.sweepSucceeds at h
    unfold World.actSegmentsTask
    cases hp : w.polling with
    | none => simp [hp] at h
    | some p =>
      simp only [hp, Option.bind_some] at h ⊢
      split at h
      · rename_i tickets hb
        simp only [Bool.and_eq_true, Bool.not_eq_true'] at h
        obtain ⟨⟨hshut, hsettled⟩, hok⟩ := h
        cases hr : w.sweepResult tickets with
        | error e =>
          rw [hr] at hok
          cases hok
        | ok u =>
          simp only [hshut, Bool.false_eq_true, if_false, hb, hsettled, if_true, hr]
          unfold World.openSegments World.setSweep
          rw [hp]
          rfl
      · cases h
  rw [hact]
  exact (Plays.of_turn hends).trans (.of_turn hopens)

theorem plays_segmentsTask : Plays f (of w) (of ((w.actSegmentsTask).getD w)) := by
  cases hends : w.sweepSucceeds with
  | true => exact plays_sweepSucceeds hends
  | false =>
    cases hbegin : w.beginSweep with
    | some v => exact plays_beginSweep hends hbegin
    | none =>
      have hturn : (of w).turn f false .segmentsTask = w.actSegmentsTask.map of := by
        show (of w).sweepTurn = _
        unfold sweepTurn of
        simp only [hends, hbegin, Bool.false_eq_true, if_false]
      cases ha : w.actSegmentsTask with
      | none => exact .refl
      | some v =>
        rw [ha] at hturn
        exact .of_turn hturn

/-- Whatever a world does in a move, it does in small steps. -/
theorem plays_of_move {m : Virtual.Move} (hm : m.Unawaited) :
    Plays f (of w) (of (w.move f m)) := by
  have hother : ∀ (woken : Bool) (a : Actor),
      (of w).turn f woken a = (w.act f woken a).map of → Plays f (of w)
        (of ((w.act f woken a).getD w)) := by
    intro woken a hturn
    cases ha : w.act f woken a with
    | none => exact .refl
    | some v =>
      rw [ha] at hturn
      exact .of_turn hturn
  cases m with
  | turn woken a =>
    cases a with
    | flagsTask => exact plays_flagsTask woken
    | segmentsTask => exact plays_segmentsTask
    | _ => exact hother woken _ rfl
  | wait ms => exact ⟨[.wait ms], rfl⟩
  | notify n => exact ⟨[.notify n], rfl⟩
  | target t => exact ⟨[.target t], rfl⟩
  | job j =>
    obtain ⟨name, till, ticket⟩ := j
    obtain rfl : ticket = none := hm
    exact ⟨[.job name till], rfl⟩

/-- **Plays of a world are plays in small steps.** -/
theorem plays_play : ∀ (ms : List Virtual.Move) (w : World Empty β), (∀ m ∈ ms, m.Unawaited) →
    Plays f (of w) (of (w.play f ms))
  | [], _, _ => .refl
  | m :: ms, w, h => by
    have hrest : ∀ m ∈ ms, m.Unawaited := fun m hm => h m (List.mem_cons_of_mem _ hm)
    exact (plays_of_move (h m List.mem_cons_self)).trans (plays_play ms (w.move f m) hrest)

end Staged

end Halyard.Virtual

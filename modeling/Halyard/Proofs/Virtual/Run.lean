/-
# Runs of a world

The clock gives the tasks their turns in a fixed order. What is to hold whatever
the order is shown of plays, in which any task may take a turn at any time,
time may pass in between, and notifications, targets and jobs may come in. The
runs of the clock are plays (`World.settle_plays`, `World.advanceTo_plays`).

A turn of a task that has a seat drops the work in the seat, begins some, goes
on with it or ends it (`World.turn_of_act`); of the other tasks only the push
manager writes to the core, by dispatching notifications. So an invariant of
the core that dispatching and turns preserve holds after every play
(`World.play_induction`).

Key definitions: `Turn`, `Move`, `World.play`, `World.Plays`.
Key theorems: `World.turn_of_act`, `World.act_induction`,
`World.play_induction`, `World.advanceTo_plays`.
-/
import Halyard.Proofs.Virtual.Turns

namespace Halyard.Virtual

open Push

variable {β : Type}

/-- The fetch of a segment that is under way. -/
def Work.segmentCall? {ρ : Type} : Work ρ → Option (SegmentCall ρ)
  | .segment c => some c
  | .pursueSegment p => p.call
  | _ => none

/-- Whether work is about a segment, so that it never touches the rules. -/
def Work.OnSegment {ρ : Type} : Work ρ → Prop
  | .rules _ | .pursueRules _ => False
  | _ => True

/-- The seat of a task. -/
def Actor.seat? : Actor → Option Seat
  | .front => some .front
  | .worker i => some (.worker i)
  | .flagsTask => some .poll
  | .ruleWorker => some .rules
  | _ => none

/-- The core after work in a seat ended. Segments that a poll or the worker for rules found
are registered. -/
def Core.credit {ρ : Type} (c : Core ρ) : Seat → Except SyncError Names → Core ρ
  | .poll, .ok names | .rules, .ok names =>
    { c with registry := (c.registry.register names.toList).1 }
  | _, _ => c

@[simp] theorem Core.work_credit {ρ : Type} (c : Core ρ) (s : Seat) (r : Except SyncError Names) :
    (c.credit s r).work = c.work := by
  cases s <;> cases r <;> rfl

@[simp] theorem Core.stores_credit {ρ : Type} (c : Core ρ) (s : Seat)
    (r : Except SyncError Names) : (c.credit s r).stores = c.stores := by
  cases s <;> cases r <;> rfl

@[simp] theorem Core.shutdown_credit {ρ : Type} (c : Core ρ) (s : Seat)
    (r : Except SyncError Names) : (c.credit s r).shutdown = c.shutdown := by
  cases s <;> cases r <;> rfl

namespace World

/-- What a turn may make of the core. -/
inductive Turn (f : Interject Empty β) (w : World Empty β) (s : Seat) : Core Empty → Prop
  | drops : ((∀ i, s ≠ .worker i) → w.shutdown = true) → Turn f w s (w.core.seat s none)
  | begins {work : Work Empty} : s ≠ .front → w.core.work s = none →
      (∀ c, work.segmentCall? = some c → c.pending = none) →
      (∀ i, s = .worker i → work.OnSegment) → Turn f w s (w.core.seat s (some work))
  | goesOn {work work' : Work Empty} {w₁ : World Empty β} : w.core.work s = some work →
      w.stepWork f work = some (w₁, .inl work') → Turn f w s (w₁.core.seat s (some work'))
  | ends {work : Work Empty} {w₁ : World Empty β} {r : Except SyncError Names} :
      w.core.work s = some work → w.stepWork f work = some (w₁, .inr r) →
      Turn f w s ((w₁.core.seat s none).credit s r)

variable {f : Interject Empty β} {w w' : World Empty β}

/-! ### Tasks with a seat -/

theorem turn_actFront (h : w.actFront f = some w') : Turn f w .front w'.core := by
  cases frontTurn_of_actFront h with
  | goesOn hw hs =>
    rw [core_front]
    exact .goesOn hw hs
  | @ends work w₁ r hw hs =>
    have hc : { w₁ with front := none, frontResult := some r }.core = w₁.core.seat .front none :=
      core_front none
    rw [hc]
    exact .ends (s := .front) hw hs

theorem onSegment_moveSegment (p : SegmentPursuit Empty) (m : Pursuit.Move) :
    (w.moveSegment p m).OnSegment ∧ (w.moveSegment p m).segmentCall? = none := by
  cases m <;> exact ⟨trivial, rfl⟩

/-- A job is about a segment, and no request is made at its beginning. -/
theorem startJob_onSegment (job : SegmentJob) :
    (w.startJob job).OnSegment ∧
      ∀ c, (w.startJob job).segmentCall? = some c → c.pending = none := by
  unfold startJob
  cases job.till with
  | none =>
    refine ⟨trivial, fun c hc => ?_⟩
    cases hc
    rfl
  | some till =>
    obtain ⟨hon, hcall⟩ := onSegment_moveSegment (w := w)
      ⟨job.name, till, .atPhase w.onDemand false, none, w.now⟩
      (Pursuit.start w.onDemand (till ≤ w.replica.stores.segments.watermark job.name))
    refine ⟨hon, fun c hc => ?_⟩
    rw [show (w.pursueSegment job.name till).segmentCall? = none from hcall] at hc
    cases hc

theorem core_setWorker_resolve {i : Nat} {work : Work Empty} {job : SegmentJob}
    {r : Except SyncError Unit} {x : Worker Empty} (h : w.core.work (.worker i) = some work) :
    ((w.resolve job r).setWorker i x).core = w.core.seat (.worker i) x.work? := by
  have hc : (w.resolve job r).core = w.core := core_resolve job r
  have hw : (w.resolve job r).core.work (.worker i) = some work := by
    rw [hc]
    exact h
  rw [core_setWorker (lt_of_work hw), hc]

theorem work_worker {i : Nat} {x : Worker Empty} (h : w.workers[i]? = some x) :
    w.core.work (.worker i) = x.work? := by
  show w.workers[i]?.bind Worker.work? = x.work?
  rw [h]
  rfl

theorem turn_actWorker {woken : Bool} {i : Nat} (h : w.actWorker f woken i = some w') :
    Turn f w (.worker i) w'.core := by
  have hdrop : Turn f w (.worker i) (w.core.seat (.worker i) none) :=
    .drops fun hn => absurd rfl (hn i)
  cases poolTurn_of_actWorker h with
  | leaves hi | aborts hi =>
    rw [core_setWorker (List.getElem?_eq_some_iff.mp hi).1]
    exact hdrop
  | @takes job rest hi =>
    obtain ⟨hon, hcall⟩ := startJob_onSegment (w := w) job
    have hlt : i < { w with jobs := rest }.workers.length := (List.getElem?_eq_some_iff.mp hi).1
    rw [core_setWorker hlt]
    exact .begins (by simp) (work_worker hi) hcall fun _ _ => hon
  | cancels hi =>
    rw [core_setWorker_resolve (work_worker hi)]
    exact hdrop
  | goesOn hi _ _ hs =>
    have hw₁ := (congrArg (fun c => c.work (.worker i)) (core_stepWork hs)).trans (work_worker hi)
    rw [core_setWorker (lt_of_work hw₁)]
    exact .goesOn (work_worker hi) hs
  | ends hi _ _ hs =>
    have hw₁ := (congrArg (fun c => c.work (.worker i)) (core_stepWork hs)).trans (work_worker hi)
    rw [core_setWorker_resolve hw₁]
    exact .ends (s := .worker i) (work_worker hi) hs

theorem core_afterFlagsPoll (p : Polling Empty) (r : Except SyncError Names) :
    (w.afterFlagsPoll p r).core = (w.core.seat .poll none).credit .poll r := by
  cases r with
  | error e => exact core_polling _
  | ok names =>
    unfold afterFlagsPoll
    cases hm : (w.track names).mark .flags with
    | mk w₁ opened =>
      have hc : w₁.core =
          { w.core with registry := (w.core.registry.register names.toList).1 } := by
        have hmark := core_mark (w := w.track names) .flags
        rw [hm, core_track] at hmark
        exact hmark
      simp only [hm]
      rw [core_polling, hc]
      cases opened <;> rfl

theorem work_poll {p : Polling Empty} (h : w.polling = some p) :
    w.core.work .poll = p.flags.body := by
  show (w.polling.bind fun p => p.flags.body) = p.flags.body
  rw [h]
  rfl

theorem turn_actFlagsTask {woken : Bool} (h : w.actFlagsTask f woken = some w') :
    Turn f w .poll w'.core := by
  cases flagsTurn_of_actFlagsTask h with
  | stops hp hshutdown =>
    rw [core_polling, core_release]
    exact .drops fun _ => (Bool.and_eq_true_iff.mp hshutdown).2
  | begins hp _ hbody =>
    rw [core_polling]
    exact .begins (by simp) ((work_poll hp).trans hbody) (fun c hc => by cases hc)
      fun i hi => by cases hi
  | goesOn hp _ hbody hs =>
    rw [core_polling]
    exact .goesOn ((work_poll hp).trans hbody) hs
  | ends hp _ hbody hs =>
    rw [core_afterFlagsPoll]
    exact .ends (s := .poll) ((work_poll hp).trans hbody) hs

theorem segmentCall?_moveRules (p : RulePursuit Empty) (m : Pursuit.Move) :
    ∀ c, (w.moveRules p m).2.segmentCall? = some c → c.pending = none := by
  intro c hc
  cases m with
  | stop r => cases r <;> cases hc
  | _ => cases hc

theorem turn_actRuleWorker {woken : Bool} (h : w.actRuleWorker f woken = some w') :
    Turn f w .rules w'.core := by
  have hwork : ∀ {x}, w.ruleWorker = x → w.core.work .rules = x.work? := congrArg RuleWorker.work?
  cases ruleWorkerTurn_of_actRuleWorker h with
  | leaves _ hshutdown =>
    rw [core_ruleWorker]
    exact .drops fun _ => hshutdown
  | takes hidle =>
    rw [core_ruleWorker (w := { w with targets := [] })]
    exact .begins (by simp) (hwork hidle) (segmentCall?_moveRules _ _) fun i hi => by cases hi
  | drops hbusy hshutdown =>
    rw [core_ruleWorker, core_release]
    exact .drops fun _ => (Bool.and_eq_true_iff.mp hshutdown).2
  | goesOn hbusy _ hs =>
    rw [core_ruleWorker]
    exact .goesOn (hwork hbusy) hs
  | finds hbusy _ hs =>
    rw [core_track, core_ruleWorker]
    exact .ends (s := .rules) (hwork hbusy) hs
  | fails hbusy _ hs =>
    rw [core_ruleWorker]
    exact .ends (s := .rules) (hwork hbusy) hs

/-- A turn of a task that has a seat. -/
theorem turn_of_act {woken : Bool} {a : Actor} {s : Seat} (hs : a.seat? = some s)
    (h : w.act f woken a = some w') : Turn f w s w'.core := by
  cases a with
  | front =>
    cases hs
    exact turn_actFront h
  | worker i =>
    cases hs
    exact turn_actWorker h
  | flagsTask =>
    cases hs
    exact turn_actFlagsTask h
  | ruleWorker =>
    cases hs
    exact turn_actRuleWorker h
  | _ => cases hs

/-! ### Tasks without a seat -/

theorem core_polling_of_body {w₁ : World Empty β} {p p' : Polling Empty} (hc : w₁.core = w.core)
    (hp : w.polling = some p) (hb : p'.flags.body = p.flags.body) :
    { w₁ with polling := some p' }.core = w.core := by
  rw [core_polling, hc, hb, ← work_poll hp]
  exact seat_self _ _

/-- Following push changes when the polling tasks run, not what they are busy with. -/
theorem actFollower_cases (h : w.actFollower = some w') :
    ∃ p q, w.polling = some p ∧ w' = { w with polling := some q } ∧
      q.flags.body = p.flags.body ∧ q.segments.body = p.segments.body := by
  cases followerTurn_of_actFollower h with
  | notes hp | follows hp => exact ⟨_, _, hp, rfl, rfl, rfl⟩

theorem core_actFollower (h : w.actFollower = some w') : w'.core = w.core := by
  obtain ⟨p, q, hp, rfl, hb, -⟩ := actFollower_cases h
  exact core_polling_of_body rfl hp hb

theorem core_actSegmentsTask (h : w.actSegmentsTask = some w') : w'.core = w.core := by
  cases sweepTurn_of_actSegmentsTask h with
  | stops hp => exact core_polling_of_body rfl hp rfl
  | begins hp => exact core_polling_of_body core_enqueueSweep hp rfl
  | ends complete hp =>
    have hmark : (if complete then (w.mark .segments).1 else w).core = w.core := by
      cases complete <;> rfl
    exact core_polling_of_body hmark hp rfl

/-- A connection changes the link to it; beside that it counts what was lost on the way. -/
theorem actConnection_cases (h : w.actConnection = some w') :
    ∃ p l, w.push = some p ∧ (w' = { w with push := some { p with link := l } } ∨
      ∃ n, w' = { w with push := some { p with link := l } }.countLost n) := by
  unfold actConnection at h
  obtain ⟨p, hp, h'⟩ := Option.bind_eq_some_iff.mp h
  obtain ⟨l, -, h''⟩ := Option.bind_eq_some_iff.mp h'
  obtain ⟨c, -, hc⟩ := Option.bind_eq_some_iff.mp h''
  clear h h' h''
  by_cases htold : l.told = true
  · rw [if_pos htold] at hc
    cases hc
    exact ⟨p, _, hp, .inl rfl⟩
  by_cases hwake : w.now < c.wake
  · simp only [if_neg htold, if_pos hwake] at hc
    cases hc
  simp only [if_neg htold, if_neg hwake] at hc
  cases he : c.events with
  | nil =>
    simp only [he] at hc
    obtain ⟨o, -, ho⟩ := Option.bind_eq_some_iff.mp hc
    cases ho
    exact ⟨p, _, hp, .inl rfl⟩
  | cons e rest =>
    simp only [he] at hc
    by_cases hread : (!c.wasRead) = true
    · rw [if_pos hread] at hc
      cases hc
      cases e.2 with
      | connected => exact ⟨p, _, hp, .inl rfl⟩
      | notification n => exact ⟨p, _, hp, .inr ⟨n, rfl⟩⟩
    by_cases hroom : p.buffer ≤ l.queued.length
    · simp only [if_neg hread, if_pos hroom] at hc
      cases hc
    · simp only [if_neg hread, if_neg hroom] at hc
      cases hc
      exact ⟨p, _, hp, .inl rfl⟩

theorem core_actConnection (h : w.actConnection = some w') : w'.core = w.core := by
  obtain ⟨p, l, -, rfl | ⟨n, rfl⟩⟩ := actConnection_cases h
  · rfl
  · exact core_countLost n

/-! ### The push manager -/

/-- What the effects of the push manager keep, a turn of it keeps. -/
theorem actManager_induction {P : World Empty β → Prop}
    (hpush : ∀ (w : World Empty β) q, P w → P { w with push := q })
    (hperform : ∀ (w : World Empty β) e, P w → P (w.perform e)) (h : w.actManager = some w')
    (hw : P w) : P w' := by
  unfold actManager at h
  obtain ⟨p, -, h'⟩ := Option.bind_eq_some_iff.mp h
  obtain ⟨⟨p', i⟩, -, hi⟩ := Option.bind_eq_some_iff.mp h'
  cases hi
  refine hpush _ _ (List.foldlRecOn (motive := P) _ _ (hpush _ _ hw) ?_)
  exact fun v hv e _ => hperform v e hv

section

variable {P : Core Empty → Prop}

/-- Of the effects of the push manager, dispatching writes to the core. -/
theorem perform_preserves (hP : ∀ (w : World Empty β) n, P w.core → P (w.dispatch n).core)
    (e : Manager.Effect) (hw : P w.core) : P (w.perform e).core := by
  cases e with
  | publish s =>
    rw [perform, core_publish]
    exact hw
  | count m label => exact hw
  | dispatch n => exact hP w n hw
  | sleep ms => exact hw
  | disconnect => exact hw
  | authenticate =>
    unfold perform
    simp only
    split <;> exact hw
  | connect t =>
    unfold perform
    simp only
    split <;> exact hw

theorem actManager_preserves (hP : ∀ (w : World Empty β) n, P w.core → P (w.dispatch n).core)
    (h : w.actManager = some w') (hw : P w.core) : P w'.core :=
  actManager_induction (P := fun v : World Empty β => P v.core) (fun _ _ hv => hv)
    (fun _ e => perform_preserves hP e) h hw

/-- What holds of the core after a turn of a task, if dispatching keeps it and turns of tasks
that have a seat do. -/
theorem act_induction (hP : ∀ (w : World Empty β) n, P w.core → P (w.dispatch n).core)
    {woken : Bool} {a : Actor}
    (hturn : ∀ s c, a.seat? = some s → Turn f w s c → P w.core → P c)
    (h : w.act f woken a = some w') (hw : P w.core) : P w'.core := by
  cases hs : a.seat? with
  | some s => exact hturn s _ hs (turn_of_act hs h) hw
  | none =>
    cases a with
    | segmentsTask =>
      rw [core_actSegmentsTask h]
      exact hw
    | follower =>
      rw [core_actFollower h]
      exact hw
    | manager => exact actManager_preserves hP h hw
    | connection =>
      rw [core_actConnection h]
      exact hw
    | _ => cases hs

end

end World

/-! ### Plays -/

/-- What may happen to a world: a task takes a turn, time passes, a notification comes in,
or a target or a job is handed over. -/
inductive Move where
  | turn (woken : Bool) (a : Actor)
  | wait (ms : Nat)
  | notify (n : Notification)
  | target (t : FetchTarget)
  | job (j : SegmentJob)

namespace World

variable {f : Interject Empty β} {w w₁ w₂ w₃ : World Empty β}

/-- The world after a move. A task that waits lets its turn pass. -/
def move (f : Interject Empty β) (w : World Empty β) : Move → World Empty β
  | .turn woken a => (w.act f woken a).getD w
  | .wait ms => { w with now := w.now + ms }
  | .notify n => w.dispatch n
  | .target t => (w.enqueueRules t).1
  | .job j => (w.enqueueSegment j).1

/-- The world after some moves. -/
def play (f : Interject Empty β) (w : World Empty β) (ms : List Move) : World Empty β :=
  ms.foldl (move f) w

/-- **What dispatching and turns keep holds after every play.** -/
theorem play_induction {P : Core Empty → Prop}
    (hP : ∀ (w : World Empty β) n, P w.core → P (w.dispatch n).core)
    (hturn : ∀ (w : World Empty β) s c, Turn f w s c → P w.core → P c) :
    ∀ (ms : List Move) {w : World Empty β}, P w.core → P (w.play f ms).core
  | [], _, hw => hw
  | m :: ms, w, hw => by
    refine play_induction hP hturn ms (w := w.move f m) ?_
    cases m with
    | turn woken a =>
      rw [move]
      cases ha : w.act f woken a with
      | none => exact hw
      | some w' => exact act_induction hP (fun s c _ => hturn w s c) ha hw
    | wait ms => exact hw
    | notify n => exact hP w n hw
    | target t =>
      rw [move, core_enqueueRules]
      exact hw
    | job j =>
      rw [move, core_enqueueSegment]
      exact hw

theorem play_append (ms ms' : List Move) : w.play f (ms ++ ms') = (w.play f ms).play f ms' :=
  List.foldl_append

/-! ### Runs of the clock are plays -/

/-- Whether some moves lead from one world to the other. -/
def Plays (f : Interject Empty β) (w w' : World Empty β) : Prop :=
  ∃ ms, w.play f ms = w'

theorem Plays.refl : Plays f w w := ⟨[], rfl⟩

theorem Plays.trans (h : Plays f w₁ w₂) (h' : Plays f w₂ w₃) : Plays f w₁ w₃ := by
  obtain ⟨ms, rfl⟩ := h
  obtain ⟨ms', rfl⟩ := h'
  exact ⟨ms ++ ms', play_append ms ms'⟩

theorem le_of_nextTime {others : List Nat} {t : Nat} (h : w.nextTime others = some t) :
    w.now ≤ t := by
  have hmem := List.min?_mem h
  have hlt := (List.mem_filter.mp hmem).2
  exact Nat.le_of_lt (by simpa using hlt)

theorem runActor_plays (a : Actor) : ∀ (n : Nat) (woken : Bool) (w : World Empty β),
    Plays f w (w.runActor f a n woken).1
  | 0, _, _ => .refl
  | n + 1, woken, w => by
    unfold runActor
    cases ha : w.act f woken a with
    | none => exact .refl
    | some w' =>
      have hw : Plays f w w' := by
        refine ⟨[.turn woken a], ?_⟩
        show (w.act f woken a).getD w = w'
        rw [ha]
        rfl
      exact hw.trans (runActor_plays a n false w')

theorem round_plays (w : World Empty β) : Plays f w (w.round f).1 := by
  refine List.foldlRecOn (motive := fun x : World Empty β × Bool => Plays f w x.1)
    _ _ .refl ?_
  intro x hx a _
  exact hx.trans (runActor_plays a maxRounds true x.1)

theorem settle_plays : ∀ (n : Nat) (w : World Empty β), Plays f w (w.settle f n)
  | 0, _ => .refl
  | n + 1, w => by
    have hr := round_plays (f := f) w
    unfold settle
    cases h : w.round f with
    | mk w' moved =>
      rw [h] at hr
      cases moved with
      | true => exact hr.trans (settle_plays n w')
      | false => exact hr

/-- To wait is a play. -/
theorem plays_until {t : Nat} (h : w.now ≤ t) : Plays f w { w with now := t } := by
  refine ⟨[.wait (t - w.now)], ?_⟩
  simp only [play, List.foldl_cons, List.foldl_nil, move, Nat.add_sub_cancel' h]

/-- **Letting time pass is a play.** -/
theorem advanceTo_plays (target : Nat) : ∀ (n : Nat) (w : World Empty β),
    Plays f w (w.advanceTo f target n)
  | 0, _ => .refl
  | n + 1, w => by
    have hs := settle_plays (f := f) maxRounds w
    unfold advanceTo
    simp only
    cases ht : (w.settle f maxRounds).nextTime [target] with
    | none => exact hs
    | some t =>
      by_cases hle : t ≤ target
      · simp only [if_pos hle]
        exact (hs.trans (plays_until (le_of_nextTime ht))).trans (advanceTo_plays target n _)
      · simp only [if_neg hle]
        exact hs

end World

end Halyard.Virtual

/-
# What a turn can be

A task takes its turn in one of a few ways: it begins something, goes on with its work, is
done with it, or gives up because it is told to. For each task this is said once here, with
what has to be so for it (`World.poolTurn_of_actWorker` and its like), so that what turns
keep is shown by one case for each way, and no proof has to look into a task again.

Work writes to the stores, the registry and the logs, in a few ways that are listed once
(`World.Indifferent`). All the rest of a world, its backdrop, it leaves as it is
(`World.backdrop_stepWork`); so a task that goes on with its work finds everything about
itself as it left it. What the tasks write to is listed beside it (`World.Unmoved`): what
does not depend on that, a turn of a task keeps (`World.Unmoved.act`).

Key definitions: `World.Indifferent`, `World.backdrop`, `World.FrontTurn`,
`World.PoolTurn`, `World.RuleWorkerTurn`, `World.FlagsTurn`, `World.SweepTurn`,
`World.FollowerTurn`, `World.Unmoved`.
Key theorems: `World.Indifferent.stepWork`, `World.backdrop_stepWork`,
`World.poolTurn_of_actWorker`, `World.ruleWorkerTurn_of_actRuleWorker`,
`World.flagsTurn_of_actFlagsTask`, `World.sweepTurn_of_actSegmentsTask`,
`World.followerTurn_of_actFollower`, `World.Unmoved.act`.
-/
import Halyard.Proofs.Virtual.Core

namespace Halyard.Virtual

open Push

variable {β : Type}

namespace World

variable {f : Interject Empty β} {w w' : World Empty β} {woken : Bool} {i : Nat}

/-! ### Work -/

/-- Whether a property of worlds is left as it is by everything that work writes to. -/
structure Indifferent (P : World Empty β → Prop) : Prop where
  setStores : ∀ {w : World Empty β} (s : Stores), P w → P (w.setStores s)
  ruleScript : ∀ {w : World Empty β} (log : List RuleRequest) (replies : List (RuleReply Empty)),
    P w → P { w with ruleLog := log, ruleReplies := replies }
  segmentScript : ∀ {w : World Empty β} (log : List SegmentRequest)
    (replies : Dict (List (SegmentReply Empty))),
    P w → P { w with segmentLog := log, segmentReplies := replies }
  ticket : ∀ {w : World Empty β} (n : Nat) (queue : List Nat),
    P w → P { w with nextTicket := n, ruleQueue := queue }
  recordKeys : ∀ {w : World Empty β} (n : Nat),
    P w → P { w with telemetry := w.telemetry.recordKeys n }
  count : ∀ {w : World Empty β} {m : Metric} (label : Option (String × String)),
    m ≠ .tokenRefreshes → P w → P (w.count m label)

namespace Indifferent

variable {P : World Empty β → Prop}

theorem requestRules (hP : Indifferent P) (options : FetchOptions) (hw : P w) :
    P (w.requestRules options).1 := by
  unfold World.requestRules
  simp only
  split <;> exact hP.ruleScript _ _ hw

theorem requestSegment (hP : Indifferent P) (name : String) (options : FetchOptions) (hw : P w) :
    P (w.requestSegment name options).1 := by
  unfold World.requestSegment
  simp only
  split <;> exact hP.segmentScript _ _ hw

theorem startRules (hP : Indifferent P) (options : FetchOptions) (hw : P w) :
    P (w.startRules options).1 :=
  hP.ticket (w := w) _ _ hw

theorem release (hP : Indifferent P) (ticket : Option Nat) (hw : P w) : P (w.release ticket) := by
  cases ticket with
  | none => exact hw
  | some t => exact hP.ticket _ _ hw

theorem recordFetch (hP : Indifferent P) {α : Type} (resource : String) (r : Except SyncError α)
    (hw : P w) : P (w.recordFetch resource r) := by
  cases r <;> exact hP.count _ Metric.noConfusion hw

theorem stepRules (hP : Indifferent P) {c : RuleCall Empty}
    {x : RuleCall Empty ⊕ Except SyncError Names} (h : w.stepRules f c = some (w', x))
    (hw : P w) : P w' := by
  unfold World.stepRules at h
  cases hp : c.pending with
  | none =>
    simp only [hp] at h
    split at h
    · cases h
      exact hP.requestRules _ hw
    · cases h
  | some a =>
    simp only [hp, interjectAll_empty] at h
    split at h
    · cases h
    split at h
    · cases h
      exact hP.setStores _ hw
    · cases h
      exact hP.recordFetch _ _ (hP.release _ (hP.setStores _ hw))

theorem stepSegment (hP : Indifferent P) {c : SegmentCall Empty}
    {x : SegmentCall Empty ⊕ Except SyncError Unit} (h : w.stepSegment f c = some (w', x))
    (hw : P w) : P w' := by
  unfold World.stepSegment at h
  cases hp : c.pending with
  | none =>
    simp only [hp] at h
    cases h
    exact hP.requestSegment _ _ hw
  | some a =>
    simp only [hp, interjectAll_empty] at h
    split at h
    · cases h
    cases hr : c.fetch.receive c.name w.replica.stores.segments a.answer with
    | mk s rest =>
      obtain ⟨keys, reception⟩ := rest
      have hwritten := hP.setStores { w.replica.stores with segments := s } hw
      have hcounted : P ((keys.map fun n =>
          { w.setStores { w.replica.stores with segments := s } with
            telemetry := w.telemetry.recordKeys n }).getD
          (w.setStores { w.replica.stores with segments := s })) := by
        cases keys with
        | none => exact hwritten
        | some n => exact hP.recordKeys n hwritten
      simp only [hr] at h
      rcases reception with fetch | r
      · cases h
        exact hcounted
      · cases h
        exact hP.recordFetch _ _ hcounted

theorem stepRulePursuit (hP : Indifferent P) {p : RulePursuit Empty} {work : Work Empty}
    (h : w.stepRulePursuit f p = some (w', work)) (hw : P w) : P w' := by
  unfold World.stepRulePursuit at h
  cases hp : p.call with
  | none =>
    simp only [hp] at h
    split at h
    · cases h
    · cases h
      exact hP.startRules _ hw
  | some c =>
    simp only [hp] at h
    cases hs : w.stepRules f c with
    | none => simp [hs] at h
    | some y =>
      obtain ⟨w₁, c' | r⟩ := y
      · simp only [hs] at h
        cases h
        exact hP.stepRules hs hw
      · simp only [hs, Option.some.injEq] at h
        have hw' : w₁ = w' := (moveRules_fst _ _).symm.trans (congrArg Prod.fst h)
        exact hw' ▸ hP.stepRules hs hw

theorem stepSegmentPursuit (hP : Indifferent P) {p : SegmentPursuit Empty} {work : Work Empty}
    (h : w.stepSegmentPursuit f p = some (w', work)) (hw : P w) : P w' := by
  unfold World.stepSegmentPursuit at h
  cases hp : p.call with
  | none =>
    simp only [hp] at h
    split at h
    · cases h
    · cases h
      exact hw
  | some c =>
    simp only [hp] at h
    cases hs : w.stepSegment f c with
    | none => simp [hs] at h
    | some y =>
      obtain ⟨w₁, c' | r⟩ := y <;> simp only [hs] at h <;> cases h <;>
        exact hP.stepSegment hs hw

/-- **What everything leaves as it is that work writes to, work leaves as it is.** -/
theorem stepWork (hP : Indifferent P) {work : Work Empty}
    {x : Work Empty ⊕ Except SyncError Names} (h : w.stepWork f work = some (w', x))
    (hw : P w) : P w' := by
  cases workStep_of_stepWork h with
  | settled => exact hw
  | rules hs | rulesOver hs => exact hP.stepRules hs hw
  | segment hs | segmentOver hs => exact hP.stepSegment hs hw
  | pursueRules hp => exact hP.stepRulePursuit hp hw
  | pursueSegment hp => exact hP.stepSegmentPursuit hp hw

end Indifferent

/-- The world without all that work is done on: the stores, the registry, the gates, the script
of replies, the logs of requests, the counts, and the queue for the rule stores. -/
def backdrop (w : World Empty β) : World Empty β :=
  { w with
    replica := .initial
    telemetry := .empty
    ruleReplies := []
    segmentReplies := Dict.empty
    ruleLog := []
    segmentLog := []
    nextTicket := 0
    ruleQueue := [] }

/-- **Work changes nothing but what it is done on.** -/
theorem backdrop_stepWork {work : Work Empty} {x : Work Empty ⊕ Except SyncError Names}
    (h : w.stepWork f work = some (w', x)) : w'.backdrop = w.backdrop := by
  have hP : Indifferent fun v : World Empty β => v.backdrop = w.backdrop :=
    ⟨fun _ hv => hv, fun _ _ hv => hv, fun _ _ hv => hv, fun _ _ hv => hv, fun _ hv => hv,
      fun _ _ hv => hv⟩
  exact hP.stepWork h rfl

/-- Work goes on with polling as it was. -/
theorem polling_stepWork {work : Work Empty} {x : Work Empty ⊕ Except SyncError Names}
    (h : w.stepWork f work = some (w', x)) : w'.polling = w.polling := by
  have hp := congrArg polling (backdrop_stepWork h)
  exact hp

/-! ### The front and the segment pool -/

/-- What a turn of the front can be. -/
inductive FrontTurn (f : Interject Empty β) (w : World Empty β) : World Empty β → Prop
  | goesOn {work work' : Work Empty} {w₁ : World Empty β} : w.front = some work →
      w.stepWork f work = some (w₁, .inl work') → FrontTurn f w { w₁ with front := some work' }
  | ends {work : Work Empty} {w₁ : World Empty β} {r : Except SyncError Names} :
      w.front = some work → w.stepWork f work = some (w₁, .inr r) →
      FrontTurn f w { w₁ with front := none, frontResult := some r }

theorem frontTurn_of_actFront (h : w.actFront f = some w') : FrontTurn f w w' := by
  unfold actFront at h
  split at h
  · cases h
  · rename_i work hwork
    rw [Option.map_eq_some_iff] at h
    obtain ⟨⟨w₁, work' | r⟩, hs, rfl⟩ := h
    · exact .goesOn hwork hs
    · exact .ends hwork hs

/-- What a turn of a worker of the pool can be. -/
inductive PoolTurn (f : Interject Empty β) (w : World Empty β) (woken : Bool) (i : Nat) :
    World Empty β → Prop
  | leaves : w.workers[i]? = some .idle → (w.shutdown || (woken && w.aborted)) = true →
      PoolTurn f w woken i (w.setWorker i .gone)
  | takes {job : SegmentJob} {rest : List SegmentJob} : w.workers[i]? = some .idle →
      (w.shutdown || (woken && w.aborted)) = false → w.jobs = job :: rest →
      PoolTurn f w woken i ({ w with jobs := rest }.setWorker i (.busy job (w.startJob job)))
  | aborts {job : SegmentJob} {work : Work Empty} : w.workers[i]? = some (.busy job work) →
      (woken && w.aborted) = true → PoolTurn f w woken i (w.setWorker i .gone)
  | cancels {job : SegmentJob} {work : Work Empty} : w.workers[i]? = some (.busy job work) →
      (woken && w.aborted) = false → (woken && w.shutdown) = true →
      PoolTurn f w woken i ((w.resolve job (.error .cancelled)).setWorker i .gone)
  | goesOn {job : SegmentJob} {work work' : Work Empty} {w₁ : World Empty β} :
      w.workers[i]? = some (.busy job work) → (woken && w.aborted) = false →
      (woken && w.shutdown) = false → w.stepWork f work = some (w₁, .inl work') →
      PoolTurn f w woken i (w₁.setWorker i (.busy job work'))
  | ends {job : SegmentJob} {work : Work Empty} {w₁ : World Empty β}
      {r : Except SyncError Names} : w.workers[i]? = some (.busy job work) →
      (woken && w.aborted) = false → (woken && w.shutdown) = false →
      w.stepWork f work = some (w₁, .inr r) →
      PoolTurn f w woken i ((w₁.resolve job (r.map fun _ => ())).setWorker i .idle)

theorem poolTurn_of_actWorker (h : w.actWorker f woken i = some w') : PoolTurn f w woken i w' := by
  unfold actWorker at h
  split at h
  · rename_i hidle
    split at h
    · rename_i hleaves
      cases h
      exact .leaves hidle hleaves
    · rename_i hstays
      split at h
      · cases h
      · rename_i job rest hjobs
        cases h
        exact .takes hidle (eq_false_of_ne_true hstays) hjobs
  · rename_i job work hbusy
    split at h
    · rename_i habort
      cases h
      exact .aborts hbusy habort
    · rename_i habort
      have habort := eq_false_of_ne_true habort
      split at h
      · rename_i hshutdown
        cases h
        exact .cancels hbusy habort hshutdown
      · rename_i hshutdown
        have hshutdown := eq_false_of_ne_true hshutdown
        rw [Option.map_eq_some_iff] at h
        obtain ⟨⟨w₁, work' | r⟩, hs, rfl⟩ := h
        · exact .goesOn hbusy habort hshutdown hs
        · exact .ends hbusy habort hshutdown hs
  · cases h

/-! ### The worker for rules -/

/-- What a turn of the worker for rules can be. -/
inductive RuleWorkerTurn (f : Interject Empty β) (w : World Empty β) (woken : Bool) :
    World Empty β → Prop
  | leaves : w.ruleWorker = .idle → w.shutdown = true →
      RuleWorkerTurn f w woken { w with ruleWorker := .gone }
  | takes {t : FetchTarget} {rest : List FetchTarget} : w.ruleWorker = .idle →
      w.shutdown = false → w.targets = t :: rest →
      RuleWorkerTurn f w woken { w with
        targets := []
        ruleWorker := .busy
          ({ w with targets := [] }.pursueRules (rest.foldl FetchTarget.merge t)).2 }
  | drops {work : Work Empty} : w.ruleWorker = .busy work → (woken && w.shutdown) = true →
      RuleWorkerTurn f w woken { w.release work.ticket? with ruleWorker := .gone }
  | goesOn {work work' : Work Empty} {w₁ : World Empty β} : w.ruleWorker = .busy work →
      (woken && w.shutdown) = false → w.stepWork f work = some (w₁, .inl work') →
      RuleWorkerTurn f w woken { w₁ with ruleWorker := .busy work' }
  | finds {work : Work Empty} {w₁ : World Empty β} {names : Names} :
      w.ruleWorker = .busy work → (woken && w.shutdown) = false →
      w.stepWork f work = some (w₁, .inr (.ok names)) →
      RuleWorkerTurn f w woken ({ w₁ with ruleWorker := .idle }.track names)
  | fails {work : Work Empty} {w₁ : World Empty β} {e : SyncError} :
      w.ruleWorker = .busy work → (woken && w.shutdown) = false →
      w.stepWork f work = some (w₁, .inr (.error e)) →
      RuleWorkerTurn f w woken { w₁ with ruleWorker := .idle }

/-- To begin a pursuit changes nothing yet. -/
theorem busy_pursueRules (t : FetchTarget) :
    { (w.pursueRules t).1 with ruleWorker := .busy (w.pursueRules t).2 } =
      { w with ruleWorker := .busy (w.pursueRules t).2 } := by
  have hfst : (w.pursueRules t).1 = w := moveRules_fst _ _
  rw [hfst]

theorem ruleWorkerTurn_of_actRuleWorker (h : w.actRuleWorker f woken = some w') :
    RuleWorkerTurn f w woken w' := by
  unfold actRuleWorker at h
  split at h
  · rename_i hidle
    split at h
    · rename_i hshutdown
      cases h
      exact .leaves hidle hshutdown
    · rename_i hshutdown
      split at h
      · cases h
      · rename_i t rest htargets
        have hw' := (Option.some.inj h).symm.trans
          (busy_pursueRules (w := { w with targets := [] }) (rest.foldl FetchTarget.merge t))
        rw [hw']
        exact .takes hidle (eq_false_of_ne_true hshutdown) htargets
  · rename_i work hbusy
    split at h
    · rename_i hshutdown
      cases h
      exact .drops hbusy hshutdown
    · rename_i hshutdown
      have hshutdown := eq_false_of_ne_true hshutdown
      rw [Option.map_eq_some_iff] at h
      obtain ⟨⟨w₁, work' | (e | names)⟩, hs, rfl⟩ := h
      · exact .goesOn hbusy hshutdown hs
      · exact .fails hbusy hshutdown hs
      · exact .finds hbusy hshutdown hs
  · cases h

/-! ### Polling -/

/-- What a turn of polling flags can be. -/
inductive FlagsTurn (f : Interject Empty β) (w : World Empty β) (woken : Bool) :
    World Empty β → Prop
  | stops {p : Polling Empty} : w.polling = some p → (woken && w.shutdown) = true →
      FlagsTurn f w woken { w.release (p.flags.body.bind Work.ticket?) with
        polling := some { p with flags := ⟨p.flags.task.stop, none⟩ } }
  | begins {p : Polling Empty} {task : Periodic} : w.polling = some p →
      (woken && w.shutdown) = false → p.flags.body = none →
      p.flags.task.poll w.now = some task →
      FlagsTurn f w woken { (w.startRules .poll).1 with
        polling := some { p with flags := ⟨task, some (.rules (w.startRules .poll).2)⟩ } }
  | goesOn {p : Polling Empty} {work work' : Work Empty} {w₁ : World Empty β} :
      w.polling = some p → (woken && w.shutdown) = false → p.flags.body = some work →
      w.stepWork f work = some (w₁, .inl work') →
      FlagsTurn f w woken { w₁ with
        polling := some { p with flags := ⟨p.flags.task, some work'⟩ } }
  | ends {p : Polling Empty} {work : Work Empty} {w₁ : World Empty β}
      {r : Except SyncError Names} : w.polling = some p → (woken && w.shutdown) = false →
      p.flags.body = some work → w.stepWork f work = some (w₁, .inr r) →
      FlagsTurn f w woken (w₁.afterFlagsPoll p r)

theorem flagsTurn_of_actFlagsTask (h : w.actFlagsTask f woken = some w') :
    FlagsTurn f w woken w' := by
  unfold actFlagsTask at h
  split at h
  · cases h
  · rename_i p hp
    split at h
    · rename_i hshutdown
      split at h
      · cases h
      · cases h
        exact .stops hp hshutdown
    · rename_i hshutdown
      have hshutdown := eq_false_of_ne_true hshutdown
      split at h
      · rename_i hbody
        rw [Option.map_eq_some_iff] at h
        obtain ⟨task, htask, rfl⟩ := h
        exact .begins hp hshutdown hbody htask
      · rename_i work hbody
        rw [Option.map_eq_some_iff] at h
        obtain ⟨⟨w₁, work' | r⟩, hs, rfl⟩ := h
        -- The polling tasks are as they were, so the task finds itself again.
        · have hw₁ : w₁.polling = some p := (polling_stepWork hs).trans hp
          simp only [hw₁, Option.getD_some]
          exact .goesOn hp hshutdown hbody hs
        · have hw₁ : w₁.polling = some p := (polling_stepWork hs).trans hp
          simp only [hw₁, Option.getD_some]
          exact .ends hp hshutdown hbody hs

/-- What a turn of polling segments can be. -/
inductive SweepTurn (w : World Empty β) : World Empty β → Prop
  | stops {p : Polling Empty} : w.polling = some p → w.shutdown = true →
      SweepTurn w { w with
        polling := some { p with segments := ⟨p.segments.task.stop, none⟩ } }
  | begins {p : Polling Empty} {task : Periodic} : w.polling = some p → w.shutdown = false →
      p.segments.body = none → p.segments.task.poll w.now = some task →
      SweepTurn w { w.enqueueSweep.1 with
        polling := some { p with
          segments := ⟨task, some (w.replica.readiness.flags, w.enqueueSweep.2)⟩ } }
  | ends {p : Polling Empty} {flagsReady : Bool} {tickets : List Nat} (complete : Bool) :
      w.polling = some p → w.shutdown = false →
      p.segments.body = some (flagsReady, tickets) → tickets.all w.ticketSettled = true →
      (complete = true ↔ flagsReady = true ∧ w.sweepResult tickets = .ok ()) →
      SweepTurn w { (if complete then (w.mark .segments).1 else w) with
        polling := some { p with segments := ⟨p.segments.task.finish w.now, none⟩ } }

theorem sweepTurn_of_actSegmentsTask (h : w.actSegmentsTask = some w') : SweepTurn w w' := by
  unfold actSegmentsTask at h
  split at h
  · cases h
  · rename_i p hp
    split at h
    · rename_i hshutdown
      split at h
      · cases h
      · cases h
        exact .stops hp hshutdown
    · rename_i hshutdown
      have hshutdown := eq_false_of_ne_true hshutdown
      split at h
      · rename_i hbody
        rw [Option.map_eq_some_iff] at h
        obtain ⟨task, htask, rfl⟩ := h
        exact .begins hp hshutdown hbody htask
      · rename_i flagsReady tickets hbody
        split at h
        · rename_i hsettled
          rw [← Option.some.inj h]
          cases hr : w.sweepResult tickets with
          | ok u =>
            cases flagsReady with
            | false => exact .ends false hp hshutdown hbody hsettled (by simp)
            | true => exact .ends true hp hshutdown hbody hsettled (by simp [hr])
          | error e => exact .ends false hp hshutdown hbody hsettled (by simp [hr])
        · cases h

/-- What a turn of keeping the cadence in step with push can be. -/
inductive FollowerTurn (w : World Empty β) : World Empty β → Prop
  | notes {p : Polling Empty} : w.polling = some p → w.publisher.current = none →
      FollowerTurn w { w with polling := some { p with followed := some w.transitionCount } }
  | follows {p : Polling Empty} {s : PushStatus} : w.polling = some p →
      w.publisher.current = some s →
      FollowerTurn w { w with
        polling := some (followStatus w.now { p with followed := some w.transitionCount } s) }

theorem followerTurn_of_actFollower (h : w.actFollower = some w') : FollowerTurn w w' := by
  unfold actFollower at h
  split at h
  · cases h
  rename_i p hp
  split at h
  · cases h
  split at h
  · cases h
  split at h
  · rename_i hnone
    cases h
    exact .notes hp hnone
  · rename_i s hs
    cases h
    exact .follows hp hs

/-! ### What turns leave as it is -/

/-- Whether a property of worlds is left as it is by everything that tasks write to, apart from
how polling stands, what is done at the front, and push. Targets are added. -/
structure Unmoved (P : World Empty β → Prop) : Prop extends Indifferent P where
  replica : ∀ {w : World Empty β} (r : Replica), P w → P { w with replica := r }
  workers : ∀ {w : World Empty β} (xs : List (Worker Empty)), P w → P { w with workers := xs }
  jobs : ∀ {w : World Empty β} (js : List SegmentJob), P w → P { w with jobs := js }
  outcomes : ∀ {w : World Empty β} (os : List (Nat × Except SyncError Unit)),
    P w → P { w with outcomes := os }
  ruleWorker : ∀ {w : World Empty β} (x : RuleWorker Empty), P w → P { w with ruleWorker := x }
  target : ∀ {w : World Empty β} (t : FetchTarget),
    P w → P { w with targets := w.targets ++ [t] }

namespace Unmoved

variable {P : World Empty β → Prop}

theorem enqueueRules (hP : Unmoved P) (t : FetchTarget) (hw : P w) : P (w.enqueueRules t).1 := by
  unfold World.enqueueRules
  split
  · exact hP.target t hw
  · exact hw

theorem enqueueSegment (hP : Unmoved P) (job : SegmentJob) (hw : P w) :
    P (w.enqueueSegment job).1 := by
  unfold World.enqueueSegment
  split
  · exact hP.jobs _ hw
  · exact hw

theorem enqueue (hP : Unmoved P) (jobs : List FetchJob) (hw : P w) : P (w.enqueue jobs) := by
  refine List.foldlRecOn (motive := P) _ _ hw ?_
  intro v hv job _
  cases job with
  | rules t => exact hP.enqueueRules t hv
  | segment name till => exact hP.enqueueSegment _ hv

theorem track (hP : Unmoved P) (names : Names) (hw : P w) : P (w.track names) :=
  hP.enqueue _ (hP.replica _ hw)

theorem dispatch (hP : Unmoved P) (n : Notification) (hw : P w) : P (w.dispatch n) :=
  hP.enqueue _ (hP.replica _ hw)

theorem countLost (hP : Unmoved P) (n : Notification) (hw : P w) : P (w.countLost n) := by
  unfold World.countLost
  split
  · exact hP.count _ Metric.noConfusion hw
  · exact hw

theorem resolve (hP : Unmoved P) (job : SegmentJob) (r : Except SyncError Unit) (hw : P w) :
    P (w.resolve job r) := by
  unfold World.resolve
  split
  · exact hP.outcomes _ hw
  · exact hw

theorem enqueueSweep (hP : Unmoved P) (hw : P w) : P w.enqueueSweep.1 := by
  refine List.foldlRecOn (motive := fun x : World Empty β × List Nat => P x.1) _ _ hw ?_
  intro x hx name _
  have hticket : P x.1.takeTicket.2 := hP.ticket (w := x.1) _ _ hx
  exact hP.enqueueSegment _ hticket

theorem actWorker (hP : Unmoved P) (h : w.actWorker f woken i = some w') (hw : P w) : P w' := by
  cases poolTurn_of_actWorker h with
  | leaves | aborts => exact hP.workers _ hw
  | takes => exact hP.workers _ (hP.jobs _ hw)
  | cancels => exact hP.workers _ (hP.resolve _ _ hw)
  | goesOn _ _ _ hs => exact hP.workers _ (hP.stepWork hs hw)
  | ends _ _ _ hs => exact hP.workers _ (hP.resolve _ _ (hP.stepWork hs hw))

theorem actRuleWorker (hP : Unmoved P)
    (hdrain : ∀ {w : World Empty β}, P w → P { w with targets := [] })
    (h : w.actRuleWorker f woken = some w') (hw : P w) : P w' := by
  cases ruleWorkerTurn_of_actRuleWorker h with
  | leaves => exact hP.ruleWorker _ hw
  | takes => exact hP.ruleWorker _ (hdrain hw)
  | drops => exact hP.ruleWorker _ (hP.release _ hw)
  | goesOn _ _ hs | fails _ _ hs => exact hP.ruleWorker _ (hP.stepWork hs hw)
  | finds _ _ hs => exact hP.track _ (hP.ruleWorker _ (hP.stepWork hs hw))

/-- A turn of a polling task keeps it if it does not matter how polling stands. -/
theorem actFlagsTask (hP : Unmoved P)
    (hpolling : ∀ {w : World Empty β} p, P w → P { w with polling := p })
    (h : w.actFlagsTask f woken = some w') (hw : P w) : P w' := by
  cases flagsTurn_of_actFlagsTask h with
  | stops => exact hpolling _ (hP.release _ hw)
  | begins => exact hpolling _ (hP.startRules _ hw)
  | goesOn _ _ _ hs => exact hpolling _ (hP.stepWork hs hw)
  | @ends p work w₁ r _ _ _ hs =>
    have hw₁ := hP.stepWork hs hw
    cases r with
    | error e => exact hpolling _ hw₁
    | ok names => exact hpolling _ (hP.replica _ (hP.track names hw₁))

theorem actSegmentsTask (hP : Unmoved P)
    (hpolling : ∀ {w : World Empty β} p, P w → P { w with polling := p })
    (h : w.actSegmentsTask = some w') (hw : P w) : P w' := by
  cases sweepTurn_of_actSegmentsTask h with
  | stops => exact hpolling _ hw
  | begins => exact hpolling _ (hP.enqueueSweep hw)
  | ends complete =>
    cases complete with
    | false => exact hpolling _ hw
    | true => exact hpolling _ (hP.replica _ hw)

/-- **A turn of a task beside the front and push leaves it as it is**, if how polling stands does
not matter, nor for the worker for rules which targets wait. -/
theorem act (hP : Unmoved P) {a : Actor}
    (hdrain : a = .ruleWorker → ∀ {w : World Empty β}, P w → P { w with targets := [] })
    (hpolling : ∀ {w : World Empty β} p, P w → P { w with polling := p })
    (ha : a ≠ .front ∧ a ≠ .manager ∧ a ≠ .connection) (h : w.act f woken a = some w')
    (hw : P w) : P w' := by
  obtain ⟨hfront, hmanager, hconnection⟩ := ha
  cases a with
  | worker i => exact hP.actWorker h hw
  | segmentsTask => exact hP.actSegmentsTask hpolling h hw
  | flagsTask => exact hP.actFlagsTask hpolling h hw
  | ruleWorker => exact hP.actRuleWorker (hdrain rfl) h hw
  | follower => cases followerTurn_of_actFollower h with | notes | follows => exact hpolling _ hw
  | front => exact absurd rfl hfront
  | manager => exact absurd rfl hmanager
  | connection => exact absurd rfl hconnection

end Unmoved

end World

end Halyard.Virtual

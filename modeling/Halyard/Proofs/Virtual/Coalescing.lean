/-
# Targets that wait together

The worker for rules takes all targets that wait out of the queue at once, merges them and
pursues the one target that comes of it. Targets are handed over at any time, so which of them
are taken together is up to the run.

Only that worker takes targets out of the queue; whatever else happens, what waits is only
added to (`World.move_of_not_takes`). So no target is lost: from any moment of a run on, the
groups that are taken begin with what waits at that moment, in its order, unless it still
waits (`World.targets_prefix_groups`). And the worker never pursues anything but what the
group that it took last was merged to (`World.pursued?_play`), which the stores reached
exactly if they reached each target in the group. It pursues nothing exactly if they already
did, or if its settings leave it no attempts (`World.pursued?_of_takes`).

Key definitions: `Work.target?`, `World.pursued?`, `World.takes`, `World.groups`.
Key theorems: `World.move_of_takes`, `World.move_of_not_takes`, `World.pursued?_of_takes`,
`World.targets_prefix_groups`, `World.pursued?_play`, `World.coalescing_loses_none`.
-/
import Halyard.Proofs.Fetch.Targets
import Halyard.Proofs.Virtual.Surroundings

namespace Halyard

/-- A pursuit has nothing to do exactly if its target is reached or neither phase has an attempt;
else it begins with a fetch. -/
theorem Pursuit.start_cases (settings : OnDemandSettings) (reached : Bool) :
    ((reached = true ∨ ∀ bypassing, phaseAttempts settings bypassing = 0) ∧
      start settings reached = .stop (.ok ())) ∨
    (¬ (reached = true ∨ ∀ bypassing, phaseAttempts settings bypassing = 0) ∧
      ∃ p, start settings reached = .fetch p) := by
  cases reached with
  | true => exact .inl ⟨.inl rfl, rfl⟩
  | false =>
    have hstart : start settings false = enter settings false := rfl
    rw [hstart, enter]
    by_cases hplain : 0 < phaseAttempts settings false
    · rw [if_pos hplain]
      refine .inr ⟨?_, _, rfl⟩
      rintro (hreached | hnone)
      · cases hreached
      · exact absurd (hnone false) (Nat.ne_of_gt hplain)
    rw [if_neg hplain]
    by_cases hbypass : 0 < phaseAttempts settings true
    · rw [if_pos (by simpa using hbypass)]
      refine .inr ⟨?_, _, rfl⟩
      rintro (hreached | hnone)
      · cases hreached
      · exact absurd (hnone true) (Nat.ne_of_gt hbypass)
    · rw [if_neg (by simpa using hbypass)]
      refine .inl ⟨.inr ?_, rfl⟩
      rintro (_ | _)
      · exact Nat.eq_zero_of_not_pos hplain
      · exact Nat.eq_zero_of_not_pos hbypass

namespace Virtual

open Push FetchTarget

variable {β : Type}

/-- The target that work pursues. -/
def Work.target? {ρ : Type} : Work ρ → Option FetchTarget
  | .pursueRules p => some p.target
  | _ => none

/-- The target that is pursued in the seat of the worker for rules. -/
def Core.pursued? (c : Core Empty) : Option FetchTarget :=
  (c.work .rules).bind Work.target?

namespace World

/-- The target that the worker for rules pursues. -/
def pursued? (w : World Empty β) : Option FetchTarget :=
  w.core.pursued?

/-- Whether a move takes the targets that wait out of the queue: the worker for rules rests, and
gets its turn while something waits and the world is not told to stop. -/
def takes (w : World Empty β) : Move → Bool
  | .turn _ .ruleWorker =>
    match w.ruleWorker with
    | .idle => !w.shutdown && !w.targets.isEmpty
    | _ => false
  | _ => false

/-- The groups of targets that some moves take out of the queue, each with all that waits then. -/
def groups (f : Interject Empty β) (w : World Empty β) : List Move → List (List FetchTarget)
  | [] => []
  | m :: ms => (if w.takes m then [w.targets] else []) ++ groups f (w.move f m) ms

variable {f : Interject Empty β} {w w' : World Empty β}

/-! ### Who touches the queue -/

/-- Tasks write to the queue by adding to it. -/
theorem unmoved_targets (ts : List FetchTarget) :
    Unmoved fun v : World Empty β => ts <+: v.targets :=
  ⟨⟨fun _ hv => hv, fun _ _ hv => hv, fun _ _ hv => hv, fun _ _ hv => hv, fun _ hv => hv,
    fun _ _ hv => hv⟩, fun _ hv => hv, fun _ hv => hv, fun _ hv => hv, fun _ hv => hv,
    fun _ hv => hv, fun _ hv => hv.trans (List.prefix_append _ _)⟩

theorem targets_prefix_enqueueRules (t : FetchTarget) :
    w.targets <+: (w.enqueueRules t).1.targets :=
  (unmoved_targets w.targets).enqueueRules t List.prefix_rfl

theorem targets_prefix_enqueueSegment (job : SegmentJob) :
    w.targets <+: (w.enqueueSegment job).1.targets :=
  (unmoved_targets w.targets).enqueueSegment job List.prefix_rfl

theorem targets_prefix_dispatch (n : Notification) : w.targets <+: (w.dispatch n).targets :=
  (unmoved_targets w.targets).dispatch n List.prefix_rfl

theorem targets_prefix_perform (e : Manager.Effect) : w.targets <+: (w.perform e).targets := by
  cases e with
  | publish s =>
    show w.targets <+: (w.publish s).targets
    unfold publish
    split <;> exact List.prefix_rfl
  | dispatch n => exact targets_prefix_dispatch n
  | authenticate =>
    unfold perform
    simp only
    split <;> exact List.prefix_rfl
  | connect t =>
    unfold perform
    simp only
    split <;> exact List.prefix_rfl
  | _ => exact List.prefix_rfl

/-- **The tasks beside the worker for rules only add to the queue.** -/
theorem targets_prefix_act {woken : Bool} {a : Actor} (ha : a ≠ .ruleWorker)
    (h : w.act f woken a = some w') : w.targets <+: w'.targets := by
  have hP := unmoved_targets (β := β) w.targets
  by_cases hfront : a = .front
  · subst hfront
    cases frontTurn_of_actFront h with
    | goesOn _ hs | ends _ hs =>
      have hw₁ := hP.stepWork hs List.prefix_rfl
      exact hw₁
  by_cases hmanager : a = .manager
  · subst hmanager
    exact actManager_induction (P := fun v => w.targets <+: v.targets) (fun _ _ hv => hv)
      (fun v e hv => hv.trans (targets_prefix_perform e)) h List.prefix_rfl
  by_cases hconnection : a = .connection
  · subst hconnection
    obtain ⟨p, l, -, rfl | ⟨n, rfl⟩⟩ := actConnection_cases h
    · exact List.prefix_rfl
    · exact hP.countLost n List.prefix_rfl
  exact hP.act (fun hrules => absurd hrules ha) (fun _ hv => hv) ⟨hfront, hmanager, hconnection⟩ h
    List.prefix_rfl

/-! ### The worker for rules -/

theorem actRuleWorker_of_idle {woken : Bool} (hidle : w.ruleWorker = .idle)
    (h : w.actRuleWorker f woken = some w') :
    (w.shutdown = true ∧ w'.targets = w.targets ∧ w'.ruleWorker = .gone) ∨
    (w.shutdown = false ∧ w.targets ≠ [] ∧ w'.targets = [] ∧
      w'.ruleWorker = .busy ({ w with targets := [] }.pursueRules (mergeAll w.targets)).2) := by
  cases ruleWorkerTurn_of_actRuleWorker h with
  | leaves _ hshutdown => exact .inl ⟨hshutdown, rfl, rfl⟩
  | @takes t rest _ hrun htargets =>
    rw [htargets, mergeAll_cons]
    exact .inr ⟨hrun, List.cons_ne_nil t rest, rfl, rfl⟩
  | drops hbusy | goesOn hbusy | finds hbusy | fails hbusy => cases hidle.symm.trans hbusy

theorem targets_prefix_actRuleWorker_of_busy {woken : Bool} {work : Work Empty}
    (hbusy : w.ruleWorker = .busy work) (h : w.actRuleWorker f woken = some w') :
    w.targets <+: w'.targets := by
  have hP := unmoved_targets (β := β) w.targets
  cases ruleWorkerTurn_of_actRuleWorker h with
  | leaves hidle | takes hidle => cases hidle.symm.trans hbusy
  | drops => exact hP.ruleWorker _ (hP.release _ List.prefix_rfl)
  | goesOn _ _ hs | fails _ _ hs => exact hP.ruleWorker _ (hP.stepWork hs List.prefix_rfl)
  | finds _ _ hs => exact hP.track _ (hP.ruleWorker _ (hP.stepWork hs List.prefix_rfl))

/-- The target that a pursuit goes on with after a move of it, unless it is over. -/
theorem target?_moveRules (p : RulePursuit Empty) (m : Pursuit.Move) :
    (w.moveRules p m).2.target? = match m with
      | .stop _ => none
      | _ => some p.target := by
  cases m with
  | stop r => cases r <;> rfl
  | _ => rfl

theorem target?_moveSegment (p : SegmentPursuit Empty) (m : Pursuit.Move) :
    (w.moveSegment p m).target? = none := by
  cases m <;> rfl

theorem target?_stepWork {work work' : Work Empty} {t : FetchTarget}
    (h : w.stepWork f work = some (w', .inl work')) (ht : work'.target? = some t) :
    work.target? = some t := by
  cases workStep_of_stepWork h with
  | rules | segment => cases ht
  | pursueRules hp =>
    rcases stepRulePursuit_cases hp with ⟨-, -, c, -, rfl⟩ | ⟨c, c', -, -, rfl⟩ | ⟨c, r, -, -, rfl⟩
    · exact ht
    · exact ht
    · rw [target?_moveRules] at ht
      split at ht
      · cases ht
      · cases r <;> exact ht
  | pursueSegment hp =>
    rcases stepSegmentPursuit_cases hp with ⟨-, -, c, -, rfl⟩ | ⟨c, c', -, -, rfl⟩ | ⟨c, r, -, -, rfl⟩
    · cases ht
    · cases ht
    · rw [target?_moveSegment] at ht
      cases ht

theorem pursued?_of_ruleWorker {x : RuleWorker Empty} (h : w.ruleWorker = x) :
    w.pursued? = x.work?.bind Work.target? :=
  congrArg (fun x : RuleWorker Empty => x.work?.bind Work.target?) h

theorem pursued?_turn_of_ne {c : Core Empty} {i : Seat} (h : Turn f w i c) (hi : i ≠ .rules) :
    c.pursued? = w.pursued? := by
  have hseat : ∀ (d : Core Empty) work, d.work = w.core.work →
      (d.seat i work).work .rules = w.core.work .rules := by
    intro d work hd
    rw [Core.work_seat_ne _ _ (Ne.symm hi), hd]
  have hwork : c.work .rules = w.core.work .rules := by
    cases h with
    | drops => exact hseat _ _ rfl
    | begins => exact hseat _ _ rfl
    | goesOn _ hs => exact hseat _ _ (frame_stepWork hs).2.2
    | ends _ hs =>
      rw [Core.work_credit]
      exact hseat _ _ (frame_stepWork hs).2.2
  exact congrArg (fun x : Option (Work Empty) => x.bind Work.target?) hwork

/-- The worker for rules goes on with what it pursues, unless it rests. -/
theorem pursued?_turn_of_busy {c : Core Empty} {work : Work Empty} {t : FetchTarget}
    (h : Turn f w .rules c) (hw : w.core.work .rules = some work) (ht : c.pursued? = some t) :
    w.pursued? = some t := by
  have hseat : ∀ (d : Core Empty) x, (d.seat .rules x).pursued? = x.bind Work.target? := by
    intro d x
    rw [Core.pursued?, Core.work_seat_self]
  cases h with
  | drops => cases (hseat _ _).symm.trans ht
  | begins _ hnone => cases hw.symm.trans hnone
  | goesOn hw' hs =>
    have ht' := target?_stepWork hs ((hseat _ _).symm.trans ht)
    rw [pursued?, Core.pursued?, hw']
    exact ht'
  | ends _ hs =>
    rw [Core.pursued?, Core.work_credit] at ht
    cases (hseat _ _).symm.trans ht

theorem pursued?_act {woken : Bool} {a : Actor} (ha : a ≠ .ruleWorker)
    (h : w.act f woken a = some w') : w'.pursued? = w.pursued? := by
  refine act_induction (P := fun c => c.pursued? = w.pursued?) ?_ ?_ h rfl
  · intro v n hv
    rw [core_dispatch]
    exact hv
  · rintro i c hi hturn -
    refine pursued?_turn_of_ne hturn ?_
    rintro rfl
    cases a <;> cases hi
    exact ha rfl

/-! ### Moves -/

theorem takes_iff {m : Move} :
    w.takes m = true ↔ (∃ woken, m = .turn woken .ruleWorker) ∧ w.ruleWorker = .idle ∧
      w.shutdown = false ∧ w.targets ≠ [] := by
  cases m with
  | turn woken a =>
    cases a with
    | ruleWorker => cases hr : w.ruleWorker <;> simp [takes, hr]
    | _ => simp [takes]
  | _ => simp [takes]

/-- A move that takes what waits leaves nothing waiting, and the worker for rules begins to pursue
what it was merged to. -/
theorem move_of_takes {m : Move} (h : w.takes m = true) :
    (w.move f m).targets = [] ∧ (w.move f m).ruleWorker =
      .busy ({ w with targets := [] }.pursueRules (mergeAll w.targets)).2 := by
  obtain ⟨⟨woken, rfl⟩, hidle, hrun, hwaits⟩ := takes_iff.mp h
  have hsome : (w.actRuleWorker f woken).isSome = true := by
    unfold actRuleWorker
    rw [hidle, hrun]
    obtain ⟨t, rest, htargets⟩ := List.exists_cons_of_ne_nil hwaits
    simp only [htargets]
    rfl
  obtain ⟨v, hv⟩ := Option.isSome_iff_exists.mp hsome
  have hmove : w.move f (.turn woken .ruleWorker) = v := by
    show (w.actRuleWorker f woken).getD w = v
    rw [hv]
    rfl
  rw [hmove]
  rcases actRuleWorker_of_idle hidle hv with ⟨hshutdown, -⟩ | ⟨-, -, htargets, hworker⟩
  · cases hrun.symm.trans hshutdown
  · exact ⟨htargets, hworker⟩

/-- A move that takes nothing only adds to what waits, and nothing new is pursued. -/
theorem move_of_not_takes {m : Move} (h : w.takes m = false) :
    w.targets <+: (w.move f m).targets ∧
      ∀ t, (w.move f m).pursued? = some t → w.pursued? = some t := by
  cases m with
  | wait ms => exact ⟨List.prefix_rfl, fun _ ht => ht⟩
  | notify n =>
    refine ⟨targets_prefix_dispatch n, fun t ht => ?_⟩
    rw [pursued?, move, core_dispatch] at ht
    exact ht
  | target t =>
    refine ⟨targets_prefix_enqueueRules t, fun t' ht => ?_⟩
    rw [pursued?, move, core_enqueueRules] at ht
    exact ht
  | job j =>
    refine ⟨targets_prefix_enqueueSegment _, fun t ht => ?_⟩
    rw [pursued?, move, core_enqueueSegment] at ht
    exact ht
  | turn woken a =>
    rw [move]
    cases ha : w.act f woken a with
    | none => exact ⟨List.prefix_rfl, fun _ ht => ht⟩
    | some v =>
      rw [Option.getD_some]
      by_cases hworker : a = .ruleWorker
      · subst hworker
        have hturn := turn_actRuleWorker ha
        cases hr : w.ruleWorker with
        | absent | gone =>
          have hnone : w.actRuleWorker f woken = none := by
            unfold actRuleWorker
            rw [hr]
          cases hnone.symm.trans ha
        | idle =>
          rcases actRuleWorker_of_idle hr ha with ⟨-, htargets, hgone⟩ | ⟨hrun, hwaits, -⟩
          · refine ⟨htargets ▸ List.prefix_rfl, fun t ht => ?_⟩
            rw [pursued?_of_ruleWorker hgone] at ht
            cases ht
          · rw [takes_iff.mpr ⟨⟨woken, rfl⟩, hr, hrun, hwaits⟩] at h
            cases h
        | busy work =>
          refine ⟨targets_prefix_actRuleWorker_of_busy hr ha, fun t ht => ?_⟩
          exact pursued?_turn_of_busy hturn (congrArg RuleWorker.work? hr) ht
      · exact ⟨targets_prefix_act hworker ha, fun t ht => (pursued?_act hworker ha).symm.trans ht⟩

/-- **What is pursued is what the group was merged to**, unless it is reached already or there are
no attempts to reach it. -/
theorem pursued?_of_takes {m : Move} (h : w.takes m = true) :
    (w.move f m).pursued? =
      if (mergeAll w.targets).reached w.replica.stores = true ∨
          ∀ bypassing, Pursuit.phaseAttempts w.onDemand bypassing = 0 then none
      else some (mergeAll w.targets) := by
  rw [pursued?_of_ruleWorker (move_of_takes h).2]
  show ({ w with targets := [] }.pursueRules (mergeAll w.targets)).2.target? = _
  rw [pursueRules, target?_moveRules]
  rcases Pursuit.start_cases w.onDemand ((mergeAll w.targets).reached w.replica.stores) with
    ⟨hover, hstart⟩ | ⟨hopen, p, hstart⟩
  · rw [if_pos hover]
    simp only [hstart]
  · rw [if_neg hopen]
    simp only [hstart]

/-! ### Runs -/

/-- **No target is lost.** The groups that are taken from now on begin with what waits now, in
its order, unless it still waits at the end. -/
theorem targets_prefix_groups : ∀ (ms : List Move) (w : World Empty β),
    w.targets <+: (w.groups f ms).flatten ++ (w.play f ms).targets
  | [], _ => List.prefix_rfl
  | m :: ms, w => by
    have hrest := targets_prefix_groups ms (w.move f m)
    rw [groups, play, List.foldl_cons]
    cases h : w.takes m with
    | false => exact (move_of_not_takes h).1.trans hrest
    | true =>
      rw [if_pos rfl, List.singleton_append, List.flatten_cons, List.append_assoc]
      exact List.prefix_append _ _

/-- **What is pursued is what the group taken last was merged to**, or what was pursued when none
had been taken yet. -/
theorem pursued?_play {t : FetchTarget} : ∀ (ms : List Move) (w : World Empty β),
    (w.play f ms).pursued? = some t →
    (w.groups f ms = [] ∧ w.pursued? = some t) ∨
      ∃ g, (w.groups f ms).getLast? = some g ∧ t = mergeAll g
  | [], _, ht => .inl ⟨rfl, ht⟩
  | m :: ms, w, ht => by
    have hrest := pursued?_play ms (w.move f m) ht
    rw [groups]
    rcases hrest with ⟨hnone, hpursued⟩ | ⟨g, hg, rfl⟩
    · rw [hnone, List.append_nil]
      cases h : w.takes m with
      | false => exact .inl ⟨rfl, (move_of_not_takes h).2 t hpursued⟩
      | true =>
        refine .inr ⟨w.targets, rfl, ?_⟩
        rw [pursued?_of_takes h] at hpursued
        split at hpursued
        · cases hpursued
        · exact (Option.some.inj hpursued).symm
    · refine .inr ⟨g, ?_, rfl⟩
      rw [List.getLast?_append, hg, Option.some_or]

/-- **Coalescing targets loses none.** Merging is associative, commutative and idempotent, with the
empty target as identity. However targets are ordered and grouped, the stores reached what they are
merged to exactly if they reached each of them; and reached, which is when an update is skipped,
means that both stores are at or past it. So whatever the run: what waits is in the groups that are
taken, in its order, or waits still; the worker for rules pursues what it took, merged, unless the
stores are at or past all of it or its settings leave it no attempts; and the stores reached what
it pursues exactly if they are at or past each target in the group that it took last. -/
theorem coalescing_loses_none (f : Interject Empty β) (w : World Empty β) (ms : List Move) :
    (∀ a b c : FetchTarget, (a.merge b).merge c = a.merge (b.merge c)) ∧
    (∀ a b : FetchTarget, a.merge b = b.merge a) ∧
    (∀ a : FetchTarget, a.merge a = a ∧ FetchTarget.empty.merge a = a ∧
      a.merge FetchTarget.empty = a) ∧
    (∀ (s : Stores) (ts us : List FetchTarget), us.Perm ts →
      ((mergeAll us).reached s = true ↔ ∀ t ∈ ts, t.reached s = true)) ∧
    (∀ (ts : List FetchTarget) (gs : List (List FetchTarget)), gs.flatten.Perm ts →
      mergeAll (gs.map mergeAll) = mergeAll ts ∧ ∀ s : Stores,
        (∀ g ∈ gs, (mergeAll g).reached s = true) ↔ ∀ t ∈ ts, t.reached s = true) ∧
    (∀ (t : FetchTarget) (s : Stores), t.reached s = true ↔ t.ReachedBy s) ∧
    (∀ (r : Replica) (t : FetchTarget), r.fetchFor t = [] ↔ t.ReachedBy r.stores) ∧
    w.targets <+: (w.groups f ms).flatten ++ (w.play f ms).targets ∧
    (∀ m, w.takes m = true → (w.move f m).pursued? =
      if (∀ t ∈ w.targets, t.ReachedBy w.replica.stores) ∨
          ∀ bypassing, Pursuit.phaseAttempts w.onDemand bypassing = 0 then none
      else some (mergeAll w.targets)) ∧
    ∀ t, (w.play f ms).pursued? = some t →
      (w.groups f ms = [] ∧ w.pursued? = some t) ∨
        ∃ g, (w.groups f ms).getLast? = some g ∧ t = mergeAll g ∧
          ∀ s : Stores, t.reached s = true ↔ ∀ u ∈ g, u.ReachedBy s := by
  have hreached : ∀ (g : List FetchTarget) (s : Stores),
      (mergeAll g).reached s = true ↔ ∀ u ∈ g, u.ReachedBy s := by
    intro g s
    rw [reached_mergeAll]
    exact forall₂_congr fun u _ => reached_iff
  have hperm : ∀ {ts us : List FetchTarget}, us.Perm ts → mergeAll us = mergeAll ts :=
    fun h => mergeAll_congr fun _ => h.mem_iff
  refine ⟨merge_assoc, merge_comm, fun a => ⟨merge_self a, empty_merge a, merge_empty a⟩,
    fun s ts us h => ?_, fun ts gs h => ⟨?_, fun s => ?_⟩, fun t s => reached_iff, fun r t => ?_,
    targets_prefix_groups ms w, fun m h => ?_, fun t ht => ?_⟩
  · rw [hperm h, reached_mergeAll]
  · rw [mergeAll_map_mergeAll, hperm h]
  · rw [← reached_mergeAll, ← hperm h, ← mergeAll_map_mergeAll, reached_mergeAll,
      List.forall_mem_map]
  · rw [Replica.fetchFor, ← reached_iff, ite_eq_left_iff]
    simp
  · rw [pursued?_of_takes h]
    simp only [hreached]
  · rcases pursued?_play ms w ht with hbefore | ⟨g, hg, rfl⟩
    · exact .inl hbefore
    · exact .inr ⟨g, hg, rfl, hreached g⟩

/-- A worker for rules that rests, in a world where nothing was fetched. -/
def restingWorker : World Empty Empty :=
  { initial Names.empty .standard with ruleWorker := .idle }

/-- A target that is reached, and two that come while the worker is busy with it. -/
def targetsOneByOne : List Move :=
  [.target (.ofFlags (-1)), .turn false .ruleWorker, .target (.ofFlags 8),
    .target (.ofRuleSegments 3), .turn false .ruleWorker, .turn false .ruleWorker]

/-- The two that wait are pursued as one, which asks for both. -/
theorem late_targets_pursued_together :
    restingWorker.groups nofun targetsOneByOne =
      [[.ofFlags (-1)], [.ofFlags 8, .ofRuleSegments 3]] ∧
    (restingWorker.play nofun targetsOneByOne).pursued? = some ⟨some 8, some 3⟩ ∧
    ∀ s : Stores, FetchTarget.reached ⟨some 8, some 3⟩ s = true ↔
      (FetchTarget.ofFlags 8).ReachedBy s ∧ (FetchTarget.ofRuleSegments 3).ReachedBy s := by
  have hgroups : restingWorker.groups nofun targetsOneByOne =
      [[.ofFlags (-1)], [.ofFlags 8, .ofRuleSegments 3]] := by decide +kernel
  have hpursued : (restingWorker.play nofun targetsOneByOne).pursued? =
      some ⟨some 8, some 3⟩ := by decide +kernel
  obtain ⟨-, -, -, -, -, -, -, -, -, hplay⟩ :=
    coalescing_loses_none nofun restingWorker targetsOneByOne
  rcases hplay _ hpursued with ⟨hnone, -⟩ | ⟨g, hg, -, hreached⟩
  · cases hgroups.symm.trans hnone
  · rw [hgroups] at hg
    obtain rfl := Option.some.inj hg
    refine ⟨hgroups, hpursued, fun s => (hreached s).trans ?_⟩
    simp

end World

end Virtual

end Halyard

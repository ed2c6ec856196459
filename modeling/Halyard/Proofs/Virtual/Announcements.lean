/-
# What becomes of an announced change

A notification announces that a store, or a segment, is to reach a change
number. Taking it in should leave the store there already, or a fetch queued
that has to get there. This fails in one case: the announcement carries a
definition that is older than what is announced, and the definition settles the
matter, because the store is past it or takes it (`World.dispatch_secures_iff`).
The definition's own change number is all that is compared then, and what is
announced beyond it is neither stored nor fetched.

Key definitions: `Announcement`, `Announcement.ReachedBy`,
`Announcement.AskedBy`, `Replica.Overlooks`, `World.Secures`.
Key theorems: `Replica.answered_settle`, `Replica.answered_dispatch`,
`World.queued_enqueue`, `World.dispatch_secures_iff`.
-/
import Halyard.Proofs.Store.Delivery
import Halyard.Proofs.Virtual.Core

namespace Halyard

open Push

/-- What is announced: what has to reach which change number. -/
inductive Announcement where
  | flags (n : ChangeNumber)
  | ruleSegments (n : ChangeNumber)
  | segment (name : String) (n : ChangeNumber)

/-- What a notification announces, if it concerns a store at all. -/
def Push.Notification.announcement? : Notification → Option Announcement
  | .flagUpdate u => some (.flags u.changeNumber)
  | .segmentRuleUpdate u => some (.ruleSegments u.changeNumber)
  | .kill n _ _ => some (.flags n)
  | .segmentUpdate n name => some (.segment name n)
  | _ => none

namespace Announcement

variable {a : Announcement} {t : FetchTarget} {s : Stores}

/-- Whether the stores are where it was announced that they should be. -/
def ReachedBy (s : Stores) : Announcement → Prop
  | .flags n => n ≤ s.flags.watermark
  | .ruleSegments n => n ≤ s.ruleSegments.watermark
  | .segment name n => n ≤ s.segments.watermark name

instance : Decidable (a.ReachedBy s) :=
  match a with
  | .flags n => inferInstanceAs (Decidable (n ≤ s.flags.watermark))
  | .ruleSegments n => inferInstanceAs (Decidable (n ≤ s.ruleSegments.watermark))
  | .segment name n => inferInstanceAs (Decidable (n ≤ s.segments.watermark name))

/-- Whether a fetch has to reach what was announced, or more. -/
def AskedBy : Announcement → FetchJob → Prop
  | .flags n, .rules t => ∃ k, t.flags = some k ∧ n ≤ k
  | .ruleSegments n, .rules t => ∃ k, t.ruleSegments = some k ∧ n ≤ k
  | .segment name n, .segment name' till => name' = name ∧ ∃ k, till = some k ∧ n ≤ k
  | _, _ => False

/-- The target of a fetch of rules that is just enough. -/
def target? : Announcement → Option FetchTarget
  | .flags n => some (.ofFlags n)
  | .ruleSegments n => some (.ofRuleSegments n)
  | .segment _ _ => none

theorem reached_iff (h : a.target? = some t) : t.reached s = true ↔ a.ReachedBy s := by
  cases a <;> cases h <;>
    simp [FetchTarget.reached, FetchTarget.ofFlags, FetchTarget.ofRuleSegments,
      FetchTarget.covered, ReachedBy]

theorem askedBy_target (h : a.target? = some t) : a.AskedBy (.rules t) := by
  cases a <;> cases h <;> exact ⟨_, rfl, Int.le_refl _⟩

theorem not_askedBy_fresh (name : String) : ¬ a.AskedBy (.segment name none) := by
  cases a with
  | segment => simp [AskedBy]
  | _ => exact id

end Announcement

/-! ### Older definitions -/

/-- Whether a store takes an announcement as settled by a definition that is older than what
is announced: the store is past the definition, or it is where the definition was computed,
and takes it. -/
def RuleStore.Overlooks {α : Type} [Rule α] (s : RuleStore α) (complete : α → Bool)
    (u : RuleUpdate α) : Prop :=
  s.watermark < u.changeNumber ∧ ∃ r, u.inlined.toOption = some r ∧
    Rule.changeNumber r < u.changeNumber ∧
    (Rule.changeNumber r ≤ s.watermark ∨
      s.frozen = false ∧ u.previous = some s.watermark ∧ complete r = true)

namespace Replica

variable {filter : Names} {busy : Bool} {r : Replica} {a : Announcement} {t : FetchTarget}

/-- Whether a notification announces more than its definition brings, and nothing is fetched. -/
def Overlooks (busy : Bool) (r : Replica) : Notification → Prop
  | .flagUpdate u =>
    busy = false ∧ r.stores.flags.Overlooks (fun f => !r.stores.lacksRuleSegments f) u
  | .segmentRuleUpdate u => busy = false ∧ r.stores.ruleSegments.Overlooks (fun _ => true) u
  | _ => False

/-- Whether the stores reached what was announced, or a fetch is asked for that has to. -/
def Answered (a : Announcement) (x : Replica × List FetchJob) : Prop :=
  a.ReachedBy x.1.stores ∨ ∃ j ∈ x.2, a.AskedBy j

/-! ### What is settled, and what is fetched -/

theorem answered_fetchFor (h : a.target? = some t) : Answered a (r, r.fetchFor t) := by
  unfold fetchFor
  by_cases hr : t.reached r.stores = true
  · exact .inl ((Announcement.reached_iff h).mp hr)
  · rw [if_neg hr]
    exact .inr ⟨.rules t, List.mem_singleton_self _, Announcement.askedBy_target h⟩

theorem answered_track (names : Names) : Answered a (r.track names) ↔ a.ReachedBy r.stores := by
  have hs : (r.track names).1.stores = r.stores := rfl
  unfold Answered
  rw [hs]
  refine ⟨fun h => h.resolve_right ?_, .inl⟩
  rintro ⟨j, hj, ha⟩
  obtain ⟨name, -, rfl⟩ := List.mem_map.mp hj
  exact Announcement.not_askedBy_fresh name ha

/-- An attempt to apply a definition settles the matter if it was applied or is stale; then the
stores themselves have to be there. -/
theorem answered_settle (h : a.target? = some t) (x : Except SyncError (Stores × PushOutcome)) :
    Answered a (r.settle t x) ↔
      ∀ s o, x = .ok (s, o) → o = .stale ∨ (∃ names, o = .applied names) → a.ReachedBy s := by
  match x with
  | .error e =>
    refine iff_of_true (answered_fetchFor h) fun s o hx => ?_
    cases hx
  | .ok (s, .needsFetch) =>
    refine iff_of_true (answered_fetchFor h) fun s o hx => ?_
    cases hx
    rintro (ho | ⟨names, ho⟩) <;> cases ho
  | .ok (s, .stale) =>
    constructor
    · rintro (hr | ⟨j, hj, -⟩)
      · rintro _ _ hx -
        cases hx
        exact hr
      · cases hj
    · intro hr
      exact .inl (hr s .stale rfl (.inl rfl))
  | .ok (s, .applied names) =>
    rw [settle, answered_track]
    constructor
    · rintro hr _ _ hx -
      cases hx
      exact hr
    · intro hr
      exact hr s _ rfl (.inr ⟨names, rfl⟩)

/-- What offering a definition of a rule to its store settles. `into` puts the store back. -/
theorem answered_applyPushed {α : Type} [Rule α] {n : ChangeNumber} {rules : RuleStore α}
    (into : RuleStore α → Stores) (h : a.target? = some t)
    (hinto : ∀ rules', a.ReachedBy (into rules') ↔ n ≤ rules'.watermark) (g : α)
    (previous : Option ChangeNumber) (keep : α → Bool) :
    Answered a (r.settle t (do
        let x ← rules.applyPushed g previous (keep g)
        pure (into x.1, x.2))) ↔
      n ≤ rules.watermark ∨ ¬ (Rule.changeNumber g < n ∧
        (Rule.changeNumber g ≤ rules.watermark ∨
          rules.frozen = false ∧ previous = some rules.watermark)) := by
  rw [answered_settle h, RuleStore.applyPushed_eq]
  by_cases hc : Rule.changeNumber g ≤ rules.watermark
  · rw [if_pos hc]
    constructor
    · intro hr
      exact .inl ((hinto rules).mp (hr _ _ rfl (.inl rfl)))
    · rintro hn _ _ hx -
      cases hx
      rw [hinto]
      rcases hn with hn | hn
      · exact hn
      · exact Int.le_trans (Int.not_lt.mp fun hlt => hn ⟨hlt, .inl hc⟩) hc
  rw [if_neg hc]
  by_cases hp : previous ≠ some rules.watermark
  · rw [if_pos hp]
    refine iff_of_true ?_ (.inr fun hn => ?_)
    · intro s o hx
      cases hx
      rintro (ho | ⟨names, ho⟩) <;> cases ho
    · exact hn.2.elim hc fun hq => hp hq.2
  rw [if_neg hp]
  by_cases hf : rules.frozen = true
  · rw [if_pos hf]
    refine iff_of_true ?_ (.inr fun hn => ?_)
    · intro s o hx
      cases hx
    · exact hn.2.elim hc fun hq => by rw [hf] at hq; cases hq.1
  rw [if_neg hf]
  -- The definition is applied, and its own change number is where the store is then.
  constructor
  · intro hr
    have hn : n ≤ Rule.changeNumber g := (hinto _).mp (hr _ _ rfl (.inr ⟨_, rfl⟩))
    exact .inr fun hlt => Int.not_le.mpr hlt.1 hn
  · rintro hn _ _ hx -
    cases hx
    rw [hinto]
    rcases hn with hn | hn
    · exact Int.le_trans hn (Int.le_of_lt (Int.not_le.mp hc))
    · exact Int.not_lt.mp fun hlt =>
        hn ⟨hlt, .inr ⟨by simpa using hf, Decidable.not_not.mp hp⟩⟩

/-! ### Notifications -/

theorem answered_needsFetch (h : a.target? = some t) :
    Answered a (r.settle t (.ok (r.stores, .needsFetch))) :=
  answered_fetchFor h

theorem answered_dispatch_flagUpdate (u : RuleUpdate Flag) :
    Answered (.flags u.changeNumber) (r.dispatch filter busy (.flagUpdate u)) ↔
      u.changeNumber ≤ r.stores.flags.watermark ∨ ¬ r.Overlooks busy (.flagUpdate u) := by
  have htarget : (Announcement.flags u.changeNumber).target? = some (.ofFlags u.changeNumber) :=
    rfl
  simp only [dispatch, Overlooks, RuleStore.Overlooks]
  cases hi : u.inlined.toOption with
  | none =>
    refine iff_of_true (answered_needsFetch htarget) (.inr ?_)
    rintro ⟨-, -, _, hf, -⟩
    cases hf
  | some f =>
    simp only [Option.some.injEq, exists_eq_left', Stores.applyPushedFlag]
    by_cases hb : busy = true
    · rw [if_pos hb]
      exact iff_of_true (answered_needsFetch htarget) (.inr fun hn => by simp [hb] at hn)
    rw [if_neg hb]
    by_cases hl : (decide (r.stores.flags.watermark < f.changeNumber) &&
        r.stores.lacksRuleSegments f) = true
    · rw [if_pos hl]
      obtain ⟨hw, hlacks⟩ := Bool.and_eq_true_iff.mp hl
      refine iff_of_true (answered_needsFetch htarget) (.inr ?_)
      rintro ⟨-, -, -, hn | ⟨-, -, hn⟩⟩
      · exact Int.not_le.mpr (of_decide_eq_true hw) hn
      · simp [hlacks] at hn
    rw [if_neg hl]
    refine (answered_applyPushed (fun flags => { r.stores with flags := flags }) htarget
      (fun _ => Iff.rfl) f u.previous (Flag.matchesSets filter)).trans ?_
    have hcomplete : r.stores.flags.watermark < f.changeNumber →
        r.stores.lacksRuleSegments f = false := fun hw => by
      simpa [hw] using hl
    have hnumber : Rule.changeNumber f = f.changeNumber := rfl
    grind

theorem answered_dispatch_segmentRuleUpdate (u : RuleUpdate RuleBasedSegment) :
    Answered (.ruleSegments u.changeNumber) (r.dispatch filter busy (.segmentRuleUpdate u)) ↔
      u.changeNumber ≤ r.stores.ruleSegments.watermark ∨
        ¬ r.Overlooks busy (.segmentRuleUpdate u) := by
  have htarget : (Announcement.ruleSegments u.changeNumber).target? =
      some (.ofRuleSegments u.changeNumber) := rfl
  simp only [dispatch, Overlooks, RuleStore.Overlooks]
  cases hi : u.inlined.toOption with
  | none =>
    refine iff_of_true (answered_needsFetch htarget) (.inr ?_)
    rintro ⟨-, -, _, hf, -⟩
    cases hf
  | some g =>
    simp only [Option.some.injEq, exists_eq_left', Stores.applyPushedSegment]
    by_cases hb : busy = true
    · rw [if_pos hb]
      exact iff_of_true (answered_needsFetch htarget) (.inr fun hn => by simp [hb] at hn)
    rw [if_neg hb]
    refine (answered_applyPushed (fun rules => { r.stores with ruleSegments := rules })
      htarget (fun _ => Iff.rfl) g u.previous fun _ => true).trans ?_
    grind

/-- **A notification leaves its change unanswered only if it overlooks it.** -/
theorem answered_dispatch {n : Notification} (h : n.announcement? = some a) :
    Answered a (r.dispatch filter busy n) ↔ a.ReachedBy r.stores ∨ ¬ r.Overlooks busy n := by
  cases n with
  | flagUpdate u =>
    cases h
    exact answered_dispatch_flagUpdate u
  | segmentRuleUpdate u =>
    cases h
    exact answered_dispatch_segmentRuleUpdate u
  | kill n name treatment =>
    cases h
    exact iff_of_true (answered_fetchFor rfl) (.inr id)
  | segmentUpdate n name =>
    cases h
    refine iff_of_true ?_ (.inr id)
    simp only [dispatch]
    by_cases hn : n ≤ r.stores.segments.watermark name
    · rw [if_pos hn]
      exact .inl hn
    · rw [if_neg hn]
      exact .inr ⟨_, List.mem_singleton_self _, rfl, n, rfl, Int.le_refl n⟩
  | _ => cases h

end Replica

/-! ### The queues -/

namespace Virtual

/-- Whether a world has a fetch queued. -/
def World.Queued {ρ β : Type} (w : World ρ β) : FetchJob → Prop
  | .rules t => t ∈ w.targets
  | .segment name till => ∃ ticket, ⟨name, till, ticket⟩ ∈ w.jobs

namespace World

variable {ρ β : Type} {w : World ρ β} {a : Announcement}

/-- Whether an announced change is there, or a fetch is queued that has to bring it. -/
def Secures (w : World ρ β) (a : Announcement) : Prop :=
  a.ReachedBy w.replica.stores ∨ ∃ j, w.Queued j ∧ a.AskedBy j

/-- A world whose worker for rules and segment pool take what is handed to them. -/
structure Staffed (w : World ρ β) : Prop where
  rules : w.ruleWorkerOpen = true
  segments : w.poolOpen = true

theorem Staffed.enqueueRules (h : w.Staffed) (t : FetchTarget) : (w.enqueueRules t).1.Staffed := by
  simp only [World.enqueueRules, if_pos h.rules]
  exact ⟨h.rules, h.segments⟩

theorem Staffed.enqueueSegment (h : w.Staffed) (job : SegmentJob) :
    (w.enqueueSegment job).1.Staffed := by
  simp only [World.enqueueSegment, if_pos h.segments]
  exact ⟨h.rules, h.segments⟩

theorem queued_enqueueRules (h : w.Staffed) (t : FetchTarget) {j : FetchJob} :
    (w.enqueueRules t).1.Queued j ↔ w.Queued j ∨ j = .rules t := by
  simp only [World.enqueueRules, if_pos h.rules]
  cases j <;> simp [Queued]

theorem queued_enqueueSegment (h : w.Staffed) (name : String) (till : Option ChangeNumber)
    {j : FetchJob} :
    (w.enqueueSegment ⟨name, till, none⟩).1.Queued j ↔ w.Queued j ∨ j = .segment name till := by
  simp only [World.enqueueSegment, if_pos h.segments]
  cases j <;> simp [Queued, exists_or]

/-- Every fetch that is handed over is queued, and none is forgotten. -/
theorem queued_enqueue {j : FetchJob} : ∀ (jobs : List FetchJob) {w : World ρ β}, w.Staffed →
    ((w.enqueue jobs).Queued j ↔ w.Queued j ∨ j ∈ jobs)
  | [], w, _ => by simp [enqueue]
  | .rules t :: jobs, w, h => by
    have hw : w.enqueue (.rules t :: jobs) = (w.enqueueRules t).1.enqueue jobs := rfl
    rw [hw, queued_enqueue jobs (h.enqueueRules t), queued_enqueueRules h, List.mem_cons, or_assoc]
  | .segment name till :: jobs, w, h => by
    have hw : w.enqueue (.segment name till :: jobs) =
        (w.enqueueSegment ⟨name, till, none⟩).1.enqueue jobs := rfl
    rw [hw, queued_enqueue jobs (h.enqueueSegment _), queued_enqueueSegment h, List.mem_cons,
      or_assoc]

theorem queued_dispatch (h : w.Staffed) (n : Notification) {j : FetchJob} :
    (w.dispatch n).Queued j ↔
      w.Queued j ∨ j ∈ (w.replica.dispatch w.filter w.rulesBusy n).2 := by
  have hw : ({ w with replica := (w.replica.dispatch w.filter w.rulesBusy n).1 }).Queued j ↔
      w.Queued j := by
    cases j <;> exact Iff.rfl
  rw [← hw]
  exact queued_enqueue _ ⟨h.rules, h.segments⟩

theorem stores_dispatch (n : Notification) :
    (w.dispatch n).replica.stores = (w.replica.dispatch w.filter w.rulesBusy n).1.stores :=
  congrArg Core.stores (core_dispatch n)

/-- Whether a notification announces more than its definition brings, and the definition
settles it. -/
def Overlooks (w : World ρ β) (n : Notification) : Prop :=
  w.replica.Overlooks w.rulesBusy n

/-- **An announced change is dropped exactly if it is overlooked and nothing asked for it
before.** With the workers alive, after a notification was taken in the store that it concerns
is where it was announced to be, or a fetch that has to get there is queued; unless the
notification carries a definition that is older than what it announces, and the store is past
that definition or takes it. -/
theorem dispatch_secures_iff (hw : w.Staffed) {n : Notification} (h : n.announcement? = some a) :
    (w.dispatch n).Secures a ↔ w.Secures a ∨ ¬ w.Overlooks n := by
  have hdispatch : (w.dispatch n).Secures a ↔
      Replica.Answered a (w.replica.dispatch w.filter w.rulesBusy n) ∨
        ∃ j, w.Queued j ∧ a.AskedBy j := by
    simp only [Secures, Replica.Answered, stores_dispatch, queued_dispatch hw, or_and_right,
      exists_or]
    rw [or_assoc, or_congr_right or_comm]
  rw [hdispatch, Replica.answered_dispatch h, Secures, Overlooks, or_right_comm]

/-! ### A change that is dropped -/

/-- Without a fetch in the queues only the stores can have a change. -/
theorem secures_iff_of_nothing_queued (htargets : w.targets = []) (hjobs : w.jobs = []) :
    w.Secures a ↔ a.ReachedBy w.replica.stores := by
  refine ⟨fun h => h.resolve_right ?_, .inl⟩
  rintro ⟨j, hj, -⟩
  cases j with
  | rules t =>
    rw [Queued, htargets] at hj
    cases hj
  | segment name till =>
    obtain ⟨ticket, hj⟩ := hj
    rw [hjobs] at hj
    cases hj

/-- A world that has nothing to do, with its flags at 10. -/
def idleAtTen : World Empty Empty :=
  let w := (initial Names.empty .standard).withWorkers 1
  { w with
    ruleWorker := .idle
    replica := { Replica.initial with
      stores := { Stores.empty with flags := { RuleStore.empty with watermark := 10 } } } }

/-- Announces flags at 20, but defines a flag as it was at 9. -/
def olderDefinition : Notification :=
  .flagUpdate ⟨20, some 10, .definition (.asking "a" [] 9)⟩

theorem staffed_idleAtTen : idleAtTen.Staffed := ⟨rfl, rfl⟩

theorem overlooks_olderDefinition : idleAtTen.Overlooks olderDefinition :=
  ⟨rfl, by decide, .asking "a" [] 9, rfl, by decide, .inl (by decide)⟩

/-- The definition is taken for all that was announced. -/
theorem olderDefinition_not_secured :
    ¬ (idleAtTen.dispatch olderDefinition).Secures (.flags 20) := by
  intro h
  rcases (dispatch_secures_iff staffed_idleAtTen rfl).mp h with hs | hn
  · exact absurd ((secures_iff_of_nothing_queued rfl rfl).mp hs) (by decide)
  · exact hn overlooks_olderDefinition

/-- An announced change may be dropped, although every store takes writes. -/
theorem announced_change_dropped :
    ¬ ∀ (w : World Empty Empty) (n : Notification) (a : Announcement), w.Staffed →
      w.replica.stores.flags.frozen = false → w.replica.stores.ruleSegments.frozen = false →
      w.replica.stores.segments.frozen = false → n.announcement? = some a →
      (w.dispatch n).Secures a := by
  intro h
  have hs := h idleAtTen olderDefinition (.flags 20) staffed_idleAtTen rfl rfl rfl rfl
  exact absurd ((secures_iff_of_nothing_queued rfl rfl).mp hs) (by decide)

end World

end Virtual

end Halyard

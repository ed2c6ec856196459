/-
# What work leaves as it is

What tasks write to has nothing to do with how polling stands, what is done at the front, and
how targets are pursued (`World.unmoved_surroundings`). So a turn of a task other than the
front leaves the front and the settings of pursuits as they are, and only the polling tasks
and the one that keeps their cadence change how polling stands (`World.surroundings_act`).

Key definitions: `Surroundings`, `Surroundings.afterStep`, `World.surroundings`.
Key theorems: `World.surroundings_act`, `World.surroundings_actFront`.
-/
import Halyard.Proofs.Virtual.Run

namespace Halyard.Virtual

open Push

variable {β : Type}

/-- What work leaves as it is: how polling stands, what is done at the front and what came of it,
and how targets are pursued. -/
structure Surroundings where
  polling : Option (Polling Empty)
  front : Option (Work Empty)
  frontResult : Option (Except SyncError Names)
  onDemand : OnDemandSettings

/-- The surroundings after a step of what is done at the front. -/
def Surroundings.afterStep (s : Surroundings) :
    Work Empty ⊕ Except SyncError Names → Surroundings
  | .inl work => { s with front := some work }
  | .inr r => { s with front := none, frontResult := some r }

namespace World

/-- The surroundings of the work in a world. -/
def surroundings (w : World Empty β) : Surroundings :=
  ⟨w.polling, w.front, w.frontResult, w.onDemand⟩

variable {f : Interject Empty β} {w w' : World Empty β}

/-- Whatever is said of the surroundings is left as it is by what tasks write to. -/
theorem unmoved_surroundings (Q : Surroundings → Prop) :
    Unmoved fun v : World Empty β => Q v.surroundings :=
  ⟨⟨fun _ hv => hv, fun _ _ hv => hv, fun _ _ hv => hv, fun _ _ hv => hv, fun _ hv => hv,
    fun _ _ hv => hv⟩, fun _ hv => hv, fun _ hv => hv, fun _ hv => hv, fun _ hv => hv,
    fun _ hv => hv, fun _ hv => hv⟩

theorem surroundings_stepWork {work : Work Empty} {x : Work Empty ⊕ Except SyncError Names}
    (h : w.stepWork f work = some (w', x)) : w'.surroundings = w.surroundings :=
  (unmoved_surroundings (· = w.surroundings)).stepWork h rfl

theorem surroundings_enqueueRules (t : FetchTarget) :
    (w.enqueueRules t).1.surroundings = w.surroundings :=
  (unmoved_surroundings (· = w.surroundings)).enqueueRules t rfl

theorem surroundings_enqueueSegment (job : SegmentJob) :
    (w.enqueueSegment job).1.surroundings = w.surroundings :=
  (unmoved_surroundings (· = w.surroundings)).enqueueSegment job rfl

theorem surroundings_dispatch (n : Notification) :
    (w.dispatch n).surroundings = w.surroundings :=
  (unmoved_surroundings (· = w.surroundings)).dispatch n rfl

theorem surroundings_publish (s : PushStatus) :
    (w.publish s).surroundings = w.surroundings := by
  unfold publish
  split <;> rfl

/-! ### Turns -/

theorem surroundings_actWorker {woken : Bool} {i : Nat} (h : w.actWorker f woken i = some w') :
    w'.surroundings = w.surroundings :=
  (unmoved_surroundings (· = w.surroundings)).actWorker h rfl

theorem surroundings_actRuleWorker {woken : Bool} (h : w.actRuleWorker f woken = some w') :
    w'.surroundings = w.surroundings :=
  (unmoved_surroundings (· = w.surroundings)).actRuleWorker id h rfl

theorem surroundings_perform (e : Manager.Effect) :
    (w.perform e).surroundings = w.surroundings := by
  cases e with
  | publish s => exact surroundings_publish s
  | dispatch n => exact surroundings_dispatch n
  | authenticate =>
    unfold perform
    simp only
    split <;> rfl
  | connect t =>
    unfold perform
    simp only
    split <;> rfl
  | _ => rfl

theorem surroundings_actManager (h : w.actManager = some w') : w'.surroundings = w.surroundings :=
  actManager_induction (P := fun v => v.surroundings = w.surroundings) (fun _ _ hv => hv)
    (fun _ e hv => (surroundings_perform e).trans hv) h rfl

theorem surroundings_actConnection (h : w.actConnection = some w') :
    w'.surroundings = w.surroundings := by
  obtain ⟨p, l, -, rfl | ⟨n, rfl⟩⟩ := actConnection_cases h
  · rfl
  · exact (unmoved_surroundings (· = w.surroundings)).countLost n rfl

/-- **The tasks beside the front leave the front and the settings of pursuits as they are.** -/
theorem surroundings_act {woken : Bool} {a : Actor} (ha : a ≠ .front)
    (h : w.act f woken a = some w') :
    ∃ p, w'.surroundings = { w.surroundings with polling := p } := by
  by_cases hmanager : a = .manager
  · subst hmanager
    exact ⟨_, surroundings_actManager h⟩
  by_cases hconnection : a = .connection
  · subst hconnection
    exact ⟨_, surroundings_actConnection h⟩
  have hpolling : ∀ {v : World Empty β} (q : Option (Polling Empty)),
      (∃ p, v.surroundings = { w.surroundings with polling := p }) →
      ∃ p, { v with polling := q }.surroundings = { w.surroundings with polling := p } :=
    fun q ⟨_, hv⟩ => ⟨q, congrArg (fun s : Surroundings => { s with polling := q }) hv⟩
  exact (unmoved_surroundings fun s => ∃ p, s = { w.surroundings with polling := p }).act
    (fun _ => id) hpolling ⟨ha, hmanager, hconnection⟩ h ⟨_, rfl⟩

/-- **The front goes on with its work, or is done with it.** -/
theorem surroundings_actFront (h : w.actFront f = some w') :
    ∃ work w₁ x, w.front = some work ∧ w.stepWork f work = some (w₁, x) ∧
      w'.surroundings = w.surroundings.afterStep x := by
  cases frontTurn_of_actFront h with
  | @goesOn work work' w₁ hwork hs =>
    exact ⟨work, w₁, _, hwork, hs,
      congrArg (fun s : Surroundings => { s with front := some work' }) (surroundings_stepWork hs)⟩
  | @ends work w₁ r hwork hs =>
    exact ⟨work, w₁, _, hwork, hs,
      congrArg (fun s : Surroundings => { s with front := none, frontResult := some r })
        (surroundings_stepWork hs)⟩

end World

end Halyard.Virtual

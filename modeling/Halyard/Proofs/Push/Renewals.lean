/-
# What the push manager does about its token

Between two tokens the manager waits if the token says so, streams until the token is to be
replaced, and waits for its connection to end; then it counts the replacement and asks for
the next token. Each of these is a step of its own. Every other step stays in its phase and
does nothing that time depends on, or goes to a phase in which no token is waiting to be
replaced (`Manager.step_strides`).

Key definitions: `Manager.Effect.Replaces`, `Manager.Effect.Aside`,
`Manager.Phase.Free`, `Manager.Strides`, `Manager.use`.
Key theorems: `Manager.step_granted`, `Manager.step_strides`.
-/
import Halyard.Proofs.Push.Manager

namespace Halyard.Push.Manager

variable {m : Manager} {i : Input}

/-- Whether an effect counts that a token was replaced. -/
def Effect.Replaces : Effect → Prop
  | .count m _ => m = .tokenRefreshes
  | _ => False

/-- Whether an effect is about nothing that the manager waits for. -/
def Effect.Aside : Effect → Prop
  | .publish _ | .dispatch _ | .count _ _ => True
  | _ => False

/-- Whether no token is waiting to be replaced in a phase. -/
def Phase.Free : Phase → Prop
  | .delaying _ | .streaming | .closing .tokenRefresh => False
  | _ => True

/-- What an input can lead to, as far as tokens are concerned. -/
inductive Strides (m : Manager) (i : Input) : Manager × List Effect → Prop
  | waits {t : Token} {secs : Nat} (hi : i = .answered (.ok t))
    (hdelay : t.connectDelay = some (secs + 1)) :
    m.Strides i ({ m with phase := .delaying t }, [.sleep ((secs + 1) * 1000)])
  | connects {t : Token} (hi : i = .answered (.ok t)) (hdelay : t.connectDelay.getD 0 = 0) :
    m.Strides i (m.connect t)
  | goesOn {t : Token} (hphase : m.phase = .delaying t) (hi : i = .elapsed) :
    m.Strides i (m.connect t)
  | expires (hphase : m.phase = .streaming) (hi : i = .refreshDue) :
    m.Strides i (m.close .tokenRefresh)
  | replaces (hphase : m.phase = .closing .tokenRefresh) :
    m.Strides i (m.again.1, .count .tokenRefreshes none :: m.again.2)
  | stays {r : Manager × List Effect} (hphase : r.1.phase = m.phase)
    (hr : ∀ e ∈ r.2, e.Aside ∧ ¬ e.Replaces) : m.Strides i r
  | leaves {r : Manager × List Effect} (hfree : r.1.phase.Free) (hr : ∀ e ∈ r.2, ¬ e.Replaces) :
    m.Strides i r

theorem aside_publish {ss : List PushStatus} :
    ∀ e ∈ ss.map Effect.publish, e.Aside ∧ ¬ e.Replaces := by
  intro e he
  obtain ⟨s, -, rfl⟩ := List.mem_map.mp he
  exact ⟨trivial, id⟩

theorem strides_giveUp : m.Strides i m.giveUp :=
  .leaves trivial fun e he => (aside_publish e he).2

theorem strides_retryLater : m.Strides i m.retryLater := by
  refine .leaves trivial fun e he => ?_
  rcases List.mem_append.mp he with he | he
  · exact (aside_publish e he).2
  · rw [List.mem_singleton.mp he]
    exact id

theorem strides_stopped : m.Strides i ({ m with phase := .stopped }, []) :=
  .leaves trivial (List.forall_mem_nil _)

/-- To begin again is to have no token, and no replacement is counted for it. -/
theorem free_again : m.again.1.phase.Free ∧ ∀ e ∈ m.again.2, ¬ e.Replaces := by
  rcases again_cases (m := m) with h | h
  · rw [h]
    exact ⟨trivial, List.forall_mem_nil _⟩
  · rw [h]
    exact ⟨trivial, List.forall_mem_singleton.mpr id⟩

theorem strides_again : m.Strides i m.again :=
  .leaves free_again.1 free_again.2

/-- What the manager does with a token: the token says by its delay whether it waits before it
connects. -/
def use (m : Manager) (t : Token) : Manager × List Effect :=
  match t.connectDelay with
  | some (secs + 1) => ({ m with phase := .delaying t }, [.sleep ((secs + 1) * 1000)])
  | _ => m.connect t

theorem use_of_delay {t : Token} {secs : Nat} (h : t.connectDelay = some (secs + 1)) :
    m.use t = ({ m with phase := .delaying t }, [.sleep ((secs + 1) * 1000)]) := by
  rw [use, h]

theorem use_of_no_delay {t : Token} (h : t.connectDelay.getD 0 = 0) : m.use t = m.connect t := by
  unfold use
  split
  · rename_i secs hdelay
    rw [hdelay] at h
    cases h
  · rfl

theorem answered_ok (t : Token) :
    m.answered (.ok t) = if !t.pushEnabled then m.giveUp else m.use t := rfl

theorem step_granted {t : Token} (hphase : m.phase = .authenticating)
    (hon : t.pushEnabled = true) : m.step (.answered (.ok t)) = m.use t := by
  have hanswered : m.step (.answered (.ok t)) = m.answered (.ok t) := by simp only [step, hphase]
  rw [hanswered, answered_ok, hon]
  rfl

theorem strides_use (t : Token) (hi : i = .answered (.ok t)) : m.Strides i (m.use t) := by
  cases hdelay : t.connectDelay.getD 0 with
  | zero =>
    rw [use_of_no_delay hdelay]
    exact .connects hi hdelay
  | succ secs =>
    have hsome : t.connectDelay = some (secs + 1) := by
      cases hd : t.connectDelay with
      | none =>
        rw [hd] at hdelay
        cases hdelay
      | some d =>
        rw [hd] at hdelay
        exact congrArg some hdelay
    rw [use_of_delay hsome]
    exact .waits hi hsome

theorem strides_answered (r : Except FetchError Token) :
    m.Strides (.answered r) (m.answered r) := by
  cases r with
  | ok t =>
    rw [answered_ok]
    split
    · exact strides_giveUp
    · exact strides_use t rfl
  | error e =>
    unfold answered
    split
    · rename_i hok
      cases hok
    · exact .leaves trivial (List.forall_mem_cons.mpr
        ⟨Metric.noConfusion, fun e he => (aside_publish e he).2⟩)
    · exact strides_retryLater

/-- A notification leaves the session as it is, or ends it for good. -/
theorem strides_notified (n : Notification) : m.Strides i (m.notified n) := by
  have hcounted : ∀ r : Manager × List Effect, r.1.phase = m.phase →
      (∀ e ∈ r.2, e.Aside ∧ ¬ e.Replaces) → ∀ label, m.Strides i
        (if r.1.availability.isOff then
          ({ r.1 with phase := .closing .disabled },
            (.count .notifications label :: r.2) ++ [.disconnect])
        else (r.1, .count .notifications label :: r.2)) := by
    intro r hr haside label
    have hmore : ∀ e ∈ Effect.count .notifications label :: r.2, e.Aside ∧ ¬ e.Replaces :=
      List.forall_mem_cons.mpr ⟨⟨trivial, Metric.noConfusion⟩, haside⟩
    split
    · refine .leaves trivial fun e he => ?_
      rcases List.mem_append.mp he with he | he
      · exact (hmore e he).2
      · rw [List.mem_singleton.mp he]
        exact id
    · exact .stays hr hmore
  cases n with
  | control _ c => exact hcounted (m.publishing (m.availability.control c)) rfl aside_publish _
  | occupancy channel publishers timestamp =>
    exact hcounted (m.publishing (m.availability.occupancy channel publishers timestamp)) rfl
      aside_publish _
  | error _ => exact hcounted (m, []) rfl (List.forall_mem_nil _) _
  | _ => exact hcounted (m, [.dispatch _]) rfl (List.forall_mem_singleton.mpr ⟨trivial, id⟩) _

theorem strides_closed {e : SessionEnd} (hphase : m.phase = .closing e)
    (outcome : ConnectionOutcome) : m.Strides i (m.closed e outcome) := by
  unfold closed
  split
  · exact .replaces hphase
  · exact strides_retryLater
  · exact strides_giveUp
  · exact strides_stopped

theorem strides_close {e : SessionEnd} (he : e ≠ .tokenRefresh) : m.Strides i (m.close e) := by
  refine .leaves ?_ (List.forall_mem_singleton.mpr id)
  cases e with
  | tokenRefresh => exact absurd rfl he
  | _ => trivial

/-- **Every step is one of these.** -/
theorem step_strides (m : Manager) (i : Input) : m.Strides i (m.step i) := by
  unfold step
  split
  · exact strides_answered _
  · exact strides_stopped
  · rename_i hphase
    exact .goesOn hphase rfl
  · exact strides_stopped
  · exact strides_again
  · exact strides_stopped
  · exact .stays rfl aside_publish
  · exact strides_notified _
  · rename_i hphase
    exact .expires hphase rfl
  · exact strides_close SessionEnd.noConfusion
  · exact strides_close SessionEnd.noConfusion
  · exact .stays rfl (List.forall_mem_nil _)
  · rename_i hphase
    exact strides_closed hphase _
  · exact .stays rfl (List.forall_mem_nil _)

end Halyard.Push.Manager

/-
# The status that push is said to have

Polling slows down while the published status of push is healthy. Between two
connections the manager waits: for an answer of the auth endpoint, for the delay
of a token, or after a failure. Push is not connected then, and yet its status
may be healthy, because nothing is published when a token is replaced. That is
the only way (`Broadcaster.healthy_iff_replacing`): push was healthy when the old
token was given up, and no attempt to replace it has failed.

Key definitions: `Broadcaster`, `Broadcaster.run`, `Broadcaster.Healthy`,
`Broadcaster.Replacing`.
Key theorems: `Broadcaster.current_run`, `Broadcaster.healthy_iff_replacing`.
-/
import Halyard.Proofs.Push.Manager
import Halyard.Push.Publisher
import Mathlib.Data.List.Induction

namespace Halyard.Push

namespace Publisher

/-- Publishes several statuses in order. -/
def publishAll (p : Publisher) (ss : List PushStatus) : Publisher :=
  ss.foldl publish p

theorem current_publish (p : Publisher) (s : PushStatus) : (p.publish s).current = some s := by
  unfold publish changes
  split
  · rfl
  · rename_i h
    simpa using h

theorem current_publishAll : ∀ (ss : List PushStatus) (p : Publisher),
    (p.publishAll ss).current = ss.getLast?.or p.current
  | [], _ => rfl
  | s :: ss, p => by
    have ih : (p.publishAll (s :: ss)).current = ss.getLast?.or (p.publish s).current :=
      current_publishAll ss (p.publish s)
    rw [ih, current_publish, List.getLast?_cons]
    cases ss.getLast? <;> rfl

end Publisher

/-! ### Waiting between connections -/

namespace Manager

variable {m : Manager} {r : Manager × List Effect}

/-- Whether the manager waits before it connects: for an answer, for a delay, or after a
failure. -/
def Phase.Waits (p : Phase) : Prop :=
  p.Prepares ∨ p = .backingOff

/-- Whether the status is that of a failure while the manager waits after one. -/
def ShowsFailure (m : Manager) : Prop :=
  m.phase = .backingOff →
    m.availability.current = some .off ∨ m.availability.current = some .backoff

/-- Preparing a connection follows another wait, or a session whose token is to be replaced,
and nothing is published then. -/
theorem Moves.prepares (h : m.Moves r) (hr : r.1.phase.Prepares) :
    published r.2 = [] ∧ (m.phase.Waits ∨ m.phase = .closing .tokenRefresh) := by
  cases h with
  | ignores => exact ⟨rfl, .inl (.inl hr)⟩
  | departs => exact ⟨rfl, .inl (.inl hr)⟩
  | delays h => exact ⟨rfl, .inl (.inl (by rw [h]; trivial))⟩
  | begins h counts hcounts =>
    refine ⟨?_, h.imp .inr id⟩
    rw [published_append, hcounts]
    rcases again_cases (m := m) with ha | ha <;> rw [ha] <;> rfl
  | opened h => exact (h ▸ hr : Phase.Prepares .streaming).elim
  | notified h n =>
    rcases notified_cases (m := m) n with hn | ⟨hn, -⟩
    · exact (h ▸ hn ▸ hr : Phase.Prepares .streaming).elim
    · exact (hn ▸ hr : Phase.Prepares (.closing .disabled)).elim
  | _ => exact hr.elim

theorem Moves.showsFailure (h : m.Moves r) (hm : m.ShowsFailure) : r.1.ShowsFailure := by
  intro hr
  cases h with
  | ignores => exact hm hr
  | departs => exact hm hr
  | retries => exact Availability.current_failed true
  | begins =>
    rcases again_cases (m := m) with ha | ha <;> rw [ha] at hr <;> cases hr
  | opened h => cases (h.symm.trans hr)
  | notified h n =>
    rcases notified_cases (m := m) n with hn | ⟨hn, -⟩
    · cases h.symm.trans (hn.symm.trans hr)
    · cases hn.symm.trans hr
  | _ => cases hr

end Manager

/-! ### The manager and its publisher -/

/-- The manager with the publisher of its status. -/
structure Broadcaster where
  manager : Manager
  publisher : Publisher

namespace Broadcaster

variable {b : Broadcaster} {inputs : List Manager.Input} {i : Manager.Input}

/-- The manager when it begins. Nothing was published before. -/
def start (backoff : Backoff) (subscribers : List Subscriber) : Broadcaster where
  manager := (Manager.begin backoff).1
  publisher := Publisher.publishAll ⟨none, subscribers⟩ (published (Manager.begin backoff).2)

/-- Takes in an input and publishes what is to be published. -/
def step (b : Broadcaster) (i : Manager.Input) : Broadcaster :=
  ⟨(b.manager.step i).1, b.publisher.publishAll (published (b.manager.step i).2)⟩

/-- Takes in several inputs. -/
def run (b : Broadcaster) (inputs : List Manager.Input) : Broadcaster :=
  inputs.foldl step b

/-- Whether the published status is healthy. -/
def Healthy (b : Broadcaster) : Prop :=
  ∃ s, b.publisher.current = some s ∧ s.healthy = true

theorem run_concat : b.run (inputs ++ [i]) = (b.run inputs).step i :=
  List.foldl_append

theorem run_induction {P : Broadcaster → Prop} (hb : P b)
    (hstep : ∀ (b : Broadcaster) (i : Manager.Input), P b → P (b.step i)) :
    P (b.run inputs) :=
  List.foldlRecOn inputs step hb fun b hb i _ => hstep b i hb

/-- The published status is the one that the manager has in mind. -/
theorem current_run (backoff : Backoff) (subscribers : List Subscriber)
    (inputs : List Manager.Input) :
    ((start backoff subscribers).run inputs).publisher.current =
      ((start backoff subscribers).run inputs).manager.availability.current := by
  refine run_induction (P := fun b => b.publisher.current = b.manager.availability.current) rfl ?_
  intro b i hb
  rw [step, Publisher.current_publishAll, hb]
  exact (Manager.step_moves i).faithful.symm

theorem showsFailure_run (backoff : Backoff) (subscribers : List Subscriber)
    (inputs : List Manager.Input) :
    ((start backoff subscribers).run inputs).manager.ShowsFailure := by
  refine run_induction (P := fun b => b.manager.ShowsFailure) ?_ ?_
  · exact fun h => Manager.Phase.noConfusion h
  · exact fun b i hb => (Manager.step_moves i).showsFailure hb

/-- Whether inputs lead to a wait in which a token of a healthy connection is replaced: the
session was ended for that, and since then the manager has only prepared the next connection. -/
inductive Replacing (b : Broadcaster) : List Manager.Input → Prop
  | begun {inputs : List Manager.Input} {i : Manager.Input}
    (hphase : (b.run inputs).manager.phase = .closing .tokenRefresh)
    (hhealthy : (b.run inputs).Healthy)
    (hprepares : (b.run (inputs ++ [i])).manager.phase.Prepares) : b.Replacing (inputs ++ [i])
  | continued {inputs : List Manager.Input} {i : Manager.Input} (h : b.Replacing inputs)
    (hprepares : (b.run (inputs ++ [i])).manager.phase.Prepares) : b.Replacing (inputs ++ [i])

theorem Replacing.prepares (h : b.Replacing inputs) : (b.run inputs).manager.phase.Prepares := by
  cases h <;> assumption

theorem replacing_concat_iff :
    b.Replacing (inputs ++ [i]) ↔ (b.run (inputs ++ [i])).manager.phase.Prepares ∧
      ((b.run inputs).manager.phase = .closing .tokenRefresh ∧ (b.run inputs).Healthy ∨
        b.Replacing inputs) := by
  constructor
  · generalize hx : inputs ++ [i] = inputs'
    rintro (⟨hphase, hhealthy, hprepares⟩ | ⟨h, hprepares⟩) <;>
      obtain ⟨rfl, -⟩ := List.append_inj' hx rfl
    · exact ⟨hprepares, .inl ⟨hphase, hhealthy⟩⟩
    · exact ⟨hprepares, .inr h⟩
  · rintro ⟨hprepares, ⟨hphase, hhealthy⟩ | h⟩
    · exact .begun hphase hhealthy hprepares
    · exact .continued h hprepares

/-- While a connection is prepared the status stays what it was. -/
theorem healthy_step_iff (h : (b.step i).manager.phase.Prepares) :
    (b.step i).Healthy ↔ b.Healthy := by
  have hp := ((Manager.step_moves i).prepares h).1
  unfold Healthy
  rw [step, hp]
  rfl

/-- While the manager waits after a failure, the failure is the published status. -/
theorem not_healthy_of_backingOff (backoff : Backoff) (subscribers : List Subscriber)
    (h : ((start backoff subscribers).run inputs).manager.phase = .backingOff) :
    ¬ ((start backoff subscribers).run inputs).Healthy := by
  rintro ⟨s, hs, hhealthy⟩
  rw [current_run] at hs
  rcases showsFailure_run backoff subscribers inputs h with hf | hf <;> rw [hf] at hs <;>
    cases hs <;> cases hhealthy

theorem not_replacing_nil : ¬ b.Replacing [] := by
  generalize hx : ([] : List Manager.Input) = inputs
  intro h
  cases h <;> exact List.append_ne_nil_of_right_ne_nil _ (List.cons_ne_nil _ _) hx.symm

/-- **Between connections push is said to be healthy only while a token is replaced.** Whenever
the manager waits before it connects, the published status is healthy exactly if the session
before was ended to replace its token, with a healthy status, and nothing failed since. -/
theorem healthy_iff_replacing (backoff : Backoff) (subscribers : List Subscriber)
    (inputs : List Manager.Input)
    (h : ((start backoff subscribers).run inputs).manager.phase.Waits) :
    ((start backoff subscribers).run inputs).Healthy ↔
      (start backoff subscribers).Replacing inputs := by
  -- Along the run: a wait that prepares a connection keeps the status, and so does its beginning.
  induction inputs using List.reverseRecOn with
  | nil =>
    refine iff_of_false ?_ not_replacing_nil
    rintro ⟨s, hs, -⟩
    cases hs
  | append_singleton inputs i ih =>
    rcases h with hprepares | hbacking
    · have hstatus : ((start backoff subscribers).run (inputs ++ [i])).Healthy ↔
          ((start backoff subscribers).run inputs).Healthy := by
        rw [run_concat] at hprepares ⊢
        exact healthy_step_iff hprepares
      rw [hstatus, replacing_concat_iff, and_iff_right hprepares]
      rw [run_concat] at hprepares
      rcases ((Manager.step_moves i).prepares hprepares).2 with hwaits | hclosing
      · rw [ih hwaits]
        refine (or_iff_right fun hr => ?_).symm
        rw [hr.1] at hwaits
        exact hwaits.elim id Manager.Phase.noConfusion
      · rw [and_iff_right hclosing]
        refine (or_iff_left fun hr => ?_).symm
        exact (hclosing ▸ hr.prepares : Manager.Phase.Prepares (.closing .tokenRefresh))
    · refine iff_of_false (not_healthy_of_backingOff _ _ hbacking) fun hr => ?_
      exact (hbacking ▸ hr.prepares : Manager.Phase.Prepares .backingOff)

/-- A session that is ended because its token is about to expire. -/
def expiring : List Manager.Input :=
  [.answered (.ok Manager.shortLived), .event .connected, .refreshDue]

/-- The same after the connection ended. -/
def expired : List Manager.Input :=
  expiring ++ [.ended .cancelled]

theorem waits_expired : ((start (.start 1000 1000) []).run expired).manager.phase.Waits :=
  .inl trivial

theorem replacing_expired : (start (.start 1000 1000) []).Replacing expired :=
  .begun rfl ⟨.ready, rfl, rfl⟩ trivial

/-- The connection is gone, no answer is there yet, and push is said to be ready. -/
theorem healthy_expired : ((start (.start 1000 1000) []).run expired).Healthy :=
  (healthy_iff_replacing (.start 1000 1000) [] expired waits_expired).mpr replacing_expired

/-- Push may be said to be healthy while there is no connection. -/
theorem healthy_without_connection :
    ¬ ∀ (backoff : Backoff) (subscribers : List Subscriber) (inputs : List Manager.Input),
      ((start backoff subscribers).run inputs).manager.phase.Waits →
        ¬ ((start backoff subscribers).run inputs).Healthy := fun h =>
  h (.start 1000 1000) [] expired waits_expired ⟨.ready, rfl, rfl⟩

end Broadcaster

end Halyard.Push

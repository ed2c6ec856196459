/-
# What the push manager can do

A step of the manager is one of eleven moves, each of which says where it is
possible, where it leads and what is done. Everything else about the manager is
read off its moves. The first thing is that the manager keeps no change of its
status to itself: after a step the status is the last one that was published,
or the one before.

Key definitions: `published`, `Manager.Moves`, `Manager.Phase.InSession`,
`Manager.Faithful`.
Key theorems: `Manager.step_moves`, `Manager.Moves.faithful`.
-/
import Halyard.Push.Manager

namespace Halyard.Push

/-! ### What is published -/

/-- The statuses that are published among effects, in order. -/
def published (effects : List Manager.Effect) : List PushStatus :=
  effects.filterMap fun
    | .publish s => some s
    | _ => none

theorem published_append (l l' : List Manager.Effect) :
    published (l ++ l') = published l ++ published l' :=
  List.filterMap_append

theorem published_map_publish : ∀ ss : List PushStatus, published (ss.map .publish) = ss
  | [] => rfl
  | s :: ss => congrArg (s :: ·) (published_map_publish ss)

/-! ### The availability passes through what it answers -/

namespace Availability

variable {a : Availability}

/-- Whether an availability came to its status by passing through the given ones. -/
def Follows (a : Availability) (r : Availability × List PushStatus) : Prop :=
  r.1.current = r.2.getLast?.or a.current

theorem connected_follows : a.Follows a.connected := by
  unfold connected
  split <;> rfl

theorem occupancy_follows (channel : String) (publishers : Nat) (timestamp : Int) :
    a.Follows (a.occupancy channel publishers timestamp) := by
  simp only [occupancy]
  split
  · rfl
  · split
    · rfl
    · split <;> rfl

theorem control_follows (c : Control) : a.Follows (a.control c) := by
  unfold control
  split
  · rfl
  · cases c with
    | paused =>
      dsimp only
      split
      · rfl
      · split <;> rfl
    | resumed =>
      dsimp only
      split
      · split <;> rfl
      · rfl
    | disabled => rfl

theorem failed_follows (retryable : Bool) : a.Follows (a.failed retryable) := by
  unfold failed
  split <;> rfl

/-- After a failure push is off, or it is going to be tried again. -/
theorem current_failed (retryable : Bool) :
    (a.failed retryable).1.current = some .off ∨ (a.failed retryable).1.current = some .backoff := by
  unfold failed
  by_cases h : a.isOff = true
  · rw [if_pos h]
    exact .inl (by simpa [isOff] using h)
  · rw [if_neg h]
    cases retryable
    · exact .inl rfl
    · exact .inr rfl

end Availability

namespace Manager

variable {m : Manager} {r : Manager × List Effect}

/-! ### Moves -/

/-- Whether the manager waits for an answer of the auth endpoint, or for the delay that a
token asks for. -/
def Phase.Prepares : Phase → Prop
  | .authenticating | .delaying _ => True
  | _ => False

/-- Whether a failure can end a phase: a refused token, or a connection that was lost. -/
def Phase.Fails : Phase → Prop
  | .authenticating | .closing .closed => True
  | _ => False

/-- What a manager can do. Before some moves occurrences are counted. -/
inductive Moves (m : Manager) : Manager × List Effect → Prop
  /-- It was told something that it does not wait for. -/
  | ignores : m.Moves (m, [])
  | stops (h : m.phase ≠ .streaming) : m.Moves ({ m with phase := .stopped }, [])
  | givesUp (h : m.phase.Fails) (counts : List Effect) (hcounts : published counts = []) :
    m.Moves (m.giveUp.1, counts ++ m.giveUp.2)
  | retries (h : m.phase.Fails) : m.Moves m.retryLater
  | delays (h : m.phase = .authenticating) (t : Token) (ms : Nat) :
    m.Moves ({ m with phase := .delaying t }, [.sleep ms])
  | connects (h : m.phase.Prepares) (t : Token) : m.Moves (m.connect t)
  | begins (h : m.phase = .backingOff ∨ m.phase = .closing .tokenRefresh) (counts : List Effect)
    (hcounts : published counts = []) : m.Moves (m.again.1, counts ++ m.again.2)
  | opened (h : m.phase = .streaming) :
    m.Moves ({ m with backoff := m.backoff.reset }.publishing m.availability.connected)
  | notified (h : m.phase = .streaming) (n : Notification) : m.Moves (m.notified n)
  | closes (h : m.phase = .streaming) (e : SessionEnd) (he : e ≠ .disabled) : m.Moves (m.close e)
  /-- It was told to stop, and waits for the end of its connection first. -/
  | departs {e : SessionEnd} (h : m.phase = .closing e) : m.Moves ({ m with leaving := true }, [])

theorem answered_moves (h : m.phase = .authenticating) (r : Except FetchError Token) :
    m.Moves (m.answered r) := by
  have hfails : m.phase.Fails := by rw [h]; trivial
  have hprepares : m.phase.Prepares := by rw [h]; trivial
  unfold answered
  split
  · split
    · exact .givesUp hfails [] rfl
    · split
      · exact .delays h _ _
      · exact .connects hprepares _
  · exact .givesUp hfails [.count .authRejections none] rfl
  · exact .retries hfails

theorem closed_moves {e : SessionEnd} (h : m.phase = .closing e) (outcome : ConnectionOutcome) :
    m.Moves (m.closed e outcome) := by
  unfold closed
  split
  · exact .begins (.inr h) [.count .tokenRefreshes none] rfl
  · exact .retries (by rw [h]; trivial)
  · exact .givesUp (by rw [h]; trivial) [] rfl
  · exact .stops (by rw [h]; exact Phase.noConfusion)

theorem step_moves (i : Input) : m.Moves (m.step i) := by
  have hstops : ∀ {p : Phase}, p ≠ .streaming → m.phase = p → m.phase ≠ .streaming :=
    fun hp he => he ▸ hp
  unfold step
  split
  · exact answered_moves ‹_› _
  · exact .stops (hstops Phase.noConfusion ‹_›)
  · exact .connects (by simp only [*, Phase.Prepares]) _
  · exact .stops (hstops Phase.noConfusion ‹_›)
  · exact .begins (.inl ‹_›) [] rfl
  · exact .stops (hstops Phase.noConfusion ‹_›)
  · exact .opened ‹_›
  · exact .notified ‹_› _
  · exact .closes ‹_› _ SessionEnd.noConfusion
  · exact .closes ‹_› _ SessionEnd.noConfusion
  · exact .closes ‹_› _ SessionEnd.noConfusion
  · exact .departs ‹_›
  · exact closed_moves ‹_› _
  · exact .ignores

/-- Whether the manager would begin again: it was not told to stop, and push is not off. -/
def GoesOn (m : Manager) : Prop :=
  (m.leaving || m.availability.isOff) = false

theorem GoesOn.again (h : m.GoesOn) :
    m.again = ({ m with phase := .authenticating }, [.authenticate]) :=
  if_neg (Bool.eq_false_iff.mp h)

theorem again_cases :
    m.again = ({ m with phase := .stopped }, []) ∨
      m.again = ({ m with phase := .authenticating }, [.authenticate]) := by
  unfold again
  split
  · exact .inl rfl
  · exact .inr rfl

/-! ### Sessions -/

/-- Whether there is a connection: it is streaming, or it was told to stop. -/
def Phase.InSession : Phase → Prop
  | .streaming | .closing _ => True
  | _ => False

/-- Whether an effect tells the connection to stop. -/
def Effect.disconnects : Effect → Bool
  | .disconnect => true
  | _ => false

/-- A notification ends the session or leaves the phase as it is. -/
theorem notified_cases (n : Notification) :
    (m.notified n).1.phase = m.phase ∨
      (m.notified n).1.phase = .closing .disabled ∧
        (m.notified n).2.any Effect.disconnects = true := by
  have hlast : ∀ effects : List Effect,
      (effects ++ [Effect.disconnect]).any Effect.disconnects = true := fun effects => by
    rw [List.any_append]
    exact Bool.or_true _
  unfold notified
  cases n <;> dsimp only <;> split <;> first | exact .inr ⟨rfl, hlast _⟩ | exact .inl rfl

theorem closed_not_inSession (e : SessionEnd) (outcome : ConnectionOutcome) :
    ¬ (m.closed e outcome).1.phase.InSession := by
  unfold closed
  split
  · rcases again_cases (m := m) with h | h <;> rw [h] <;> exact id
  · exact id
  · exact id
  · exact id

/-- A connection is told to stop when the manager begins to wait for its end. -/
theorem Moves.disconnects (h : m.Moves r) {e : SessionEnd} (hr : r.1.phase = .closing e) :
    m.phase = .closing e ∨ r.2.any Effect.disconnects = true := by
  cases h with
  | ignores => exact .inl hr
  | departs => exact .inl hr
  | begins =>
    rcases again_cases (m := m) with ha | ha <;> rw [ha] at hr <;> cases hr
  | opened => exact .inl hr
  | notified h n =>
    rcases notified_cases (m := m) n with hn | hn
    · cases h.symm.trans (hn.symm.trans hr)
    · exact .inr hn.2
  | closes => exact .inr rfl
  | _ => cases hr

/-- A token that has to be replaced after a second. -/
def shortLived : Token := ⟨true, "short", [], some 0, some 2, none⟩

/-! ### No change of the status is kept back -/

/-- Whether a manager published every change of its status. -/
def Faithful (m : Manager) (r : Manager × List Effect) : Prop :=
  r.1.availability.current = (published r.2).getLast?.or m.availability.current

theorem Faithful.and_more (h : m.Faithful r) (before after : List Effect) {m' : Manager}
    (hm : m'.availability = r.1.availability) (hbefore : published before = [])
    (hafter : published after = []) : m.Faithful (m', before ++ r.2 ++ after) := by
  rw [Faithful, published_append, published_append, hbefore, hafter, List.nil_append,
    List.append_nil, hm]
  exact h

theorem publishing_faithful {r : Availability × List PushStatus} (h : m.availability.Follows r) :
    m.Faithful (m.publishing r) := by
  rw [Faithful, publishing, published_map_publish]
  exact h

/-- A notification that is handled faithfully is also counted, and may end the session. -/
theorem Faithful.counted (h : m.Faithful r) (label : Option (String × String)) :
    m.Faithful (if r.1.availability.isOff then
        ({ r.1 with phase := .closing .disabled },
          (.count .notifications label :: r.2) ++ [.disconnect])
      else (r.1, .count .notifications label :: r.2)) := by
  split
  · exact h.and_more [.count .notifications label] [.disconnect] rfl rfl rfl
  · exact h

theorem notified_faithful (n : Notification) : m.Faithful (m.notified n) := by
  cases n with
  | control _ c => exact (publishing_faithful (Availability.control_follows c)).counted _
  | occupancy channel publishers timestamp =>
    exact (publishing_faithful (Availability.occupancy_follows ..)).counted _
  | error _ => exact Faithful.counted (r := (m, [])) rfl _
  | _ => exact Faithful.counted (r := (m, [.dispatch _])) rfl _

/-- **Every change of the status is published.** After a move the status is the last one that
was published, or the one before. -/
theorem Moves.faithful (h : m.Moves r) : m.Faithful r := by
  have hfailed : ∀ retryable, m.Faithful (m.publishing (m.availability.failed retryable)) :=
    fun retryable => publishing_faithful (Availability.failed_follows retryable)
  cases h with
  | ignores => rfl
  | stops => rfl
  | givesUp _ counts hcounts =>
    rw [← List.append_nil (counts ++ _)]
    exact (hfailed false).and_more counts [] rfl hcounts rfl
  | retries => exact (hfailed true).and_more [] [.sleep _] rfl rfl rfl
  | delays => rfl
  | connects => rfl
  | begins _ counts hcounts =>
    have hagain : m.Faithful m.again := by
      rcases again_cases (m := m) with h | h <;> rw [h] <;> rfl
    rw [← List.append_nil (counts ++ _)]
    exact hagain.and_more counts [] rfl hcounts rfl
  | opened =>
    exact publishing_faithful (m := { m with backoff := m.backoff.reset })
      Availability.connected_follows
  | notified _ n => exact notified_faithful n
  | closes => rfl
  | departs => rfl

end Manager

end Halyard.Push

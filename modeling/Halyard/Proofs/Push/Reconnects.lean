/-
# The waits of the push manager

After an authentication that failed and after a connection that was lost the
manager waits before it tries again. How long is up to its backoff, which only
three things touch: a wait takes a delay from it (`Manager.sleep_mem_of_loses`),
an accepted connection sets it back, and nothing else changes it
(`Manager.step_of_not_loses`). Its base and its maximum stay what they were.

So a wait is at most the maximum, and it is positive exactly if the maximum is:
the base of an accepted configuration is positive, and its maximum need not be
(`Backoff.jittered_pos_iff`). Delays grow with the number of waits, so without
jitter the next wait is no shorter unless a connection was accepted
(`Manager.isChain_occurrences`).

A wait may be lengthened by jitter. The manager counts in milliseconds, jitter
may be a part of one; so the times are in some unit here, of which a millisecond
has as many as one likes. Jitter is any number of them, whether or not it is
less than half the delay.

Key definitions: `Manager.loses`, `Manager.Occurrence`, `Manager.occurrences`,
`Backoff.Within`.
Key theorems: `Manager.step_of_loses`, `Manager.step_of_not_loses`,
`Manager.backingOff_step_iff`, `Manager.isChain_occurrences`,
`Manager.reconnects_wait_iff`.
-/
import Halyard.Proofs.Backoff
import Halyard.Proofs.Push.Manager
import Halyard.Proofs.Virtual.Cadence
import Mathlib.Data.List.Chain

namespace Halyard

/-! ### Delays -/

namespace Backoff

variable {base max jitter : Nat} {b : Backoff}

/-- A backoff from a base up to a maximum, after any number of waits. -/
structure Within (base max : Nat) (b : Backoff) : Prop where
  base : b.base = base
  max : b.max = max

theorem within_start : (start base max).Within base max := ⟨rfl, rfl⟩

theorem Within.next (h : b.Within base max) : b.next.2.Within base max := ⟨h.base, h.max⟩

theorem Within.reset (h : b.Within base max) : b.reset.Within base max := ⟨h.base, h.max⟩

@[simp] theorem jittered_zero (b : Backoff) : b.jittered 0 = b.delay := by
  have hbounds := b.jittered_bounds 0
  omega

theorem jittered_le (h : b.Within base max) : b.jittered jitter ≤ max :=
  h.max ▸ Nat.min_le_right _ _

/-- **A delay is positive exactly if the maximum is**, jitter or not. -/
theorem jittered_pos_iff (h : b.Within base max) (hbase : 0 < base) :
    0 < b.jittered jitter ↔ 0 < max := by
  have hproduct : 0 < b.base * b.factor := Nat.mul_pos (h.base ▸ hbase) b.factor_pos
  have hlongest : 0 < Duration.longest := by decide
  have hmax : b.max = max := h.max
  unfold jittered delay Duration.plus Duration.times
  omega

theorem delay_le_delay_next (b : Backoff) : b.delay ≤ b.next.2.delay := by
  have hcount : min b.attempt maxDoublings ≤ min b.next.2.attempt maxDoublings := by
    have hbound : maxDoublings ≤ maxAttempt := by decide
    have hnext : b.next.2.attempt = min (b.attempt + 1) maxAttempt := rfl
    omega
  exact delay_le_delay rfl rfl hcount

end Backoff

namespace Push.Manager

variable {m : Manager} {i : Input}

/-! ### Failures and the waits after them -/

/-- Whether an input is a failure after which the manager will try again: an authentication that
failed, though not for a refused key, or a connection that was lost. -/
def loses (m : Manager) : Input → Bool
  | .answered (.error e) =>
    m.phase = .authenticating &&
      match e.toSync with
      | .authRejected _ => false
      | _ => true
  | .ended (.retryable _) => m.phase = .closing .closed
  | _ => false

/-- Whether an input says that a connection was accepted. -/
def opens (m : Manager) : Input → Bool
  | .event .connected => m.phase = .streaming
  | _ => false

theorem opens_iff : m.opens i = true ↔ m.phase = .streaming ∧ i = .event .connected := by
  unfold opens
  split
  · simp
  · rename_i hother
    exact ⟨nofun, fun h => (hother h.2).elim⟩

/-- After a failure the manager will try again later. -/
theorem step_of_loses (h : m.loses i = true) : m.step i = m.retryLater := by
  unfold loses at h
  split at h
  · rename_i e
    obtain ⟨hphase, he⟩ := Bool.and_eq_true_iff.mp h
    have hphase := of_decide_eq_true hphase
    simp only [step, hphase, answered, Except.mapError]
    split at he
    · cases he
    · rename_i hother
      split
      · rename_i hok
        cases hok
      · rename_i reason hrejected
        exact absurd (Except.error.inj hrejected) (hother reason)
      · rfl
  · simp only [step, of_decide_eq_true h, closed]
  · cases h

/-- It asks to be woken after a delay of its backoff. -/
theorem sleep_mem_of_loses (h : m.loses i = true) : .sleep m.backoff.delay ∈ (m.step i).2 := by
  rw [step_of_loses h]
  exact List.mem_append_right _ List.mem_cons_self

theorem again_backoff : m.again.1.backoff = m.backoff ∧ m.again.1.phase ≠ .backingOff := by
  rcases again_cases (m := m) with h | h
  all_goals
    rw [h]
    exact ⟨rfl, Phase.noConfusion⟩

theorem notified_backoff (n : Notification) : (m.notified n).1.backoff = m.backoff := by
  unfold notified
  cases n <;> dsimp only <;> split <;> rfl

/-- An answer that is no failure leaves the backoff alone, and what follows is no wait for it. -/
theorem answered_of_not_loses {r : Except FetchError Token} (hphase : m.phase = .authenticating)
    (h : m.loses (.answered r) = false) :
    (m.answered r).1.backoff = m.backoff ∧ (m.answered r).1.phase ≠ .backingOff := by
  cases r with
  | ok t =>
    unfold answered
    simp only [Except.mapError]
    split
    · exact ⟨rfl, Phase.noConfusion⟩
    · split <;> exact ⟨rfl, Phase.noConfusion⟩
  | error e =>
    have hrejected : ∃ reason, e.toSync = .authRejected reason := by
      simp only [loses, hphase, decide_true, Bool.true_and] at h
      split at h
      · rename_i reason he
        exact ⟨reason, he⟩
      · cases h
    obtain ⟨reason, he⟩ := hrejected
    simp only [answered, Except.mapError, he]
    exact ⟨rfl, Phase.noConfusion⟩

theorem closed_of_not_loses {e : SessionEnd} {outcome : ConnectionOutcome}
    (hphase : m.phase = .closing e) (h : m.loses (.ended outcome) = false) :
    (m.closed e outcome).1.backoff = m.backoff ∧ (m.closed e outcome).1.phase ≠ .backingOff := by
  unfold closed
  split
  · exact again_backoff
  · simp [loses, hphase] at h
  · exact ⟨rfl, Phase.noConfusion⟩
  · exact ⟨rfl, Phase.noConfusion⟩

/-- **Any other input leaves the backoff alone, or sets it back.** The manager does not begin to
wait for it. -/
theorem step_of_not_loses (h : m.loses i = false) :
    (m.step i).1.backoff = (if m.opens i then m.backoff.reset else m.backoff) ∧
      ((m.step i).1.phase = .backingOff → m.phase = .backingOff) := by
  have hstopped : ({ m with phase := .stopped } : Manager).phase ≠ .backingOff := Phase.noConfusion
  have hopened : m.opens i = true → m.phase = .streaming ∧ i = .event .connected := opens_iff.mp
  unfold step
  split
  · rename_i hphase
    obtain ⟨hbackoff, hwaits⟩ := answered_of_not_loses hphase h
    exact ⟨hbackoff, fun hp => absurd hp hwaits⟩
  · exact ⟨rfl, fun hp => absurd hp hstopped⟩
  · exact ⟨rfl, Phase.noConfusion⟩
  · exact ⟨rfl, fun hp => absurd hp hstopped⟩
  · obtain ⟨hbackoff, hwaits⟩ := again_backoff (m := m)
    exact ⟨hbackoff, fun hp => absurd hp hwaits⟩
  · exact ⟨rfl, fun hp => absurd hp hstopped⟩
  · rename_i hphase
    rw [opens, hphase]
    exact ⟨rfl, Phase.noConfusion⟩
  · rename_i n hphase
    refine ⟨notified_backoff n, fun hp => ?_⟩
    rcases notified_cases (m := m) n with hn | ⟨hn, -⟩
    · exact hn.symm.trans hp
    · cases hn.symm.trans hp
  · exact ⟨rfl, Phase.noConfusion⟩
  · exact ⟨rfl, Phase.noConfusion⟩
  · exact ⟨rfl, Phase.noConfusion⟩
  · exact ⟨rfl, id⟩
  · rename_i e outcome hphase
    obtain ⟨hbackoff, hwaits⟩ := closed_of_not_loses hphase h
    exact ⟨hbackoff, fun hp => absurd hp hwaits⟩
  · rename_i hconnected _ _ _ _ _ _
    exact ⟨(if_neg fun ho => hconnected (hopened ho).1 (hopened ho).2).symm, id⟩

/-- **The manager begins to wait at such failures, and at nothing else.** -/
theorem backingOff_step_iff (h : m.phase ≠ .backingOff) :
    (m.step i).1.phase = .backingOff ↔ m.loses i = true := by
  constructor
  · intro hwaits
    cases hloses : m.loses i with
    | true => rfl
    | false => exact absurd ((step_of_not_loses hloses).2 hwaits) h
  · intro hloses
    rw [step_of_loses hloses]
    rfl

/-! ### The waits of a run -/

/-- What a run is looked at for. -/
inductive Occurrence where
  /-- A connection was accepted. -/
  | accepted
  /-- The manager was to wait after a failure. -/
  | waited (time : Nat)
deriving DecidableEq

/-- What an input brings about, where a wait is lengthened by some jitter. -/
def occurrence? (m : Manager) (i : Input) (jitter : Nat) : Option Occurrence :=
  if m.loses i then some (.waited (m.backoff.jittered jitter))
  else if m.opens i then some .accepted else none

/-- What the inputs of a run bring about, each given with the jitter that there would be. -/
def occurrences (m : Manager) : List (Input × Nat) → List Occurrence
  | [] => []
  | (i, jitter) :: run => (m.occurrence? i jitter).toList ++ (m.step i).1.occurrences run

/-- **What an input brings about, and what becomes of the backoff.** -/
theorem occurrence?_cases (m : Manager) (i : Input) (jitter : Nat) :
    (m.occurrence? i jitter = some (.waited (m.backoff.jittered jitter)) ∧
      (m.step i).1.backoff = m.backoff.next.2) ∨
    (m.occurrence? i jitter = some .accepted ∧ (m.step i).1.backoff = m.backoff.reset) ∨
    (m.occurrence? i jitter = none ∧ (m.step i).1.backoff = m.backoff) := by
  unfold occurrence?
  cases hloses : m.loses i with
  | true =>
    refine .inl ⟨rfl, ?_⟩
    rw [step_of_loses hloses]
    rfl
  | false =>
    have hbackoff := (step_of_not_loses hloses).1
    cases hopens : m.opens i with
    | true =>
      rw [hopens, if_pos rfl] at hbackoff
      exact .inr (.inl ⟨rfl, hbackoff⟩)
    | false =>
      rw [hopens, if_neg Bool.false_ne_true] at hbackoff
      exact .inr (.inr ⟨rfl, hbackoff⟩)

theorem within_step {base max : Nat} (h : m.backoff.Within base max) (i : Input) :
    (m.step i).1.backoff.Within base max := by
  rcases m.occurrence?_cases i 0 with ⟨-, hb⟩ | ⟨-, hb⟩ | ⟨-, hb⟩
  · exact hb ▸ h.next
  · exact hb ▸ h.reset
  · exact hb ▸ h

/-- **Every wait of a run is a delay with jitter**, from the same base up to the same maximum. -/
theorem exists_jittered_of_mem {base max time : Nat} : ∀ (run : List (Input × Nat)) {m : Manager},
    m.backoff.Within base max → .waited time ∈ m.occurrences run →
    ∃ (b : Backoff) (jitter : Nat), b.Within base max ∧ time = b.jittered jitter
  | [], m, _, hmem => by cases hmem
  | (i, jitter) :: run, m, h, hmem => by
    rcases List.mem_append.mp hmem with hfirst | hrest
    · rcases m.occurrence?_cases i jitter with ⟨ho, -⟩ | ⟨ho, -⟩ | ⟨ho, -⟩
      · rw [ho] at hfirst
        obtain rfl := Occurrence.waited.inj (List.mem_singleton.mp hfirst)
        exact ⟨m.backoff, jitter, h, rfl⟩
      · rw [ho] at hfirst
        cases List.mem_singleton.mp hfirst
      · rw [ho] at hfirst
        cases hfirst
    · exact exists_jittered_of_mem run (within_step h i) hrest

/-- Of two waits the second one is no shorter. -/
def Occurrence.Grows : Occurrence → Occurrence → Prop
  | .waited time, .waited time' => time ≤ time'
  | _, _ => True

/-- **Without jitter the waits of a run grow from one accepted connection to the next.** What
carries the induction is that the last wait was no longer than the next delay. -/
theorem isChain_occurrences : ∀ (run : List (Input × Nat)) {m : Manager} {last : Occurrence},
    (∀ x ∈ run, x.2 = 0) → last.Grows (.waited m.backoff.delay) →
    (last :: m.occurrences run).IsChain Occurrence.Grows
  | [], m, last, _, _ => .singleton last
  | (i, jitter) :: run, m, last, hjitter, hlast => by
    obtain ⟨rfl, hrest⟩ := List.forall_mem_cons.mp hjitter
    unfold occurrences
    rcases m.occurrence?_cases i 0 with ⟨ho, hb⟩ | ⟨ho, hb⟩ | ⟨ho, hb⟩
    · rw [ho, Backoff.jittered_zero]
      refine .cons_cons hlast (isChain_occurrences run hrest ?_)
      rw [hb]
      exact m.backoff.delay_le_delay_next
    · rw [ho]
      refine .cons_cons ?_ (isChain_occurrences run hrest trivial)
      cases last <;> trivial
    · rw [ho]
      refine isChain_occurrences run hrest ?_
      rw [hb]
      exact hlast

end Push.Manager

theorem Config.backoffBase_pos {c : Config} (hc : c.validate = .ok ()) :
    0 < c.push.backoffBaseMs := by
  obtain ⟨-, hpositive, -⟩ := (validate_eq_ok_iff c).mp hc
  have hmem : ("streaming.backoff_base_ms", c.push.backoffBaseMs) ∈ c.positiveSettings := by
    simp [positiveSettings]
  have hne := List.find?_eq_none.mp hpositive _ hmem
  simpa [Nat.pos_iff_ne_zero] using hne

namespace Push.Manager

/-- **Every wait of every run is positive exactly if the maximum is**, and never longer than the
maximum. Without jitter a wait is no shorter than the one before it, unless a connection was
accepted in between. -/
theorem reconnects_wait_iff {c : Config} (hc : c.validate = .ok ()) {unit : Nat}
    (hunit : 0 < unit) (run : List (Input × Nat)) :
    let found := (begin (.start (c.push.backoffBaseMs * unit)
      (c.push.backoffMaxMs * unit))).1.occurrences run
    (∀ time, .waited time ∈ found →
      (0 < time ↔ 0 < c.push.backoffMaxMs) ∧ time ≤ c.push.backoffMaxMs * unit) ∧
    ((∀ x ∈ run, x.2 = 0) → ∀ before after time time',
      found = before ++ .waited time :: .waited time' :: after → time ≤ time') := by
  intro found
  have hwithin : (begin (.start (c.push.backoffBaseMs * unit)
      (c.push.backoffMaxMs * unit))).1.backoff.Within (c.push.backoffBaseMs * unit)
      (c.push.backoffMaxMs * unit) := Backoff.within_start
  constructor
  · intro time htime
    obtain ⟨b, jitter, hb, rfl⟩ := exists_jittered_of_mem run hwithin htime
    have hbase : 0 < c.push.backoffBaseMs * unit := Nat.mul_pos (Config.backoffBase_pos hc) hunit
    refine ⟨?_, Backoff.jittered_le hb⟩
    rw [Backoff.jittered_pos_iff hb hbase]
    exact Nat.mul_pos_iff_of_pos_right hunit
  · intro hjitter before after time time' hfound
    have hchain : found.IsChain Occurrence.Grows :=
      (@isChain_occurrences run _ .accepted hjitter trivial).tail
    rw [hfound] at hchain
    exact (List.isChain_cons_cons.mp hchain.right_of_append).1

/-- Two failed authentications, with the least waits there can be. -/
def twoFailures : List (Input × Nat) :=
  [(.answered (.error .transport), 0), (.elapsed, 0), (.answered (.error .transport), 0)]

/-- With the default settings the manager waits one second and then two. -/
theorem twoFailures_wait :
    let c := Config.ofKey "key"
    let found := (begin (.start (c.push.backoffBaseMs * 1)
      (c.push.backoffMaxMs * 1))).1.occurrences twoFailures
    c.validate = .ok () ∧ found = [.waited 1000, .waited 2000] ∧
      ∀ time, .waited time ∈ found → 0 < time ∧ time ≤ c.push.backoffMaxMs * 1 := by
  intro c found
  have hc : c.validate = .ok () := (Config.validate_eq_ok_iff c).mpr
    ⟨by decide +kernel, by decide +kernel, by decide +kernel, _, rfl⟩
  have hwaits := (reconnects_wait_iff hc Nat.one_pos twoFailures).1
  have hmax : 0 < c.push.backoffMaxMs := by decide
  exact ⟨hc, by decide +kernel, fun time h => ⟨(hwaits time h).1.mpr hmax, (hwaits time h).2⟩⟩

/-- With a maximum of zero, which is accepted, the manager does not wait at all. -/
theorem twoFailures_without_wait :
    let c : Config := { Config.ofKey "key" with push := { PushSettings.standard with backoffMaxMs := 0 } }
    c.validate = .ok () ∧
      (begin (.start c.push.backoffBaseMs c.push.backoffMaxMs)).1.occurrences twoFailures =
        [.waited 0, .waited 0] := by
  intro c
  exact ⟨(Config.validate_eq_ok_iff c).mpr
    ⟨by decide +kernel, by decide +kernel, by decide +kernel, _, rfl⟩, by decide +kernel⟩

end Push.Manager

end Halyard

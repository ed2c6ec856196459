/-
# The plan of a pursuit

A pursuit has two phases: so many attempts that are fetched as usual, and then so many
that go past the caches. In each phase the delays between the attempts double, and
nothing is waited for between the phases. `Pursuit.next` decides attempt by attempt,
with counters that begin anew in each phase. Here the attempts are numbered throughout:
before attempt `k` a pursuit is `Pursuit.before settings k`, and what follows that
attempt is read off `k` alone (`Pursuit.next_before`).

Attempts are counted in 32 bits, so both numbers of retries have to be smaller than
the largest such number. With the largest one a phase would have no attempts at all.

Key definitions: `OnDemandSettings.InRange`, `OnDemandSettings.attempts`,
`OnDemandSettings.pauseAfter`, `Pursuit.before`, `Pursuit.decided?`.
Key theorems: `Pursuit.next_before`, `Pursuit.start_before`.
-/
import Mathlib.Tactic.SplitIfs
import Halyard.Fetch.Pursuit
import Halyard.Proofs.Backoff

namespace Halyard

namespace OnDemandSettings

/-- Whether the attempts of both phases can be counted in 32 bits. -/
structure InRange (settings : OnDemandSettings) : Prop where
  retries : settings.retries < 0xFFFFFFFF
  bypassRetries : settings.bypassRetries < 0xFFFFFFFF

/-- How many attempts a pursuit may make in all. -/
def attempts (settings : OnDemandSettings) : Nat :=
  (settings.retries + 1) + (settings.bypassRetries + 1)

/-- The number of an attempt within its phase. -/
def indexOf (settings : OnDemandSettings) (k : Nat) : Nat :=
  if k ≤ settings.retries then k else k - (settings.retries + 1)

/-- How long is waited after attempt `k` of a pursuit before the next one. -/
def pauseAfter (settings : OnDemandSettings) (k : Nat) : Nat :=
  if k = settings.retries then 0
  else min (settings.backoffMs * Nat.pow 2 (min (settings.indexOf k) 31)) maxPursuitDelay

/-- How attempt `k` of a pursuit is to be fetched. -/
def optionsAt (settings : OnDemandSettings) (till : Option ChangeNumber) (k : Nat) : FetchOptions :=
  if k ≤ settings.retries then ⟨true, none⟩ else ⟨true, till⟩

end OnDemandSettings

namespace Pursuit

variable {settings : OnDemandSettings} {k : Nat} {result : Except SyncError Unit} {reached : Bool}

/-- A pursuit before its attempt `k`. -/
def before (settings : OnDemandSettings) (k : Nat) : Pursuit where
  bypassing := decide (settings.retries < k)
  attempts := settings.indexOf k
  backoff := ⟨settings.backoffMs, maxPursuitDelay, settings.indexOf k⟩

/-- The result of a pursuit that an attempt decides, if it decides it. -/
def decided? (result : Except SyncError Unit) (reached : Bool) : Option (Except SyncError Unit) :=
  match result with
  | .ok () => if reached then some (.ok ()) else none
  | .error e =>
    if e.retryable then if reached then some (.ok ()) else none else some (.error e)

/-- What follows an attempt that decided nothing. -/
def afterUndecided (settings : OnDemandSettings) (k : Nat) : Move :=
  if k + 1 = settings.attempts then .stop (.ok ())
  else if k = settings.retries then .fetch (before settings (k + 1))
  else .wait (settings.pauseAfter k) (before settings (k + 1))

/-! ### What an attempt decides -/

/-- An attempt after which all is well is one that reached the target. -/
theorem reached_of_decided? (h : decided? result reached = some (.ok ())) : reached = true := by
  unfold decided? at h
  cases reached with
  | true => rfl
  | false =>
    cases result with
    | ok u => cases h
    | error e => cases he : e.retryable <;> simp [he] at h

/-- A failure that trying again does not cure ends a pursuit. -/
theorem next_of_not_retryable {p : Pursuit} {e : SyncError} (he : e.retryable = false) :
    next settings p (.error e) reached = .stop (.error e) := by
  simp only [next, he, Bool.false_eq_true, if_false]

/-- After any other failure a pursuit that ends has no failure to tell. -/
theorem eq_ok_of_next_stop {p : Pursuit} {e : SyncError} {r : Except SyncError Unit}
    (he : e.retryable = true) (h : next settings p (.error e) reached = .stop r) : r = .ok () := by
  simp only [next, he, if_true, next.proceed] at h
  split at h
  · cases h
    rfl
  split at h
  · cases h
  split at h
  · cases h
    rfl
  · unfold enter at h
    split at h
    · cases h
    split at h
    · cases h
    · cases h
      rfl

/-! ### Attempts in their phases -/

theorem allowed_eq {retries : Nat} (h : retries < 0xFFFFFFFF) : allowed retries = retries + 1 := by
  have hlt : retries + 1 < Nat.pow 2 32 := Nat.add_lt_of_lt_sub h
  exact Nat.mod_eq_of_lt hlt

theorem phaseAttempts_false (h : settings.InRange) :
    phaseAttempts settings false = settings.retries + 1 :=
  allowed_eq h.retries

theorem phaseAttempts_true (h : settings.InRange) :
    phaseAttempts settings true = settings.bypassRetries + 1 :=
  allowed_eq h.bypassRetries

theorem atPhase_false : atPhase settings false = before settings 0 := by
  simp [atPhase, before, OnDemandSettings.indexOf, Backoff.start]

theorem atPhase_true : atPhase settings true = before settings (settings.retries + 1) := by
  simp [atPhase, before, OnDemandSettings.indexOf, Backoff.start]

/-- Counting on within a phase leads to the next attempt. -/
theorem before_succ (h : settings.InRange) (hk : k + 1 < settings.attempts)
    (hne : k ≠ settings.retries) :
    { before settings k with
      attempts := (before settings k).attempts + 1
      backoff := (before settings k).backoff.next.2 } = before settings (k + 1) := by
  have hretries := h.retries
  have hbypass := h.bypassRetries
  have hindex : settings.indexOf (k + 1) = settings.indexOf k + 1 := by
    unfold OnDemandSettings.indexOf
    split_ifs <;> omega
  have hcounted : settings.indexOf k + 1 ≤ Backoff.maxAttempt := by
    have hmax : Backoff.maxAttempt = 0xFFFFFFFF := rfl
    unfold OnDemandSettings.attempts at hk
    unfold OnDemandSettings.indexOf
    split_ifs <;> omega
  have hphase : (settings.retries < k) ↔ settings.retries < k + 1 := by omega
  have hbackoff : (before settings k).backoff.next.2 =
      ⟨settings.backoffMs, maxPursuitDelay, min (settings.indexOf k + 1) Backoff.maxAttempt⟩ := rfl
  rw [hbackoff, Nat.min_eq_left hcounted]
  simp only [before, hindex, hphase]

theorem delay_before (hne : k ≠ settings.retries) :
    (before settings k).backoff.next.1 = settings.pauseAfter k := by
  have hmax : (before settings k).backoff.max ≤ Duration.longest := by
    change maxPursuitDelay ≤ Duration.longest
    decide
  rw [OnDemandSettings.pauseAfter, if_neg hne]
  exact Backoff.delay_eq hmax

/-- **What follows an attempt is read off its number.** -/
theorem proceed_before (h : settings.InRange) (hk : k < settings.attempts) :
    next.proceed settings (before settings k) false = afterUndecided settings k := by
  have hlast : (before settings k).attempts + 1 <
      phaseAttempts settings (before settings k).bypassing ↔
        k ≠ settings.retries ∧ k + 1 < settings.attempts := by
    unfold OnDemandSettings.attempts at hk ⊢
    by_cases hphase : settings.retries < k
    · have hbypassing : (before settings k).bypassing = true := decide_eq_true hphase
      have hindex : (before settings k).attempts = k - (settings.retries + 1) :=
        if_neg (Nat.not_le.mpr hphase)
      rw [hbypassing, hindex, phaseAttempts_true h]
      omega
    · have hbypassing : (before settings k).bypassing = false := decide_eq_false hphase
      have hindex : (before settings k).attempts = k := if_pos (Nat.not_lt.mp hphase)
      rw [hbypassing, hindex, phaseAttempts_false h]
      omega
  unfold next.proceed afterUndecided
  rw [if_neg Bool.false_ne_true]
  by_cases hmore : k ≠ settings.retries ∧ k + 1 < settings.attempts
  · obtain ⟨hne, hless⟩ := hmore
    rw [if_pos (hlast.mpr ⟨hne, hless⟩), if_neg (Nat.ne_of_lt hless), if_neg hne,
      ← before_succ h hless hne, ← delay_before hne]
  · rw [if_neg (mt hlast.mp hmore)]
    by_cases hphase : settings.retries < k
    · have hend : k + 1 = settings.attempts := by
        have hnot := fun hless => hmore ⟨Nat.ne_of_gt hphase, hless⟩
        omega
      have hbypassing : (before settings k).bypassing = true := decide_eq_true hphase
      rw [if_pos hbypassing, if_pos hend]
    · have hbypassing : ¬ (before settings k).bypassing = true := by simpa [before] using hphase
      have hend : k = settings.retries := by
        unfold OnDemandSettings.attempts at hmore
        omega
      have hmany : k + 1 ≠ settings.attempts := by
        unfold OnDemandSettings.attempts
        omega
      have hpositive : 0 < phaseAttempts settings true := by
        rw [phaseAttempts_true h]
        omega
      rw [if_neg hbypassing, if_neg hmany, if_pos hend, enter, if_pos hpositive, atPhase_true, hend]

/-- **What follows an attempt is what it decides, or else what the plan says.** -/
theorem next_before (h : settings.InRange) (hk : k < settings.attempts)
    (result : Except SyncError Unit) (reached : Bool) :
    next settings (before settings k) result reached =
      match decided? result reached with
      | some r => .stop r
      | none => afterUndecided settings k := by
  have hproceed := proceed_before h hk
  cases result with
  | ok u =>
    cases reached with
    | true => rfl
    | false => exact hproceed
  | error e =>
    cases he : e.retryable with
    | false => simp only [next, decided?, he, Bool.false_eq_true, if_false]
    | true =>
      simp only [next, decided?, he, if_true]
      cases reached with
      | true => rfl
      | false => exact hproceed

theorem start_before (h : settings.InRange) (reached : Bool) :
    start settings reached =
      if reached then .stop (.ok ()) else .fetch (before settings 0) := by
  have hpositive : 0 < phaseAttempts settings false := by
    rw [phaseAttempts_false h]
    omega
  unfold start enter
  rw [if_pos hpositive, atPhase_false]

theorem options_before (till : Option ChangeNumber) :
    (before settings k).options till = settings.optionsAt till k := by
  unfold options before OnDemandSettings.optionsAt
  by_cases hphase : settings.retries < k
  · rw [if_pos (decide_eq_true hphase), if_neg (Nat.not_le.mpr hphase)]
  · rw [if_neg (by simpa using hphase), if_pos (Nat.not_lt.mp hphase)]
    rfl

end Pursuit

end Halyard

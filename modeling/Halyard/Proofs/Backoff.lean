/-
# The delays of a backoff

A delay is computed with numbers that stop at a bound: the count of attempts, the
factor, the product and, with jitter, the sum. None of these bounds shows. A factor
never reaches its own (`Backoff.factor_eq`), a product that does is longer than the
maximum as well (`Backoff.delay_eq`), and attempts are counted far beyond the last
doubling (`Backoff.delay_after`). So a delay depends only on how many were taken
since the last reset, by a formula without bounds.

Key definitions: `Backoff.Call`, `Backoff.after`, `Backoff.takenSinceReset`.
Key theorems: `Backoff.delay_eq`, `Backoff.attempt_after`, `Backoff.delay_after`,
`Backoff.delays_follow_formula`.
-/
import Halyard.Backoff
import Mathlib.Data.List.Induction

namespace Halyard.Backoff

variable {base max jitter : Nat} {b : Backoff}

/-! ### One delay -/

/-- The factor is a power of two, however many attempts there were. -/
theorem factor_eq (b : Backoff) : b.factor = Nat.pow 2 (min b.attempt maxDoublings) := by
  have hexponent : min b.attempt maxDoublings ≤ maxDoublings := Nat.min_le_right _ _
  have hpow : Nat.pow 2 (min b.attempt maxDoublings) ≤ Nat.pow 2 maxDoublings :=
    Nat.pow_le_pow_right (by decide) hexponent
  have hbound : Nat.pow 2 maxDoublings ≤ maxFactor := by decide
  exact Nat.min_eq_left (Nat.le_trans hpow hbound)

theorem factor_pos (b : Backoff) : 0 < b.factor := by
  rw [factor_eq]
  exact Nat.pow_pos (by decide)

theorem delay_le_max (b : Backoff) : b.delay ≤ b.max := Nat.min_le_right _ _

theorem delay_le_longest (b : Backoff) : b.delay ≤ Duration.longest :=
  Nat.le_trans (Nat.min_le_left _ _) (Nat.min_le_right _ _)

/-- **A delay is computed exactly.** A product that is too long for a time is longer than the
maximum, too, which is a time. -/
theorem delay_eq (h : b.max ≤ Duration.longest) :
    b.delay = min (b.base * Nat.pow 2 (min b.attempt maxDoublings)) b.max := by
  unfold delay Duration.times
  rw [factor_eq]
  omega

theorem delay_le_delay {c : Backoff} (hbase : b.base = c.base) (hmax : b.max = c.max)
    (hexponent : min b.attempt maxDoublings ≤ min c.attempt maxDoublings) :
    b.delay ≤ c.delay := by
  have hfactor : b.factor ≤ c.factor := by
    rw [factor_eq, factor_eq]
    exact Nat.pow_le_pow_right (by decide) hexponent
  have hproduct : b.base * b.factor ≤ c.base * c.factor :=
    Nat.mul_le_mul (Nat.le_of_eq hbase) hfactor
  unfold delay Duration.times
  omega

/-- Jitter lengthens a delay by no more than itself, and never beyond the maximum. -/
theorem jittered_bounds (b : Backoff) (jitter : Nat) :
    b.delay ≤ b.jittered jitter ∧ b.jittered jitter ≤ b.delay + jitter ∧
      b.jittered jitter ≤ b.max := by
  have hmax := b.delay_le_max
  have hlongest := b.delay_le_longest
  unfold jittered Duration.plus
  omega

/-! ### Any number of calls -/

/-- What can be asked of a backoff. -/
inductive Call where
  /-- To give a delay. -/
  | next
  /-- To start again. -/
  | reset
deriving DecidableEq

/-- The backoff after a call. -/
def call (b : Backoff) : Call → Backoff
  | .next => b.next.2
  | .reset => b.reset

/-- The backoff after several calls. -/
def after (b : Backoff) (calls : List Call) : Backoff :=
  calls.foldl call b

/-- How many delays were taken since the last reset. -/
def takenSinceReset (calls : List Call) : Nat :=
  (calls.reverse.takeWhile (· = .next)).length

theorem takenSinceReset_next (calls : List Call) :
    takenSinceReset (calls ++ [.next]) = takenSinceReset calls + 1 := by
  simp [takenSinceReset]

theorem takenSinceReset_reset (calls : List Call) : takenSinceReset (calls ++ [.reset]) = 0 := by
  simp [takenSinceReset]

theorem takenSinceReset_append (calls : List Call) : ∀ {more : List Call}, .reset ∉ more →
    takenSinceReset (calls ++ more) = takenSinceReset calls + more.length := by
  intro more
  induction more using List.reverseRecOn with
  | nil => simp
  | append_singleton more c ih =>
    intro h
    have hmore : .reset ∉ more := fun hmem => h (List.mem_append_left _ hmem)
    have hc : c = .next := by
      cases c with
      | next => rfl
      | reset => exact absurd (List.mem_append_right more List.mem_cons_self) h
    rw [hc, ← List.append_assoc, takenSinceReset_next, ih hmore, List.length_append]
    simp only [List.length_singleton]
    omega

theorem after_append (b : Backoff) (calls more : List Call) :
    b.after (calls ++ more) = (b.after calls).after more :=
  List.foldl_append

theorem after_concat (b : Backoff) (calls : List Call) (c : Call) :
    b.after (calls ++ [c]) = (b.after calls).call c :=
  List.foldl_append

theorem bounds_after (b : Backoff) (calls : List Call) :
    (b.after calls).base = b.base ∧ (b.after calls).max = b.max := by
  refine List.foldlRecOn calls call (motive := fun c => c.base = b.base ∧ c.max = b.max)
    ⟨rfl, rfl⟩ ?_
  intro c hc k _
  cases k <;> exact hc

/-- **The attempts are those since the last reset**, as far as they are counted. -/
theorem attempt_after (base max : Nat) (calls : List Call) :
    ((start base max).after calls).attempt = min (takenSinceReset calls) maxAttempt := by
  induction calls using List.reverseRecOn with
  | nil => rfl
  | append_singleton calls c ih =>
    rw [after_concat]
    cases c with
    | next =>
      have hcount : (((start base max).after calls).call .next).attempt =
          min (((start base max).after calls).attempt + 1) maxAttempt := rfl
      rw [hcount, ih, takenSinceReset_next]
      omega
    | reset =>
      rw [takenSinceReset_reset]
      rfl

/-- **A delay depends on the number of delays since the last reset only.** The count of attempts
stops long after the last doubling. -/
theorem delay_after (hmax : max ≤ Duration.longest) (calls : List Call) :
    ((start base max).after calls).delay =
      min (base * Nat.pow 2 (min (takenSinceReset calls) maxDoublings)) max := by
  have hb : ((start base max).after calls).base = base := (bounds_after _ calls).1
  have hm : ((start base max).after calls).max = max := (bounds_after _ calls).2
  have hlimit : ((start base max).after calls).max ≤ Duration.longest := by
    rw [hm]
    exact hmax
  have hcounted : min (min (takenSinceReset calls) maxAttempt) maxDoublings =
      min (takenSinceReset calls) maxDoublings := by
    have hbound : maxDoublings ≤ maxAttempt := by decide
    omega
  rw [delay_eq hlimit, attempt_after, hcounted, hb, hm]

/-- **Delays follow a formula without bounds.** After any calls the next delay is the base doubled
for every delay since the last reset, at most 31 times, and at most the maximum. It is the maximum
where that product is longer than any time. Delays grow until the next reset, and a jitter of at
most half a delay makes it at most half longer, and no longer than the maximum. -/
theorem delays_follow_formula (hmax : max ≤ Duration.longest) (calls : List Call) :
    let b := (start base max).after calls
    let product := base * Nat.pow 2 (min (takenSinceReset calls) 31)
    b.next.1 = min product max ∧
      (Duration.longest < product → b.next.1 = max) ∧
      b.next.1 ≤ max ∧
      (∀ more, .reset ∉ more → b.next.1 ≤ (b.after more).next.1) ∧
      ∀ jitter, 2 * jitter ≤ b.next.1 →
        b.next.1 ≤ b.jittered jitter ∧ 2 * b.jittered jitter ≤ 3 * b.next.1 ∧
          b.jittered jitter ≤ max := by
  intro b product
  have hdelay : b.next.1 = min product max := delay_after hmax calls
  refine ⟨hdelay, fun hlong => ?_, ?_, fun more hmore => ?_, fun jitter hjitter => ?_⟩
  · rw [hdelay]
    omega
  · rw [hdelay]
    exact Nat.min_le_right _ _
  · have hafter : b.after more = (start base max).after (calls ++ more) :=
      (after_append _ calls more).symm
    have htaken : takenSinceReset calls ≤ takenSinceReset (calls ++ more) := by
      rw [takenSinceReset_append calls hmore]
      exact Nat.le_add_right _ _
    have hattempt : b.attempt ≤ (b.after more).attempt := by
      rw [hafter, attempt_after, attempt_after]
      omega
    obtain ⟨hb, hm⟩ := bounds_after b more
    exact delay_le_delay hb.symm hm.symm (by omega)
  · obtain ⟨hlow, hhigh, hcap⟩ := b.jittered_bounds jitter
    have hb : b.max = max := (bounds_after (start base max) calls).2
    have hnext : b.next.1 = b.delay := rfl
    omega

/-- Half of the longest time is doubled twice, which is too long for a time, and with any jitter
the delay stays the longest time. -/
theorem half_doubled_twice :
    let b := (start (Nat.pow 2 63 * 1000000000) Duration.longest).after
      [.next, .next, .next, .reset, .next, .next]
    Duration.longest ≤ Duration.longest ∧ b.next.1 = Duration.longest ∧
      ∀ jitter, 2 * jitter ≤ Duration.longest → b.jittered jitter = Duration.longest := by
  intro b
  obtain ⟨-, hlong, -, -, hjitter⟩ := @delays_follow_formula (Nat.pow 2 63 * 1000000000)
    Duration.longest (Nat.le_refl _) [.next, .next, .next, .reset, .next, .next]
  have hdelay : b.next.1 = Duration.longest := hlong (by decide)
  refine ⟨Nat.le_refl _, hdelay, fun jitter h => ?_⟩
  obtain ⟨hlow, -, hhigh⟩ := hjitter jitter (hdelay.symm ▸ h)
  exact Nat.le_antisymm hhigh (hdelay ▸ hlow)

end Halyard.Backoff

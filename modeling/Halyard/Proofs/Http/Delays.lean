/-
# The delays of an exchange

A request that is repeated waits half a second first and then twice as long each
time. The delays of an exchange begin one sequence, whatever the responses are
(`Exchange.delays_resume`); how many there are is up to the responses, and a
server that is never available draws out all that are allowed
(`Exchange.delays_refusing`).

Delays are counted in 64 bits. The 57th doubled delay is the first that leaves
them (`retryDelay_eq_iff`), so the delays of an exchange are what they are meant
to be, whatever the responses, exactly if at most 56 repetitions are allowed.

Key definitions: `Exchange.refusing`.
Key theorems: `retryDelay_eq_iff`, `Exchange.exists_delays_run`,
`Exchange.delays_double_iff`.
-/
import Halyard.Http.Exchange

namespace Halyard.Http

/-- **A delay doubles for as long as it fits into 64 bits.** -/
theorem retryDelay_eq_iff {k : Nat} : retryDelay k = baseDelay * Nat.pow 2 k ↔ k < 56 := by
  have hbase : baseDelay = 500 := rfl
  have hlast : 500 * Nat.pow 2 55 < Nat.pow 2 64 := by decide
  have hfirst : Nat.pow 2 64 ≤ 500 * Nat.pow 2 56 := by decide
  unfold retryDelay
  rw [hbase]
  constructor
  · intro h
    by_cases hk : k < 56
    · exact hk
    · have hpow : Nat.pow 2 56 ≤ Nat.pow 2 k := Nat.pow_le_pow_right (by decide) (by omega)
      have hlt : 500 * Nat.pow 2 k % Nat.pow 2 64 < Nat.pow 2 64 := Nat.mod_lt _ (by decide)
      omega
  · intro hk
    have hpow : Nat.pow 2 k ≤ Nat.pow 2 55 := Nat.pow_le_pow_right (by decide) (by omega)
    exact Nat.mod_eq_of_lt (by omega)

theorem eq_of_verdict_again {limit repeated status ms : Nat}
    (h : verdict limit repeated status = .again ms) : ms = retryDelay repeated := by
  unfold verdict at h
  split at h
  · cases h
  · split at h
    · cases h
      rfl
    · cases h

namespace Exchange

/-- The delays of an exchange that goes on after some repetitions are the next ones. -/
theorem delays_resume (attempts : Attempts) (limit repeated : Nat) :
    ∃ n, n ≤ limit - repeated ∧
      (resume attempts limit repeated).delays = (List.range' repeated n).map retryDelay := by
  fun_induction resume attempts limit repeated with
  | case1 repeated hnone => exact ⟨0, Nat.zero_le _, rfl⟩
  | case2 repeated r hr haccepted => exact ⟨0, Nat.zero_le _, rfl⟩
  | case3 repeated r hr e hrejected => exact ⟨0, Nat.zero_le _, rfl⟩
  | case4 repeated r hr ms hagain rest ih =>
    obtain ⟨n, hn, hrest⟩ := ih
    have hlt := lt_of_verdict_again hagain
    refine ⟨n + 1, by omega, ?_⟩
    rw [List.range'_succ, List.map_cons, ← eq_of_verdict_again hagain, ← hrest]

/-- **The delays of an exchange are the first ones of the sequence**, and no more than allowed. -/
theorem exists_delays_run (network : Network) (limit : Nat) (r : Request) :
    ∃ n, n ≤ limit ∧ (run network limit r).delays = (List.range n).map retryDelay := by
  obtain ⟨n, hn, hdelays⟩ := delays_resume (if r.isSendable then network r else fun _ => none)
    limit 0
  exact ⟨n, hn, by rw [List.range_eq_range']; exact hdelays⟩

/-- A network in which no server is ever available. -/
def refusing : Network := fun _ _ => some ⟨503, []⟩

theorem verdict_unavailable (limit repeated : Nat) :
    verdict limit repeated 503 =
      if repeated < limit then .again (retryDelay repeated) else .rejected (.status 503 true) := by
  simp [verdict, Status.isSuccess, Status.isRetriable, Status.isServerError]

theorem delays_resume_refusing (r : Request) (limit repeated : Nat) :
    (resume (refusing r) limit repeated).delays =
      (List.range' repeated (limit - repeated)).map retryDelay := by
  fun_induction resume (refusing r) limit repeated with
  | case1 repeated hnone => cases hnone
  | case2 repeated response hr haccepted =>
    cases hr
    rw [verdict_unavailable] at haccepted
    split at haccepted <;> cases haccepted
  | case3 repeated response hr e hrejected =>
    cases hr
    have hspent : limit - repeated = 0 := by
      rw [verdict_unavailable] at hrejected
      split at hrejected
      · cases hrejected
      · omega
    rw [hspent]
    rfl
  | case4 repeated response hr ms hagain rest ih =>
    have hlt := lt_of_verdict_again hagain
    have hleft : limit - repeated = (limit - (repeated + 1)) + 1 := by omega
    rw [hleft, List.range'_succ, List.map_cons, ← eq_of_verdict_again hagain, ← ih]

theorem delays_refusing {r : Request} (hr : r.isSendable = true) (limit : Nat) :
    (run refusing limit r).delays = (List.range limit).map retryDelay := by
  rw [run, if_pos hr, delays_resume_refusing, List.range_eq_range', Nat.sub_zero]

/-- **All delays double if at most 56 repetitions are allowed, and only then.** -/
theorem delays_double_iff {r : Request} (hr : r.isSendable = true) (limit : Nat) :
    (∀ (network : Network) (k ms : Nat), (run network limit r).delays[k]? = some ms →
      ms = baseDelay * Nat.pow 2 k) ↔ limit ≤ 56 := by
  constructor
  · intro h
    by_cases hle : limit ≤ 56
    · exact hle
    · have hdelay : (run refusing limit r).delays[56]? = some (retryDelay 56) := by
        rw [delays_refusing hr, List.getElem?_map, List.getElem?_range (by omega)]
        rfl
      exact absurd (retryDelay_eq_iff.mp (h _ _ _ hdelay)) (by decide)
  · intro hle network k ms hdelay
    obtain ⟨n, hn, hdelays⟩ := exists_delays_run network limit r
    rw [hdelays, List.getElem?_map, Option.map_eq_some_iff] at hdelay
    obtain ⟨i, hi, rfl⟩ := hdelay
    obtain ⟨hlt, rfl⟩ := List.getElem?_eq_some_iff.mp hi
    rw [List.length_range] at hlt
    rw [List.getElem_range]
    exact retryDelay_eq_iff.mpr (by omega)

end Exchange

end Halyard.Http

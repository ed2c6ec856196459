/-
# Targets that are merged

Targets that wait together are merged into one, and fetches go on until the stores
reach that one. Nothing is lost by it: the stores reached a merged target exactly if
they reached each of the targets in it (`FetchTarget.reached_merge`,
`FetchTarget.reached_mergeAll`). A component that is missing asks for nothing, and hides
nothing of what another target asks for there.

A target is known by the stores that reached it (`FetchTarget.eq_of_reached`). So the
laws of merging are those of "and": it makes no difference in which order targets are
merged, how they are grouped, or how often one of them is there
(`FetchTarget.mergeAll_congr`, `FetchTarget.mergeAll_map_mergeAll`).

Key definitions: `FetchTarget.ReachedBy`, `FetchTarget.mergeAll`.
Key theorems: `FetchTarget.reached_iff`, `FetchTarget.reached_mergeAll`,
`FetchTarget.mergeAll_congr`, `FetchTarget.mergeAll_map_mergeAll`.
-/
import Halyard.Fetch.Target

namespace Halyard

namespace FetchTarget

variable {a b t : FetchTarget} {s : Stores}

/-- Both stores are at or past what is asked of them. -/
def ReachedBy (s : Stores) (t : FetchTarget) : Prop :=
  (∀ n, t.flags = some n → n ≤ s.flags.watermark) ∧
    ∀ n, t.ruleSegments = some n → n ≤ s.ruleSegments.watermark

/-! ### One component -/

theorem covered_iff {watermark : ChangeNumber} {x : Option ChangeNumber} :
    covered watermark x = true ↔ ∀ n, x = some n → n ≤ watermark := by
  cases x <;> simp [covered]

theorem covered_laterOf (watermark : ChangeNumber) (x y : Option ChangeNumber) :
    covered watermark (laterOf x y) = (covered watermark x && covered watermark y) := by
  cases x with
  | none => rfl
  | some m =>
    cases y with
    | none => simp [laterOf, covered]
    | some n =>
      have hmax : max m n ≤ watermark ↔ m ≤ watermark ∧ n ≤ watermark := Int.max_le
      rw [laterOf, covered, covered, covered, ← Bool.decide_and]
      exact decide_eq_decide.mpr hmax

theorem not_covered_below (n : ChangeNumber) : covered (n - 1) (some n) = false :=
  decide_eq_false (Int.not_le.mpr (Int.sub_lt_self n Int.zero_lt_one))

/-- What is asked for is known by the watermarks that cover it. -/
theorem eq_of_covered {x y : Option ChangeNumber}
    (h : ∀ watermark, covered watermark x = covered watermark y) : x = y := by
  cases x with
  | none =>
    cases y with
    | none => rfl
    | some n => exact Bool.noConfusion ((h (n - 1)).trans (not_covered_below n))
  | some m =>
    cases y with
    | none => exact Bool.noConfusion ((h (m - 1)).symm.trans (not_covered_below m))
    | some n =>
      have hm : n ≤ m := by simpa [covered] using (h m).symm
      have hn : m ≤ n := by simpa [covered] using h n
      rw [Int.le_antisymm hn hm]

/-- A watermark far enough for what is asked for twice. -/
theorem exists_covered (x y : Option ChangeNumber) :
    ∃ watermark, covered watermark x = true ∧ covered watermark y = true := by
  refine ⟨max (x.getD 0) (y.getD 0), ?_, ?_⟩
  · exact covered_iff.mpr fun n hn => by rw [hn]; exact Int.le_max_left _ _
  · exact covered_iff.mpr fun n hn => by rw [hn]; exact Int.le_max_right _ _

/-! ### Merging -/

/-- **Reached means that both stores are there.** -/
theorem reached_iff : t.reached s = true ↔ t.ReachedBy s := by
  rw [reached, Bool.and_eq_true, covered_iff, covered_iff]
  rfl

instance : Decidable (t.ReachedBy s) := decidable_of_iff _ reached_iff

@[simp] theorem reached_empty : empty.reached s = true := rfl

@[simp] theorem reached_merge : (a.merge b).reached s = (a.reached s && b.reached s) := by
  simp only [reached, merge, covered_laterOf]
  ac_rfl

/-- Stores with given watermarks. -/
def storesAt (flags ruleSegments : ChangeNumber) : Stores :=
  { Stores.empty with
    flags := { RuleStore.empty with watermark := flags }
    ruleSegments := { RuleStore.empty with watermark := ruleSegments } }

/-- **A target is known by the stores that reached it.** -/
theorem eq_of_reached (h : ∀ s, a.reached s = b.reached s) : a = b := by
  -- The other store is far enough for both, so that it does not matter.
  have hflags : a.flags = b.flags := by
    obtain ⟨m, ha, hb⟩ := exists_covered a.ruleSegments b.ruleSegments
    refine eq_of_covered fun n => ?_
    simpa [reached, storesAt, ha, hb] using h (storesAt n m)
  have hsegments : a.ruleSegments = b.ruleSegments := by
    obtain ⟨m, ha, hb⟩ := exists_covered a.flags b.flags
    refine eq_of_covered fun n => ?_
    simpa [reached, storesAt, ha, hb] using h (storesAt m n)
  cases a
  cases b
  cases hflags
  cases hsegments
  rfl

theorem merge_assoc (a b c : FetchTarget) : (a.merge b).merge c = a.merge (b.merge c) :=
  eq_of_reached fun s => by simp [Bool.and_assoc]

theorem merge_comm (a b : FetchTarget) : a.merge b = b.merge a :=
  eq_of_reached fun s => by simp [Bool.and_comm]

theorem merge_self (a : FetchTarget) : a.merge a = a :=
  eq_of_reached fun s => by simp

@[simp] theorem empty_merge (a : FetchTarget) : empty.merge a = a :=
  eq_of_reached fun s => by simp

@[simp] theorem merge_empty (a : FetchTarget) : a.merge empty = a :=
  eq_of_reached fun s => by simp

/-! ### Many targets -/

/-- The target that asks for what each of them asks for. -/
def mergeAll (ts : List FetchTarget) : FetchTarget :=
  ts.foldl merge empty

theorem mergeAll_cons (t : FetchTarget) (ts : List FetchTarget) :
    mergeAll (t :: ts) = ts.foldl merge t := by
  rw [mergeAll, List.foldl_cons, empty_merge]

theorem reached_foldl_merge : ∀ (ts : List FetchTarget) (t : FetchTarget),
    (ts.foldl merge t).reached s = true ↔ t.reached s = true ∧ ∀ u ∈ ts, u.reached s = true
  | [], t => by simp
  | u :: ts, t => by
    rw [List.foldl_cons, reached_foldl_merge ts, reached_merge, Bool.and_eq_true,
      List.forall_mem_cons, and_assoc]

/-- **The stores reached all that was merged exactly if they reached each of it.** -/
theorem reached_mergeAll (s : Stores) (ts : List FetchTarget) :
    (mergeAll ts).reached s = true ↔ ∀ t ∈ ts, t.reached s = true := by
  rw [mergeAll, reached_foldl_merge, and_iff_right reached_empty]

/-- **What is merged depends on which targets there are**, not on their order, nor on how often
one is there. -/
theorem mergeAll_congr {ts us : List FetchTarget} (h : ∀ t, t ∈ ts ↔ t ∈ us) :
    mergeAll ts = mergeAll us :=
  eq_of_reached fun s => by
    rw [Bool.eq_iff_iff, reached_mergeAll, reached_mergeAll]
    exact forall_congr' fun t => imp_congr_left (h t)

theorem mergeAll_map_mergeAll (gs : List (List FetchTarget)) :
    mergeAll (gs.map mergeAll) = mergeAll gs.flatten :=
  eq_of_reached fun s => by
    rw [Bool.eq_iff_iff, reached_mergeAll, reached_mergeAll, List.forall_mem_map,
      List.forall_mem_flatten]
    exact forall₂_congr fun g _ => reached_mergeAll s g

end FetchTarget

end Halyard

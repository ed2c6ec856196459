/-
# Each segment is discovered once

Segments are registered by the poll of flags, by the worker for rules and by what is
dispatched, in whatever order these get their turns. For the registry a run is a list
of calls, each with the names it gives, and each call is told which of its names are new.

What is told are the names that no call before gave, each where the call gives it first
(`Registry.getElem?_answers`). So the answers put in a row have no name twice and are what
the registry lists, in its order; no name is passed over, and what is listed once stays in
its place. What carries the induction is that a list of known names goes on without
repetition in what is new beside it (`Registry.nodup_append_fresh`).

Key definitions: `Registry.after`, `Registry.answers`.
Key theorems: `Registry.fresh_eq_eraseDups`, `Registry.nodup_append_fresh`,
`Registry.getElem?_answers`, `Registry.discovered_once`.
-/
import Halyard.Proofs.Names

namespace Halyard.Registry

variable {r : Registry} {known known' ns : List String} {n : String}

/-! ### One call -/

theorem removeAll_congr (h : ∀ n, n ∈ known ↔ n ∈ known') (ns : List String) :
    ns.removeAll known = ns.removeAll known' := by
  refine List.filter_congr fun n _ => ?_
  rw [Bool.not_inj_iff, Bool.eq_iff_iff, List.elem_iff, List.elem_iff]
  exact h n

/-- **What is new are the names that were not known, without repetitions.** -/
theorem fresh_eq_eraseDups : ∀ (ns known : List String),
    fresh known ns = (ns.removeAll known).eraseDups
  | [], known => by rw [fresh, List.nil_removeAll, List.eraseDups_nil]
  | n :: ns, known => by
    rw [fresh, List.cons_removeAll]
    by_cases h : known.contains n = true
    · rw [if_pos h, if_neg (by simpa using h), fresh_eq_eraseDups ns known]
    · have hothers : (ns.removeAll known).filter (fun m => !m == n) =
          ns.removeAll (known ++ [n]) := by
        simp only [List.removeAll, List.filter_filter]
        refine List.filter_congr fun m _ => ?_
        simp only [List.elem_eq_mem, List.mem_append, List.mem_singleton, Bool.decide_or,
          Bool.not_or, Bool.and_comm, beq_eq_decide]
      rw [if_neg h, if_pos (by simpa using h), List.eraseDups_cons, hothers,
        fresh_eq_eraseDups ns (known ++ [n])]

/-- **Known names go on without repetition in what is new beside them.** -/
theorem nodup_append_fresh : ∀ (ns : List String) {known : List String},
    known.Nodup → (known ++ fresh known ns).Nodup
  | [], known, h => by
    rw [fresh, List.append_nil]
    exact h
  | n :: ns, known, h => by
    rw [fresh]
    by_cases hn : known.contains n = true
    · rw [if_pos hn]
      exact nodup_append_fresh ns h
    · have hnew : n ∉ known := fun hmem => hn (List.contains_iff_mem.mpr hmem)
      have hlonger : (known ++ [n]).Nodup := by
        rw [List.nodup_append]
        refine ⟨h, by simp, fun a ha b hb => ?_⟩
        rw [List.mem_singleton.mp hb]
        exact fun he => hnew (he ▸ ha)
      have hrest := nodup_append_fresh ns hlonger
      rw [if_neg hn, List.append_cons]
      exact hrest

theorem names_register (ns : List String) :
    (r.register ns).1.names = r.names ++ (r.register ns).2 := rfl

/-! ### Any number of calls -/

/-- The registry after some calls, each with the names that it gives. -/
def after (r : Registry) (calls : List (List String)) : Registry :=
  calls.foldl (fun r ns => (r.register ns).1) r

/-- What the calls are told to be new, one after another. -/
def answers : Registry → List (List String) → List (List String)
  | _, [] => []
  | r, ns :: calls => (r.register ns).2 :: answers (r.register ns).1 calls

theorem after_append (calls later : List (List String)) :
    r.after (calls ++ later) = (r.after calls).after later :=
  List.foldl_append

/-- **The registry lists what it listed before, and then all that was told to be new.** -/
theorem names_after : ∀ (calls : List (List String)) (r : Registry),
    (r.after calls).names = r.names ++ (r.answers calls).flatten
  | [], r => (List.append_nil r.names).symm
  | ns :: calls, r => by
    have hrest := names_after calls (r.register ns).1
    calc ((r.register ns).1.after calls).names
        = (r.names ++ (r.register ns).2) ++ ((r.register ns).1.answers calls).flatten := hrest
      _ = r.names ++ (r.answers (ns :: calls)).flatten := by
        rw [answers, List.flatten_cons, List.append_assoc]

theorem nodup_after : ∀ (calls : List (List String)) {r : Registry},
    r.names.Nodup → (r.after calls).names.Nodup
  | [], _, h => h
  | ns :: calls, _, h => nodup_after calls (nodup_append_fresh ns h)

/-- **No name is passed over**, and none comes from elsewhere. -/
theorem contains_after : ∀ (calls : List (List String)) {r : Registry},
    (r.after calls).contains n = true ↔ r.contains n = true ∨ ∃ ns ∈ calls, n ∈ ns
  | [], r => by simp [after]
  | ns :: calls, r => by
    have hrest : ((r.register ns).1.after calls).contains n = true ↔
        (r.register ns).1.contains n = true ∨ ∃ ms ∈ calls, n ∈ ms := contains_after calls
    rw [contains_register, or_assoc] at hrest
    simp only [List.mem_cons, exists_eq_or_imp]
    exact hrest

theorem names_prefix_after (calls : List (List String)) :
    r.names <+: (r.after calls).names := by
  rw [names_after]
  exact List.prefix_append _ _

/-- **A call is told the names that were not listed and that no call before it gave**, each where
it gives it first. -/
theorem getElem?_answers : ∀ (calls : List (List String)) (r : Registry) (k : Nat),
    (r.answers calls)[k]? =
      calls[k]?.map fun ns => (ns.removeAll (r.names ++ (calls.take k).flatten)).eraseDups
  | [], _, _ => rfl
  | ns :: calls, r, 0 => by
    have hnew : (r.register ns).2 = (ns.removeAll r.names).eraseDups :=
      fresh_eq_eraseDups ns r.names
    rw [answers, List.getElem?_cons_zero, List.getElem?_cons_zero, hnew, List.take_zero,
      List.flatten_nil, List.append_nil]
    rfl
  | ns :: calls, r, k + 1 => by
    have hknown : ∀ n, n ∈ (r.register ns).1.names ++ (calls.take k).flatten ↔
        n ∈ r.names ++ ((ns :: calls).take (k + 1)).flatten := by
      intro n
      have hn : n ∈ (r.register ns).1.names ↔ n ∈ r.names ∨ n ∈ ns := by
        have h := contains_register (r := r) (n := n) ns
        rwa [contains, contains, List.contains_iff_mem, List.contains_iff_mem] at h
      rw [List.mem_append, hn, List.take_succ_cons, List.flatten_cons, List.mem_append,
        List.mem_append, or_assoc]
    rw [answers, List.getElem?_cons_succ, List.getElem?_cons_succ,
      getElem?_answers calls (r.register ns).1 k]
    refine congrArg (Option.map · calls[k]?) (funext fun ms => ?_)
    rw [removeAll_congr hknown]

/-- **Each name is discovered once.** Whatever calls are made of a registry that was empty, by
whomever and in whatever order: what they are told to be new has no name twice and is, in a row,
what the registry lists; the registry lists just the names that some call gave; after the first `k`
calls it listed a beginning of what it lists now; and the `k`-th call is told those of its names
that no call before it gave, each where it gives it first. -/
theorem discovered_once (calls : List (List String)) :
    (empty.answers calls).flatten.Nodup ∧
    (empty.after calls).names = (empty.answers calls).flatten ∧
    (∀ n, (empty.after calls).contains n = true ↔ ∃ ns ∈ calls, n ∈ ns) ∧
    (∀ k, (empty.after (calls.take k)).names <+: (empty.after calls).names) ∧
    ∀ k, (empty.answers calls)[k]? =
      calls[k]?.map fun ns : List String => (ns.removeAll (calls.take k).flatten).eraseDups := by
  have hnames : (empty.after calls).names = (empty.answers calls).flatten := names_after calls empty
  refine ⟨?_, hnames, fun n => ?_, fun k => ?_, getElem?_answers calls empty⟩
  · rw [← hnames]
    exact nodup_after calls List.nodup_nil
  · rw [contains_after]
    exact or_iff_right Bool.false_ne_true
  · have hlater : empty.after calls = (empty.after (calls.take k)).after (calls.drop k) := by
      rw [← after_append, List.take_append_drop]
    rw [hlater]
    exact names_prefix_after _

/-- Two calls that share a name: the second is told the other one only. -/
example : empty.answers [["a", "b", "a"], ["b", "c"]] = [["a", "b"], ["c"]] := by decide

end Halyard.Registry

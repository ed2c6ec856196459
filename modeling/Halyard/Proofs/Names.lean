/-
# Membership in sets of names

A set of names is a dictionary that stores nothing per name; here it is read as
a set. Every operation on sets is described by the names that belong to its
result, and the registry by the names that it contains.

Key theorems: `Names.ext`, `Names.mem_union`, `Names.mem_ofList`,
`Names.mem_toList`, `Registry.contains_register`.
-/
import Mathlib.Tactic.Tauto
import Halyard.Registry
import Halyard.Dict

namespace Halyard

namespace Names

instance : Membership String Names := ⟨fun s n => Dict.contains s n = true⟩

instance (n : String) (s : Names) : Decidable (n ∈ s) :=
  inferInstanceAs (Decidable (Dict.contains s n = true))

variable {s t : Names} {n m : String}

theorem mem_iff_get? : n ∈ s ↔ s.get? n = some () := by
  show (s.get? n).isSome = true ↔ _
  cases s.get? n <;> simp

theorem ext (h : ∀ n, n ∈ s ↔ n ∈ t) : s = t := by
  refine Dict.ext_get? fun n => Option.ext fun u => ?_
  exact mem_iff_get?.symm.trans ((h n).trans mem_iff_get?)

@[simp] theorem not_mem_empty : n ∉ empty := by
  simp [mem_iff_get?, empty]

@[simp] theorem mem_add : n ∈ s.add m ↔ n = m ∨ n ∈ s := by
  rw [mem_iff_get?, mem_iff_get?, add, Dict.get?_insert]
  by_cases h : n = m <;> simp [h]

@[simp] theorem mem_erase : n ∈ Dict.erase s m ↔ n ≠ m ∧ n ∈ s := by
  rw [mem_iff_get?, mem_iff_get?, Dict.get?_erase]
  by_cases h : n = m <;> simp [h]

@[simp] theorem mem_toList : n ∈ s.toList ↔ n ∈ s := by
  rw [mem_iff_get?, Dict.get?_eq_some_iff, toList, Dict.keys, List.mem_map]
  constructor
  · rintro ⟨e, he, rfl⟩
    exact he
  · intro h
    exact ⟨_, h, rfl⟩

theorem isEmpty_iff : s.isEmpty = true ↔ ∀ n, n ∉ s := by
  rw [isEmpty, List.isEmpty_iff]
  constructor
  · intro h n hn
    rw [mem_iff_get?, Dict.get?_eq_some_iff, h] at hn
    cases hn
  · intro h
    refine List.eq_nil_iff_forall_not_mem.mpr fun e he => h e.1 ?_
    exact mem_iff_get?.mpr ((Dict.get?_eq_some_iff s e.1 ()).mpr he)

theorem mem_foldl_add : ∀ {ns : List String} {s : Names}, n ∈ ns.foldl add s ↔ n ∈ ns ∨ n ∈ s
  | [], _ => by simp
  | m :: ns, s => by
    rw [List.foldl_cons, mem_foldl_add, mem_add, List.mem_cons]
    tauto

theorem mem_foldl_erase : ∀ {ns : List String} {s : Names},
    n ∈ ns.foldl Dict.erase s ↔ n ∉ ns ∧ n ∈ s
  | [], _ => by simp
  | m :: ns, s => by
    rw [List.foldl_cons, mem_foldl_erase, mem_erase, List.mem_cons]
    tauto

@[simp] theorem mem_union : n ∈ s.union t ↔ n ∈ s ∨ n ∈ t := by
  rw [union, mem_foldl_add, or_comm]
  exact or_congr_right mem_toList

@[simp] theorem mem_ofList {ns : List String} : n ∈ ofList ns ↔ n ∈ ns := by
  have h : ofList ns = ns.foldl add empty := rfl
  rw [h, mem_foldl_add]
  simp

end Names

namespace Registry

variable {n : String}

theorem mem_fresh : ∀ {ns known : List String}, n ∈ fresh known ns ↔ n ∈ ns ∧ n ∉ known
  | [], _ => by simp [fresh]
  | m :: ns, known => by
    rw [fresh]
    by_cases h : known.contains m = true
    · rw [if_pos h, mem_fresh]
      have hm : m ∈ known := List.contains_iff_mem.mp h
      grind
    · rw [if_neg h, List.mem_cons, mem_fresh]
      have hm : m ∉ known := fun hm => h (List.contains_iff_mem.mpr hm)
      grind

/-- Registering adds what is given and loses nothing. -/
theorem contains_register {r : Registry} (ns : List String) :
    (r.register ns).1.contains n = true ↔ r.contains n = true ∨ n ∈ ns := by
  simp only [register, contains, List.contains_iff_mem, List.mem_append, mem_fresh]
  tauto

end Registry

end Halyard

/-
# Dictionaries with text keys

A dictionary is the list of its entries in ascending order of keys, each key
once. Two dictionaries that answer every look-up alike are therefore equal
(`Dict.ext_get?`), and listing one gives its keys in order. A set of names is a
dictionary that stores nothing per name.

Key definitions: `Dict`, `Dict.get?`, `Dict.insert`, `Dict.erase`, `Names`.
Key theorems: `Dict.get?_insert`, `Dict.get?_erase`, `Dict.ext_get?`,
`Dict.ofList_entries`.
-/

namespace Halyard

/-- A finite map from text to `α`. -/
structure Dict (α : Type) where
  entries : List (String × α)
  ascending : entries.Pairwise (fun a b => a.1 < b.1)

namespace Dict

variable {α : Type}

/-- The entry list with `k` set to `v`. -/
def insertEntry (k : String) (v : α) : List (String × α) → List (String × α)
  | [] => [(k, v)]
  | (j, w) :: es =>
    if k < j then (k, v) :: (j, w) :: es
    else if k = j then (k, v) :: es
    else (j, w) :: insertEntry k v es

theorem fst_of_mem_insertEntry {k : String} {v : α} {es : List (String × α)} {e : String × α}
    (h : e ∈ insertEntry k v es) : e.1 = k ∨ e ∈ es := by
  induction es with
  | nil => simp_all [insertEntry]
  | cons d es ih =>
    obtain ⟨j, w⟩ := d
    simp only [insertEntry] at h
    split at h
    · rcases List.mem_cons.1 h with h | h
      · exact .inl (by simp [h])
      · exact .inr h
    · split at h
      · rcases List.mem_cons.1 h with h | h
        · exact .inl (by simp [h])
        · exact .inr (List.mem_cons_of_mem _ h)
      · rcases List.mem_cons.1 h with h | h
        · exact .inr (by simp [h])
        · exact (ih h).imp id (List.mem_cons_of_mem _)

theorem insertEntry_ascending (k : String) (v : α) {es : List (String × α)}
    (h : es.Pairwise fun a b => a.1 < b.1) :
    (insertEntry k v es).Pairwise fun a b => a.1 < b.1 := by
  induction es with
  | nil => simp [insertEntry]
  | cons d es ih =>
    obtain ⟨j, w⟩ := d
    have hall := List.pairwise_cons.1 h
    simp only [insertEntry]
    split
    · rename_i hlt
      refine List.pairwise_cons.2 ⟨fun e he => ?_, h⟩
      rcases List.mem_cons.1 he with he | he
      · simpa [he] using hlt
      · exact String.lt_trans hlt (hall.1 e he)
    · split
      · rename_i heq
        exact List.pairwise_cons.2 ⟨fun e he => by simpa [heq] using hall.1 e he, hall.2⟩
      · rename_i hnlt hne
        refine List.pairwise_cons.2 ⟨fun e he => ?_, ih hall.2⟩
        rcases fst_of_mem_insertEntry he with he | he
        · have hle : j ≤ k := String.not_lt.1 hnlt
          have : j < k := by
            rcases Classical.em (j < k) with h | h
            · exact h
            · exact absurd (String.le_antisymm (String.not_lt.1 h) hle) hne
          simpa [he] using this
        · exact hall.1 e he

/-- The dictionary without entries. -/
def empty : Dict α := ⟨[], .nil⟩

instance : Inhabited (Dict α) := ⟨empty⟩

/-- The value stored under `k`. -/
def get? (d : Dict α) (k : String) : Option α :=
  (d.entries.find? fun e => e.1 = k).map (·.2)

/-- Whether something is stored under `k`. -/
def contains (d : Dict α) (k : String) : Bool :=
  (d.get? k).isSome

/-- Stores `v` under `k`, in place of what was there. -/
def insert (d : Dict α) (k : String) (v : α) : Dict α :=
  ⟨insertEntry k v d.entries, insertEntry_ascending k v d.ascending⟩

/-- Removes what is stored under `k`. -/
def erase (d : Dict α) (k : String) : Dict α :=
  ⟨d.entries.filter fun e => e.1 ≠ k, d.ascending.filter _⟩

/-- The keys in ascending order. -/
def keys (d : Dict α) : List String :=
  d.entries.map (·.1)

/-- The number of entries. -/
def size (d : Dict α) : Nat :=
  d.entries.length

/-- Stores the entries of a list one after another. -/
def ofList (es : List (String × α)) : Dict α :=
  es.foldl (fun d e => d.insert e.1 e.2) empty

/-- Applies `f` to every stored value. -/
def map {β : Type} (f : α → β) (d : Dict α) : Dict β :=
  ⟨d.entries.map fun e => (e.1, f e.2), by
    refine List.pairwise_map.2 (d.ascending.imp ?_)
    intro a b h
    exact h⟩

theorem find?_insertEntry (k : String) (v : α) (n : String) {es : List (String × α)}
    (h : es.Pairwise fun a b => a.1 < b.1) :
    (insertEntry k v es).find? (fun e => e.1 = n) =
      if n = k then some (k, v) else es.find? (fun e => e.1 = n) := by
  induction es with
  | nil => by_cases hn : n = k <;> simp [insertEntry, hn, eq_comm]
  | cons d es ih =>
    obtain ⟨j, w⟩ := d
    have hall := List.pairwise_cons.1 h
    simp only [insertEntry]
    split
    · by_cases hn : n = k
      · simp [hn]
      · simp [hn, Ne.symm hn]
    · split
      · rename_i heq
        subst heq
        by_cases hn : n = k
        · simp [hn]
        · simp [hn, Ne.symm hn]
      · rename_i hne
        by_cases hj : j = n
        · subst hj
          simp [Ne.symm hne]
        · simp [hj, ih hall.2]

@[simp] theorem get?_empty (n : String) : (empty : Dict α).get? n = none := rfl

theorem get?_insert (d : Dict α) (k : String) (v : α) (n : String) :
    (d.insert k v).get? n = if n = k then some v else d.get? n := by
  simp only [get?, insert, find?_insertEntry k v n d.ascending]
  split <;> rfl

theorem get?_erase (d : Dict α) (k n : String) :
    (d.erase k).get? n = if n = k then none else d.get? n := by
  simp only [get?, erase, List.find?_filter]
  by_cases h : n = k
  · subst h
    simp
  · have : (fun e : String × α => decide (decide (e.1 ≠ k) = true ∧ decide (e.1 = n) = true)) =
        fun e => decide (e.1 = n) := by
      funext e
      by_cases he : e.1 = n <;> simp [he, h]
    simp only [this, if_neg h]

theorem get?_eq_some_iff (d : Dict α) (k : String) (v : α) :
    d.get? k = some v ↔ (k, v) ∈ d.entries := by
  obtain ⟨es, hasc⟩ := d
  simp only [get?]
  induction es with
  | nil => simp
  | cons e es ih =>
    obtain ⟨j, w⟩ := e
    have hall := List.pairwise_cons.1 hasc
    by_cases hj : j = k
    · subst hj
      have hnot : (j, v) ∉ es := fun hm => String.lt_irrefl j (hall.1 (j, v) hm)
      simp only [List.find?_cons, decide_true, Option.map_some, Option.some.injEq, List.mem_cons,
        Prod.mk.injEq, true_and, hnot, or_false]
      exact eq_comm
    · simp only [List.find?_cons, hj, decide_false, ih hall.2, List.mem_cons, Prod.mk.injEq]
      constructor
      · exact .inr
      · rintro (⟨rfl, _⟩ | h)
        · exact absurd rfl hj
        · exact h

/-- Ascending entry lists with the same members are equal. -/
theorem entries_eq_of_mem_iff : ∀ {xs ys : List (String × α)},
    xs.Pairwise (fun a b => a.1 < b.1) → ys.Pairwise (fun a b => a.1 < b.1) →
    (∀ e, e ∈ xs ↔ e ∈ ys) → xs = ys
  | [], [], _, _, _ => rfl
  | [], y :: ys, _, _, h => absurd ((h y).2 (by simp)) (by simp)
  | x :: xs, [], _, _, h => absurd ((h x).1 (by simp)) (by simp)
  | x :: xs, y :: ys, hx, hy, h => by
    have hx' := List.pairwise_cons.1 hx
    have hy' := List.pairwise_cons.1 hy
    have hxy : x = y := by
      rcases List.mem_cons.1 ((h x).1 (by simp)) with e | hm
      · exact e
      · rcases List.mem_cons.1 ((h y).2 (by simp)) with e | hm'
        · exact e.symm
        · exact absurd (hx'.1 _ hm') (String.lt_asymm (hy'.1 _ hm))
    subst hxy
    congr 1
    refine entries_eq_of_mem_iff hx'.2 hy'.2 fun e => ?_
    constructor
    · intro he
      rcases List.mem_cons.1 ((h e).1 (by simp [he])) with rfl | hm
      · exact absurd (hx'.1 _ he) (String.lt_irrefl _)
      · exact hm
    · intro he
      rcases List.mem_cons.1 ((h e).2 (by simp [he])) with rfl | hm
      · exact absurd (hy'.1 _ he) (String.lt_irrefl _)
      · exact hm

/-- A key that comes after all others is put behind them. -/
theorem insertEntry_of_gt {k : String} {v : α} : ∀ {es : List (String × α)},
    (∀ e ∈ es, e.1 < k) → insertEntry k v es = es ++ [(k, v)]
  | [], _ => rfl
  | (j, w) :: es, h => by
    have hj : j < k := h (j, w) (by simp)
    have hne : k ≠ j := fun e => String.lt_irrefl j (e ▸ hj)
    simp [insertEntry, String.lt_asymm hj, hne,
      insertEntry_of_gt (v := v) fun e he => h e (List.mem_cons_of_mem _ he)]

/-- Storing ascending entries behind those of a dictionary appends them. -/
theorem entries_foldl_insert : ∀ (es : List (String × α)) (d : Dict α),
    (d.entries ++ es).Pairwise (fun a b => a.1 < b.1) →
    (es.foldl (fun d e => d.insert e.1 e.2) d).entries = d.entries ++ es
  | [], d, _ => by simp
  | e :: es, d, h => by
    have hlt : ∀ a ∈ d.entries, a.1 < e.1 := fun a ha =>
      (List.pairwise_append.1 h).2.2 a ha e (by simp)
    have he : (d.insert e.1 e.2).entries = d.entries ++ [e] := insertEntry_of_gt hlt
    rw [List.foldl_cons, entries_foldl_insert es _ (by simpa [he] using h), he]
    simp

/-- Dictionaries with the same entries are equal. -/
theorem eq_of_entries_eq {a b : Dict α} (h : a.entries = b.entries) : a = b := by
  obtain ⟨_, _⟩ := a
  subst h
  rfl

/-- A dictionary is the one of its entries. -/
theorem ofList_entries (d : Dict α) : ofList d.entries = d :=
  eq_of_entries_eq (by
    simpa [ofList, empty] using
      entries_foldl_insert d.entries empty (by simpa [empty] using d.ascending))

/-- Dictionaries that answer alike are equal. -/
theorem ext_get? {a b : Dict α} (h : ∀ k, a.get? k = b.get? k) : a = b :=
  eq_of_entries_eq (entries_eq_of_mem_iff a.ascending b.ascending fun e => by
    obtain ⟨k, v⟩ := e
    rw [← get?_eq_some_iff, ← get?_eq_some_iff, h k])

end Dict

/-- A set of names. -/
abbrev Names := Dict Unit

namespace Names

/-- The set without names. -/
def empty : Names := Dict.empty

/-- The set of the names in a list. -/
def ofList (ns : List String) : Names :=
  ns.foldl (fun s n => s.insert n ()) empty

/-- Adds a name. -/
def add (s : Names) (n : String) : Names := s.insert n ()

/-- The names of both sets. -/
def union (s t : Names) : Names :=
  t.keys.foldl add s

/-- The names in ascending order. -/
def toList (s : Names) : List String := s.keys

/-- Whether the set has no names. -/
def isEmpty (s : Names) : Bool := s.entries.isEmpty

end Names

end Halyard

/-
# Reading back what was written

What a record reads from a JSON value when the value is one that was written: an
object that has each of the fields once. Then every field is found where it was put
(`Value.record?_fields`), also when fields follow that the record does not know
(`Value.fieldSlots?_append`), and a slot gives back the value that was written
into it. In the other direction, what was read from a slot or a list was read from
some value (`Slot.of_optionalDefault?`, `Value.of_mem_list?`), so that whatever all
readable values have in common holds of it.

Key theorems: `Value.record?_fields`, `Value.fieldSlots?_append`,
`Slot.optionalDefault?_optionJson`, `Value.list?_map`, `Value.dictionary?_map`,
`Names.ofJson?_stringsJson`.
-/
import Halyard.Rule.Json

namespace Halyard

/-! ### Parts that are read one by one -/

theorem mapM_map_eq_some {α β : Type} (write : α → β) (read : β → Option α) :
    ∀ {as : List α}, (∀ a ∈ as, read (write a) = some a) → (as.map write).mapM read = some as
  | [], _ => rfl
  | a :: as, h => by
    have hhead : read (write a) = some a := h a List.mem_cons_self
    have htail : (as.map write).mapM read = some as :=
      mapM_map_eq_some write read fun b hb => h b (List.mem_cons_of_mem _ hb)
    rw [List.map_cons, List.mapM_cons, hhead, htail]
    rfl

theorem exists_of_mem_mapM {α β : Type} {read : β → Option α} {a : α} : ∀ {bs : List β}
    {as : List α}, bs.mapM read = some as → a ∈ as → ∃ b ∈ bs, read b = some a
  | [], as, h, ha => by
    obtain rfl : [] = as := Option.some.inj h
    cases ha
  | b :: bs, as, h, ha => by
    rw [List.mapM_cons] at h
    obtain ⟨head, hhead, h'⟩ := Option.bind_eq_some_iff.mp h
    obtain ⟨tail, htail, h''⟩ := Option.bind_eq_some_iff.mp h'
    obtain rfl : head :: tail = as := Option.some.inj h''
    rcases List.mem_cons.mp ha with rfl | ha
    · exact ⟨b, List.mem_cons_self, hhead⟩
    · obtain ⟨c, hc, hread⟩ := exists_of_mem_mapM htail ha
      exact ⟨c, List.mem_cons_of_mem _ hc, hread⟩

/-- A part is read, and then what follows from it. -/
theorem bind_of_read {α β : Type} {x : Option α} {a : α} {next : α → Option β} {y : Option β}
    (hread : x = some a) (hnext : next a = y) : x.bind next = y := by
  rw [hread, Option.bind_some, hnext]

namespace Json

/-! ### The fields of an object -/

namespace Value

variable {fields rest : List (String × Value)} {k : String} {v : Value}

theorem slotOf?_of_mem (hdistinct : fields.Pairwise fun a b => a.1 ≠ b.1)
    (hmem : (k, v) ∈ fields) : slotOf? fields [k] = some (.given v) := by
  have hfilter : fields.filter (fun f => [k].contains f.1) = [(k, v)] := by
    induction fields with
    | nil => cases hmem
    | cons f fs ih =>
      obtain ⟨hhead, htail⟩ := List.pairwise_cons.mp hdistinct
      rcases List.mem_cons.mp hmem with rfl | hmem
      · have hrest : fs.filter (fun f => [k].contains f.1) = [] := by
          refine List.filter_eq_nil_iff.mpr fun g hg => ?_
          simpa using (hhead g hg).symm
        rw [List.filter_cons_of_pos (by simp), hrest]
      · have hne : f.1 ≠ k := hhead (k, v) hmem
        rw [List.filter_cons_of_neg (by simpa using hne), ih htail hmem]
  unfold slotOf?
  rw [hfilter]

theorem slotOf?_append (hrest : ∀ f ∈ rest, f.1 ≠ k) :
    slotOf? (fields ++ rest) [k] = slotOf? fields [k] := by
  have hnone : rest.filter (fun f => [k].contains f.1) = [] :=
    List.filter_eq_nil_iff.mpr fun f hf => by simpa using hrest f hf
  unfold slotOf?
  rw [List.filter_append, hnone, List.append_nil]

/-- The slots of an object in which each known field is written once, before others. -/
theorem fieldSlots?_append (fields : List (String × Value)) (hnames : (fields.map (·.1)).Nodup)
    (hrest : ∀ f ∈ rest, f.1 ∉ fields.map (·.1)) :
    fieldSlots? ((fields.map (·.1)).map fun name => [name]) (.object (fields ++ rest)) =
      some (fields.map fun f => .given f.2) := by
  have hdistinct : fields.Pairwise fun a b => a.1 ≠ b.1 := List.pairwise_map.mp hnames
  have hslot : ∀ f ∈ fields, slotOf? (fields ++ rest) [f.1] = some (.given f.2) := by
    intro f hf
    have hother : ∀ g ∈ rest, g.1 ≠ f.1 := by
      intro g hg heq
      exact hrest g hg (heq ▸ List.mem_map_of_mem hf)
    rw [slotOf?_append hother]
    exact slotOf?_of_mem hdistinct hf
  have hslots : ∀ {fs : List (String × Value)}, (∀ f ∈ fs, f ∈ fields) →
      ((fs.map (·.1)).map fun name => [name]).mapM (slotOf? (fields ++ rest)) =
        some (fs.map fun f => .given f.2) := by
    intro fs hfs
    induction fs with
    | nil => rfl
    | cons f fs ih =>
      have hhead := hslot f (hfs f List.mem_cons_self)
      have htail := ih fun g hg => hfs g (List.mem_cons_of_mem _ hg)
      rw [List.map_cons, List.map_cons, List.mapM_cons, hhead, htail]
      rfl
  exact hslots fun f hf => hf

/-- **The slots of a record that was written field by field.** -/
theorem record?_fields (hnames : (fields.map (·.1)).Nodup) :
    record? ((fields.map (·.1)).map fun name => [name]) (.object fields) =
      some (fields.map fun f => .given f.2) := by
  have hslots : fieldSlots? ((fields.map (·.1)).map fun name => [name])
      (.object (fields ++ [])) = some (fields.map fun f => .given f.2) :=
    fieldSlots?_append fields hnames fun f hf => by cases hf
  rw [List.append_nil] at hslots
  exact hslots

end Value

/-! ### The values of fields -/

namespace Slot

variable {α : Type} {write : α → Value} {read : Value → Option α}

/-- An optional field gives back what the value that was written is read as, if that value is
never null. -/
theorem optionalDefault?_map {γ : Type} {g : α → γ} {r : Value → Option γ} {o : Option α}
    (hnull : ∀ a, (write a).isNull = false) (hread : ∀ a, o = some a → r (write a) = some (g a)) :
    (Slot.given (optionJson write o)).optionalDefault? r = some (o.map g) := by
  cases o with
  | none => rfl
  | some a =>
    have hgiven : (Slot.given (write a)).optionalDefault? r =
        if (write a).isNull then some none else (r (write a)).map some := rfl
    have hne : ¬ (write a).isNull = true := Bool.eq_false_iff.mp (hnull a)
    rw [optionJson, hgiven, if_neg hne, hread a rfl]
    rfl

theorem optionalDefault?_optionJson {o : Option α} (hnull : ∀ a, (write a).isNull = false)
    (hread : ∀ a, o = some a → read (write a) = some a) :
    (Slot.given (optionJson write o)).optionalDefault? read = some o := by
  have h := optionalDefault?_map (g := id) hnull hread
  rw [Option.map_id] at h
  exact h

theorem of_required? {s : Slot} {a : α} (h : s.required? read = some a) :
    ∃ v, read v = some a := by
  cases s with
  | given v => exact ⟨v, h⟩
  | _ => cases h

theorem of_withDefault? {s : Slot} {a default : α} (h : s.withDefault? read default = some a) :
    a = default ∨ ∃ v, read v = some a := by
  cases s with
  | given v => exact .inr ⟨v, h⟩
  | _ => exact .inl (Option.some.inj h).symm

theorem of_optionalDefault? {s : Slot} {a : α} (h : s.optionalDefault? read = some (some a)) :
    ∃ v, read v = some a := by
  cases s with
  | given v =>
    have hgiven : (if v.isNull then some none else (read v).map some) = some (some a) := h
    split at hgiven
    · cases hgiven
    · obtain ⟨b, hb, hsome⟩ := Option.map_eq_some_iff.mp hgiven
      obtain rfl := Option.some.inj hsome
      exact ⟨v, hb⟩
  | absent => cases h
  | cutOff => cases h

end Slot

namespace Value

variable {α : Type} {write : α → Value} {read : Value → Option α}

theorem list?_map {as : List α} (h : ∀ a ∈ as, read (write a) = some a) :
    list? read (.array (as.map write)) = some as :=
  mapM_map_eq_some write read h

theorem list?_stringsJson (ss : List String) : list? string? (stringsJson ss) = some ss :=
  list?_map fun _ _ => rfl

theorem of_mem_list? {v : Value} {as : List α} {a : α} (h : list? read v = some as)
    (ha : a ∈ as) : ∃ u, read u = some a := by
  unfold list? at h
  split at h
  · obtain ⟨u, -, hu⟩ := exists_of_mem_mapM h ha
    exact ⟨u, hu⟩
  · obtain rfl := Option.some.inj h
    cases ha
  · cases h

theorem dictionary?_map {d : Dict α} (h : ∀ a, read (write a) = some a) :
    dictionary? read (.object (d.map write).entries) = some d.entries := by
  have hentry : ∀ e ∈ d.entries, ((read (write e.2)).map fun a => (e.1, a)) = some e := by
    intro e _
    rw [h]
    rfl
  exact mapM_map_eq_some (fun e : String × α => (e.1, write e.2))
    (fun f => (read f.2).map (f.1, ·)) hentry

theorem of_mem_withDefault? {s : Slot} {as : List α} {a : α}
    (h : s.withDefault? (list? read) [] = some as) (ha : a ∈ as) : ∃ u, read u = some a := by
  rcases Slot.of_withDefault? h with rfl | ⟨v, hv⟩
  · cases ha
  · exact of_mem_list? hv ha

/-! ### Numbers -/

/-- Whether a number fits into a signed integer of some bits. -/
def FitsSigned (bits : Nat) (i : Int) : Prop :=
  -(Nat.pow 2 (bits - 1) : Int) ≤ i ∧ i ≤ Nat.pow 2 (bits - 1) - 1

/-- Whether a number fits into an unsigned integer of some bits. -/
def FitsUnsigned (bits n : Nat) : Prop :=
  n < Nat.pow 2 bits

instance {bits : Nat} {i : Int} : Decidable (FitsSigned bits i) :=
  inferInstanceAs (Decidable (_ ∧ _))

instance {bits n : Nat} : Decidable (FitsUnsigned bits n) :=
  inferInstanceAs (Decidable (_ < _))

theorem intIn?_int {low high i : Int} (h : low ≤ i ∧ i ≤ high) :
    intIn? low high (.int i) = some i := by
  have hrange : (decide (low ≤ i) && decide (i ≤ high)) = true := by simpa using h
  exact if_pos hrange

theorem of_intIn? {low high i : Int} {v : Value} (h : intIn? low high v = some i) :
    low ≤ i ∧ i ≤ high := by
  have hbind : ∀ x : Option Int, (x.bind fun j =>
      if (decide (low ≤ j) && decide (j ≤ high)) = true then some j else none) = some i →
      low ≤ i ∧ i ≤ high := by
    intro x hx
    obtain ⟨j, -, hj⟩ := Option.bind_eq_some_iff.mp hx
    split at hj
    · rename_i hrange
      obtain rfl := Option.some.inj hj
      simpa using hrange
    · cases hj
  cases v with
  | int j => exact hbind (some j) h
  | plain s => exact hbind _ h
  | _ => cases h

theorem signed?_int {bits : Nat} {i : Int} (h : FitsSigned bits i) :
    signed? bits (.int i) = some i :=
  intIn?_int h

theorem of_signed? {bits : Nat} {i : Int} {v : Value} (h : signed? bits v = some i) :
    FitsSigned bits i :=
  of_intIn? h

theorem unsigned?_natJson {bits n : Nat} (h : FitsUnsigned bits n) :
    unsigned? bits (natJson n) = some n := by
  have hrange : (0 : Int) ≤ n ∧ (n : Int) ≤ (Nat.pow 2 bits : Int) - 1 := by
    unfold FitsUnsigned at h
    omega
  unfold unsigned? natJson
  rw [intIn?_int hrange]
  rfl

theorem of_unsigned? {bits n : Nat} {v : Value} (h : unsigned? bits v = some n) :
    FitsUnsigned bits n := by
  obtain ⟨i, hi, rfl⟩ := Option.map_eq_some_iff.mp h
  obtain ⟨hlow, hhigh⟩ := of_intIn? hi
  unfold FitsUnsigned
  omega

end Value

end Json

/-! ### Dictionaries and sets of names -/

theorem Dict.get?_ofList_eq_none {α : Type} {k : String} {es : List (String × α)}
    (h : ∀ e ∈ es, e.1 ≠ k) : (Dict.ofList es).get? k = none := by
  refine List.foldlRecOn (motive := fun d : Dict α => d.get? k = none) es _ rfl ?_
  intro d hd e he
  rw [Dict.get?_insert, if_neg (h e he).symm]
  exact hd

theorem Names.ofList_toList (s : Names) : Names.ofList s.toList = s := by
  have hfold : Names.ofList s.toList = Dict.ofList s.entries := List.foldl_map
  exact hfold.trans s.ofList_entries

theorem Names.ofJson?_stringsJson (s : Names) :
    Names.ofJson? (stringsJson s.toList) = some s := by
  unfold Names.ofJson?
  rw [Json.Value.list?_stringsJson, Option.map_some, Names.ofList_toList]

end Halyard

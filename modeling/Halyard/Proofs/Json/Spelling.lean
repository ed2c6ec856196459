/-
# What does not depend on how an object is spelled

The fields of an object may come in any order: a record finds the same in its
slots (`Value.fieldSlots?_perm`), and the object is readable or not
(`Value.readableFields_perm`).

An integer may have any number of digits. A field of a bounded type takes the
integers of its range and fails at all others (`Value.intIn?_found`). The ones
that no 64 bits hold are kept as doubles or, if they are too large for that, as
nothing at all; zero with a sign is kept as a double too. A field for integers
takes none of these.

Key definitions: `Numeral.Whole`, `Numeral.integer`, `Numeral.Within`,
`Numeral.Long`, `Numeral.Byte`, `Numeral.found`, `Slot.ofOption`.
Key theorems: `Value.intIn?_found`, `Value.signed?_found`,
`Value.unsigned?_found`, `Slot.optionalDefault?_ofOption`,
`Value.fieldSlots?_perm`, `Value.readableFields_perm`.
-/
import Halyard.Json.Reader
import Halyard.Proofs.Json.Records

namespace Halyard.Json

/-! ### Integers -/

namespace Numeral

variable {n : Numeral} {low high : Int}

/-- The numeral has digits only, and perhaps a sign. -/
structure Whole (n : Numeral) : Prop where
  fraction : n.fraction = none
  exponent : n.exponent = none

/-- The integer that digits and sign spell. -/
def integer (n : Numeral) : Int :=
  if n.negative then -(n.wholeValue : Int) else n.wholeValue

/-- The numeral is zero with a sign. -/
def MinusZero (n : Numeral) : Prop :=
  n.negative = true ∧ n.wholeValue = 0

/-- The numeral spells an integer from `low` to `high`. Zero is to have no sign. -/
def Within (low high : Int) (n : Numeral) : Prop :=
  ¬ n.MinusZero ∧ low ≤ n.integer ∧ n.integer ≤ high

/-- The numeral spells a signed integer of 64 bits. -/
def Long (n : Numeral) : Prop :=
  n.Within (-(Nat.pow 2 63 : Int)) (Nat.pow 2 63 - 1)

/-- The numeral spells an unsigned integer of 8 bits. -/
def Byte (n : Numeral) : Prop :=
  n.Within 0 255

instance : Decidable n.MinusZero :=
  inferInstanceAs (Decidable (_ ∧ _))

instance : Decidable (n.Within low high) :=
  inferInstanceAs (Decidable (_ ∧ _))

instance : Decidable n.Long :=
  inferInstanceAs (Decidable (n.Within _ _))

instance : Decidable n.Byte :=
  inferInstanceAs (Decidable (n.Within _ _))

/-- What a reader of text finds where the numeral stands. -/
def found (n : Numeral) : Value :=
  n.value?.getD .unreadable

/-- The integer fits into 64 bits, signed if it is negative. -/
def Kept (n : Numeral) : Prop :=
  n.Within (-(Nat.pow 2 63 : Int)) (Nat.pow 2 64 - 1)

theorem Within.kept (h : n.Within low high) (hlow : -(Nat.pow 2 63 : Int) ≤ low)
    (hhigh : high < Nat.pow 2 64) : n.Kept :=
  ⟨h.1, Int.le_trans hlow h.2.1, by have := h.2.2; omega⟩

/-- An integer that fits into 64 bits is found as such. -/
theorem found_of_kept (hn : n.Whole) (h : n.Kept) : n.found = .int n.integer := by
  obtain ⟨hzero, hlow, hhigh⟩ := h
  unfold integer at *
  unfold found value?
  by_cases hneg : n.negative = true
  · have hne : n.wholeValue ≠ 0 := fun h => hzero ⟨hneg, h⟩
    have hle : n.wholeValue ≤ Nat.pow 2 63 := by
      rw [if_pos hneg] at hlow
      omega
    simp [hn.fraction, hn.exponent, hneg, hne, hle]
  · have hlt : n.wholeValue < Nat.pow 2 64 := by
      rw [if_neg hneg] at hhigh
      omega
    simp [hn.fraction, hn.exponent, hneg, hlt]

/-- Any other integer is found as something that is none. -/
theorem found_of_not_kept (h : ¬ n.Kept) : n.found = .unreadable ∨ ∃ d, n.found = .real d := by
  have hvalue : n.value? = n.significand.toFloat?.map fun f =>
      .real (shortest (if n.negative then -f else f)) := by
    unfold Kept Within integer at h
    unfold value?
    by_cases hneg : n.negative = true
    · rw [if_pos hneg] at h
      by_cases hzero : n.wholeValue = 0
      · simp [hneg, hzero]
      · have hgt : ¬ n.wholeValue ≤ Nat.pow 2 63 := fun hle =>
          h ⟨fun hminus => hzero hminus.2, by omega, by omega⟩
        simp [hneg, hgt]
    · rw [if_neg hneg] at h
      have hge : ¬ n.wholeValue < Nat.pow 2 64 := fun hlt =>
        h ⟨fun hminus => hneg hminus.1, by omega, by omega⟩
      simp [hneg, hge]
  unfold found
  rw [hvalue]
  cases n.significand.toFloat? with
  | none => exact .inl rfl
  | some f => exact .inr ⟨_, rfl⟩

theorem readable_found_of_kept (hn : n.Whole) (h : n.Kept) : n.found.readable = true := by
  rw [found_of_kept hn h]
  rfl

theorem isNull_found : n.found.isNull = false := by
  unfold found value?
  split
  · rfl
  · split
    · rfl
    · cases n.significand.toFloat? <;> rfl

end Numeral

namespace Value

variable {n : Numeral} {low high : Int}

/-- **A field for the integers of a range takes these and no other.** -/
theorem intIn?_found (hn : n.Whole) (hlow : -(Nat.pow 2 63 : Int) ≤ low)
    (hhigh : high < Nat.pow 2 64) :
    intIn? low high n.found = if n.Within low high then some n.integer else none := by
  by_cases hin : n.Within low high
  · rw [if_pos hin, Numeral.found_of_kept hn (hin.kept hlow hhigh), intIn?_int hin.2]
  · rw [if_neg hin]
    by_cases hkept : n.Kept
    · have hout : ¬ (decide (low ≤ n.integer) && decide (n.integer ≤ high)) = true := by
        simpa using fun hle hle' => hin ⟨hkept.1, hle, hle'⟩
      rw [Numeral.found_of_kept hn hkept]
      exact if_neg hout
    · rcases Numeral.found_of_not_kept hkept with h | ⟨d, h⟩
      all_goals
        rw [h]
        rfl

theorem signed?_found (hn : n.Whole) :
    signed? 64 n.found = if n.Long then some n.integer else none :=
  intIn?_found hn (by decide) (by decide)

theorem unsigned?_found (hn : n.Whole) :
    unsigned? 8 n.found = if n.Byte then some n.integer.toNat else none := by
  have h : unsigned? 8 n.found = (intIn? 0 255 n.found).map Int.toNat := rfl
  rw [h, intIn?_found hn (by decide) (by decide), apply_ite (Option.map Int.toNat)]
  rfl

end Value

namespace Slot

variable {α β : Type}

/-- The slot of a field that is written if there is something to write. -/
def ofOption (v : Option Value) : Slot :=
  v.elim .absent .given

theorem optionalDefault?_ofOption {write : α → Value} {read : Value → Option β} {good : α → Prop}
    [DecidablePred good] {value : α → β} {o : Option α} (hnull : ∀ a, (write a).isNull = false)
    (hread : ∀ a ∈ o, read (write a) = if good a then some (value a) else none) :
    (ofOption (o.map write)).optionalDefault? read =
      if ∀ a ∈ o, good a then some (o.map value) else none := by
  cases o with
  | none => exact (if_pos (by simp)).symm
  | some a =>
    have hgiven : (ofOption ((some a).map write)).optionalDefault? read =
        if (write a).isNull then some none else (read (write a)).map some := rfl
    have hne : ¬ (write a).isNull = true := Bool.eq_false_iff.mp (hnull a)
    rw [hgiven, if_neg hne, hread a rfl]
    by_cases hgood : good a
    · simp [hgood]
    · simp [hgood]

end Slot

/-! ### The order of fields -/

namespace Value

variable {fields fields' : List (String × Value)}

theorem slotOf?_perm (h : fields.Perm fields') (names : List String) :
    slotOf? fields names = slotOf? fields' names := by
  have hfound := h.filter fun f => names.contains f.1
  unfold slotOf?
  generalize fields.filter (fun f => names.contains f.1) = found at hfound ⊢
  generalize fields'.filter (fun f => names.contains f.1) = found' at hfound ⊢
  match found', hfound with
  | [], hfound => rw [hfound.eq_nil]
  | [f], hfound => rw [List.perm_singleton.mp hfound]
  | _ :: _ :: _, hfound =>
    -- there are as many on the other side, so the field is written twice there too
    have hlength := hfound.length_eq
    match found, hlength with
    | _ :: _ :: _, _ => rfl

/-- **What a record finds in its slots does not depend on the order of the fields.** -/
theorem fieldSlots?_perm (h : fields.Perm fields') (names : List (List String)) :
    fieldSlots? names (.object fields) = fieldSlots? names (.object fields') := by
  have hslots : slotOf? fields = slotOf? fields' := funext (slotOf?_perm h)
  exact congrArg names.mapM hslots

theorem readableFields_eq_all (fields : List (String × Value)) :
    readableFields fields = fields.all fun f => f.2.readable := by
  induction fields with
  | nil => rfl
  | cons f fs ih => rw [readableFields, ih, List.all_cons]

theorem readableFields_perm (h : fields.Perm fields') :
    readableFields fields = readableFields fields' := by
  rw [readableFields_eq_all, readableFields_eq_all]
  exact h.all_eq

end Value

end Halyard.Json

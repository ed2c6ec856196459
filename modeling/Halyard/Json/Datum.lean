/-
# JSON data

What is kept of a JSON value that nobody interprets. Its parts all denote
something, and each field of an object is there once, in ascending order, so
that data which mean the same are equal.

Key definitions: `Datum`, `Datum.ofValue?`.
Key theorems: `Value.distinct_of_tidy`, `Datum.ofValue?_value`.
-/
import Halyard.Json.Value

namespace Halyard.Json

namespace Value

mutual

/-- Whether a value is a datum: all parts denote something, and fields ascend. -/
def tidy : Value → Bool
  | .unreadable | .plain _ => false
  | .array items => tidyItems items
  | .object fields => tidyFields fields
  | _ => true

/-- `tidy` for each item. -/
def tidyItems : List Value → Bool
  | [] => true
  | v :: vs => v.tidy && tidyItems vs

/-- `tidy` for the value of each field, and whether the names ascend. -/
def tidyFields : List (String × Value) → Bool
  | [] => true
  | (k, v) :: fs => v.tidy && fs.all (fun f => k < f.1) && tidyFields fs

end

theorem pairwise_of_tidyFields : ∀ {fs : List (String × Value)}, tidyFields fs = true →
    fs.Pairwise fun a b => a.1 < b.1
  | [], _ => .nil
  | (k, v) :: fs, h => by
    simp only [tidyFields, Bool.and_eq_true, List.all_eq_true, decide_eq_true_eq] at h
    exact List.pairwise_cons.2 ⟨fun e he => h.1.2 e he, pairwise_of_tidyFields h.2⟩

mutual

/-- A datum has each field once already. -/
theorem distinct_of_tidy : ∀ (v : Value), v.tidy = true → v.distinct = v
  | .array items, h => by simp [distinct, distinctItems_of_tidy items (by simpa [tidy] using h)]
  | .object fields, h => by
    have h : tidyFields fields = true := by simpa [tidy] using h
    rw [distinct, distinctFields_of_tidy fields h]
    exact congrArg (fun d : Dict Value => object d.entries)
      (Dict.ofList_entries ⟨fields, pairwise_of_tidyFields h⟩)
  | .null, _ => by simp [distinct]
  | .bool _, _ => by simp [distinct]
  | .int _, _ => by simp [distinct]
  | .real _, _ => by simp [distinct]
  | .string _, _ => by simp [distinct]
  | .plain _, _ => by simp [distinct]
  | .unreadable, _ => by simp [distinct]

theorem distinctItems_of_tidy : ∀ (vs : List Value), tidyItems vs = true → distinctItems vs = vs
  | [], _ => rfl
  | v :: vs, h => by
    simp only [tidyItems, Bool.and_eq_true] at h
    simp [distinctItems, distinct_of_tidy v h.1, distinctItems_of_tidy vs h.2]

theorem distinctFields_of_tidy : ∀ (fs : List (String × Value)), tidyFields fs = true →
    distinctFields fs = fs
  | [], _ => rfl
  | (k, v) :: fs, h => by
    simp only [tidyFields, Bool.and_eq_true] at h
    simp [distinctFields, distinct_of_tidy v h.1.1, distinctFields_of_tidy fs h.2]

end

mutual

/-- All parts of a datum denote something. -/
theorem readable_of_tidy : ∀ (v : Value), v.tidy = true → v.readable = true
  | .array items, h => by
    simp [readable, readableItems_of_tidy items (by simpa [tidy] using h)]
  | .object fields, h => by
    simp [readable, readableFields_of_tidy fields (by simpa [tidy] using h)]
  | .null, _ | .bool _, _ | .int _, _ | .real _, _ | .string _, _ | .plain _, _ => by
    simp [readable]
  | .unreadable, h => by simp [tidy] at h

theorem readableItems_of_tidy : ∀ (vs : List Value), tidyItems vs = true →
    readableItems vs = true
  | [], _ => rfl
  | v :: vs, h => by
    simp only [tidyItems, Bool.and_eq_true] at h
    simp [readableItems, readable_of_tidy v h.1, readableItems_of_tidy vs h.2]

theorem readableFields_of_tidy : ∀ (fs : List (String × Value)), tidyFields fs = true →
    readableFields fs = true
  | [], _ => rfl
  | (k, v) :: fs, h => by
    simp only [tidyFields, Bool.and_eq_true] at h
    simp [readableFields, readable_of_tidy v h.1.1, readableFields_of_tidy fs h.2]

end

end Value

/-- A value that is kept as it is. -/
structure Datum where
  value : Value
  tidy : value.tidy = true

namespace Datum

/-- The datum that a value writes, if all its parts denote something, also those that
later fields of the same name replace. -/
def ofValue? (v : Value) : Option Datum :=
  if h : v.readable = true ∧ v.distinct.tidy = true then some ⟨v.distinct, h.2⟩ else none

/-- A datum is read back from its own value. -/
theorem ofValue?_value (d : Datum) : ofValue? d.value = some d := by
  obtain ⟨v, h⟩ := d
  simp [ofValue?, Value.distinct_of_tidy v h, Value.readable_of_tidy v h, h]

/-- The field of an object. -/
def field? (name : String) (d : Datum) : Option Value :=
  match d.value with
  | .object fields => (fields.find? fun f => f.1 = name).map (·.2)
  | _ => none

end Datum

end Halyard.Json

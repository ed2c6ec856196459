/-
# Trimming and small letters

What trimming and lower-casing do not see: the white space around a text, and
which case its ASCII letters are in. Both are read off what they ask of single
characters, and nothing that they ask tells an ASCII letter from its small form:
neither is white space, and both have a case and are no mark inside a word. A
text of ASCII characters is lower-cased letter by letter.

Key theorems: `trim_append_append`, `trim_map_toLower`, `lowercase_map_toLower`,
`lowercase_of_ascii`.
-/
import Mathlib.Data.List.TakeWhile
import Halyard.Text.Blank
import Halyard.Text.Lowercase

namespace Halyard.Text

variable {c d : Char} {s : List Char}

/-! ### Characters -/

theorem isAscii_iff : isAscii c = true ↔ c.toNat < 0x80 := by
  simp [isAscii]

/-- What can be looked up for the 128 characters of ASCII. -/
theorem of_ascii {p : Char → Prop} (h : ∀ n < 0x80, p (Char.ofNat n)) (hc : c.toNat < 0x80) :
    p c :=
  Char.ofNat_toNat c ▸ h c.toNat hc

/-- Only ASCII capitals are changed by `Char.toLower`. -/
theorem toLower_of_not_ascii (hc : isAscii c = false) : c.toLower = c := by
  have hn : ¬ c.toNat < 0x80 := fun h => by simp [isAscii_iff.mpr h] at hc
  refine dif_neg fun h => hn ?_
  have hZ : c.val.toNat ≤ 'Z'.val.toNat := UInt32.le_iff_toNat_le.mp h.2
  exact Nat.lt_of_le_of_lt hZ (by decide)

theorem isAscii_toLower : isAscii c.toLower = isAscii c := by
  cases hc : isAscii c with
  | false => rw [toLower_of_not_ascii hc, hc]
  | true =>
    exact @of_ascii c (fun c => isAscii c.toLower = true) (by decide) (isAscii_iff.mp hc)

/-- A function that agrees on each ASCII letter and its small form. -/
theorem apply_toLower {α : Type} {f : Char → α}
    (h : ∀ n < 0x80, f (Char.ofNat n).toLower = f (Char.ofNat n)) : f c.toLower = f c := by
  cases hc : isAscii c with
  | false => rw [toLower_of_not_ascii hc]
  | true => exact @of_ascii c (fun c => f c.toLower = f c) h (isAscii_iff.mp hc)

@[simp] theorem isBlank_toLower : isBlank c.toLower = isBlank c :=
  apply_toLower (by decide)

@[simp] theorem isCased_toLower : isCased c.toLower = isCased c :=
  apply_toLower (by decide)

@[simp] theorem isCaseIgnorable_toLower : isCaseIgnorable c.toLower = isCaseIgnorable c :=
  apply_toLower (by decide)

@[simp] theorem smallForm_toLower : smallForm c.toLower = smallForm c :=
  apply_toLower (by decide)

theorem toLower_eq_capitalSigma : c.toLower = capitalSigma ↔ c = capitalSigma := by
  cases hc : isAscii c with
  | false => rw [toLower_of_not_ascii hc]
  | true =>
    have hsmall : isAscii c.toLower = true := isAscii_toLower.trans hc
    constructor
    · intro h
      rw [h] at hsmall
      exact absurd hsmall (by decide)
    · rintro rfl
      exact absurd hc (by decide)

/-! ### White space at the ends -/

theorem trim_append_append {before after : List Char} (hbefore : ∀ c ∈ before, isBlank c = true)
    (hafter : ∀ c ∈ after, isBlank c = true) : trim (before ++ s ++ after) = trim s := by
  have hreverse : ∀ c ∈ after.reverse, isBlank c = true := fun c hc =>
    hafter c (List.mem_reverse.mp hc)
  unfold trim
  rw [List.append_assoc, List.dropWhile_append_of_pos hbefore, List.dropWhile_append]
  by_cases hempty : (s.dropWhile isBlank).isEmpty = true
  · -- The text is white space altogether, so nothing is left on either side.
    rw [if_pos hempty, List.isEmpty_iff.mp hempty, List.dropWhile_eq_nil_iff.mpr hafter]
  · rw [if_neg hempty, List.reverse_append, List.dropWhile_append_of_pos hreverse]

theorem trim_map_toLower : trim (s.map Char.toLower) = (trim s).map Char.toLower := by
  have hsame : isBlank ∘ Char.toLower = isBlank := funext fun _ => isBlank_toLower
  simp only [trim, List.dropWhile_map, hsame, ← List.map_reverse]

theorem trim_of_not_blank (h : ∀ c ∈ s, isBlank c = false) : trim s = s := by
  have hfront : s.dropWhile isBlank = s := List.dropWhile_eq_self_iff.mpr fun hl => by
    rw [h _ (List.getElem_mem hl)]
    exact Bool.false_ne_true
  have hback : s.reverse.dropWhile isBlank = s.reverse :=
    List.dropWhile_eq_self_iff.mpr fun hl => by
      rw [h _ (List.mem_reverse.mp (List.getElem_mem hl))]
      exact Bool.false_ne_true
  rw [trim, hfront, hback, List.reverse_reverse]

/-! ### Small letters -/

theorem continuesWord_map_toLower : continuesWord (s.map Char.toLower) = continuesWord s := by
  have hsame : isCaseIgnorable ∘ Char.toLower = isCaseIgnorable :=
    funext fun _ => isCaseIgnorable_toLower
  unfold continuesWord
  rw [List.dropWhile_map, hsame]
  cases s.dropWhile isCaseIgnorable with
  | nil => rfl
  | cons c rest => exact isCased_toLower

theorem lowercaseAfter_map_toLower : ∀ (before s : List Char),
    lowercaseAfter (before.map Char.toLower) (s.map Char.toLower) = lowercaseAfter before s
  | _, [] => rfl
  | before, c :: rest => by
    have ih := lowercaseAfter_map_toLower (c :: before) rest
    rw [List.map_cons] at ih
    rw [List.map_cons, lowercaseAfter, lowercaseAfter, ih, smallForm_toLower, smallSigma,
      smallSigma, continuesWord_map_toLower, continuesWord_map_toLower]
    simp only [toLower_eq_capitalSigma]

/-- **Capitals of ASCII are not told from their small forms.** -/
theorem lowercase_map_toLower (s : List Char) : lowercase (s.map Char.toLower) = lowercase s :=
  lowercaseAfter_map_toLower [] s

theorem lowercaseAfter_of_ascii : ∀ {s before : List Char}, (∀ c ∈ s, c.toNat < 0x80) →
    lowercaseAfter before s = s.map Char.toLower
  | [], _, _ => rfl
  | c :: rest, before, h => by
    have hc : isAscii c = true := isAscii_iff.mpr (h c List.mem_cons_self)
    have hsigma : c ≠ capitalSigma := by
      rintro rfl
      exact absurd hc (by decide)
    have ih : lowercaseAfter (c :: before) rest = rest.map Char.toLower :=
      lowercaseAfter_of_ascii fun d hd => h d (List.mem_cons_of_mem _ hd)
    rw [lowercaseAfter, if_neg hsigma, smallForm, if_pos hc, ih]
    rfl

theorem lowercase_of_ascii (h : ∀ c ∈ s, c.toNat < 0x80) :
    lowercase s = s.map Char.toLower :=
  lowercaseAfter_of_ascii h

end Halyard.Text

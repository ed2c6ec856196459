/-
# What writes do to a store of rules

Each write is described by what the store answers afterwards. A delta is the
general write: a definition that is applied on its own is the delta of a page
that holds nothing else (`applyPushed_cases`), so whatever is shown of
`advance` holds of fetched pages and of pushed definitions alike.

Key definitions: `Rule.lastNamed`.
Key theorems: `RuleStore.get?_advance`, `RuleStore.applyDelta_eq_ok_iff`,
`RuleStore.applyPushed_cases`, `RuleStore.kill_cases`.
-/
import Mathlib.Tactic.SplitIfs
import Halyard.Proofs.Names
import Halyard.Push.Dispatch

namespace Halyard

variable {α : Type} [Rule α]

/-- The last of some rules that has the given name. -/
def Rule.lastNamed (n : String) (rs : List α) : Option α :=
  (rs.filter fun r => Rule.name r = n).getLast?

/-- The page that holds one definition, for a store that is at `since`. -/
def RulePage.single (since : ChangeNumber) (r : α) : RulePage α :=
  ⟨since, Rule.changeNumber r, [r]⟩

namespace Rule

theorem lastNamed_cons (n : String) (r : α) (rs : List α) :
    lastNamed n (r :: rs) = (lastNamed n rs).or (if Rule.name r = n then some r else none) := by
  unfold lastNamed
  by_cases h : Rule.name r = n
  · rw [List.filter_cons_of_pos (by simpa using h), List.getLast?_cons, if_pos h]
    cases (rs.filter fun r => Rule.name r = n).getLast? <;> rfl
  · rw [List.filter_cons_of_neg (by simpa using h), if_neg h, Option.or_none]

theorem mem_of_lastNamed {n : String} {rs : List α} {r : α} (h : lastNamed n rs = some r) :
    r ∈ rs ∧ Rule.name r = n := by
  have := List.mem_filter.mp (List.mem_of_getLast? h)
  exact ⟨this.1, by simpa using this.2⟩

theorem lastNamed_eq_none {n : String} {rs : List α} :
    lastNamed n rs = none ↔ ∀ r ∈ rs, Rule.name r ≠ n := by
  rw [lastNamed, List.getLast?_eq_none_iff, List.filter_eq_nil_iff]
  simp

end Rule

namespace RuleStore

variable {s t : RuleStore α}

/-! ### Single rules -/

@[simp] theorem items_unlink (n : String) : (s.unlink n).items = s.items := by
  unfold unlink
  split <;> rfl

@[simp] theorem watermark_unlink (n : String) : (s.unlink n).watermark = s.watermark := by
  unfold unlink
  split <;> rfl

@[simp] theorem frozen_unlink (n : String) : (s.unlink n).frozen = s.frozen := by
  unfold unlink
  split <;> rfl

theorem get?_insert (r : α) (n : String) :
    (s.insert r).get? n = if n = Rule.name r then some r else s.get? n := by
  simp only [get?, insert, items_unlink, Dict.get?_insert]

theorem get?_erase (m n : String) : (s.erase m).get? n = if n = m then none else s.get? n := by
  simp only [get?, erase, items_unlink, Dict.get?_erase]

@[simp] theorem watermark_insert (r : α) : (s.insert r).watermark = s.watermark :=
  watermark_unlink _

@[simp] theorem watermark_erase (n : String) : (s.erase n).watermark = s.watermark :=
  watermark_unlink _

@[simp] theorem frozen_insert (r : α) : (s.insert r).frozen = s.frozen :=
  frozen_unlink _

@[simp] theorem frozen_erase (n : String) : (s.erase n).frozen = s.frozen :=
  frozen_unlink _

/-! ### Deltas -/

theorem get?_foldl_erase : ∀ (ns : List String) (s : RuleStore α) (n : String),
    (ns.foldl erase s).get? n = if n ∈ ns then none else s.get? n
  | [], s, n => by simp
  | m :: ns, s, n => by
    rw [List.foldl_cons, get?_foldl_erase ns, get?_erase]
    by_cases h : n ∈ ns <;> by_cases hm : n = m <;> simp [h, hm]

theorem get?_foldl_insert : ∀ (rs : List α) (s : RuleStore α) (n : String),
    (rs.foldl insert s).get? n = (Rule.lastNamed n rs).or (s.get? n)
  | [], s, n => rfl
  | r :: rs, s, n => by
    rw [List.foldl_cons, get?_foldl_insert rs, Rule.lastNamed_cons, get?_insert]
    by_cases h : Rule.name r = n
    · rw [if_pos h, if_pos h.symm, Option.or_assoc]
      rfl
    · rw [if_neg h, if_neg (Ne.symm h), Option.or_none]

@[simp] theorem frozen_foldl_erase : ∀ (ns : List String) (s : RuleStore α),
    (ns.foldl erase s).frozen = s.frozen
  | [], _ => rfl
  | n :: ns, s => by rw [List.foldl_cons, frozen_foldl_erase ns, frozen_erase]

@[simp] theorem frozen_foldl_insert : ∀ (rs : List α) (s : RuleStore α),
    (rs.foldl insert s).frozen = s.frozen
  | [], _ => rfl
  | r :: rs, s => by rw [List.foldl_cons, frozen_foldl_insert rs, frozen_insert]

@[simp] theorem watermark_advance (d : Delta α) : (s.advance d).watermark = d.till := rfl

@[simp] theorem frozen_advance (d : Delta α) : (s.advance d).frozen = s.frozen := by
  simp [advance]

/-- **A delta stores its last addition of a name, else removes what it says.** -/
theorem get?_advance (d : Delta α) (n : String) :
    (s.advance d).get? n =
      (Rule.lastNamed n d.additions).or (if n ∈ d.removals then none else s.get? n) := by
  have h := get?_foldl_insert d.additions (d.removals.foldl erase s) n
  rw [get?_foldl_erase] at h
  exact h

/-- Whatever is stored after a delta was added by it or was stored before. -/
theorem of_get?_advance {d : Delta α} {n : String} {r : α} (h : (s.advance d).get? n = some r) :
    (r ∈ d.additions ∧ Rule.name r = n) ∨ s.get? n = some r := by
  rw [get?_advance] at h
  cases hl : Rule.lastNamed n d.additions with
  | some q =>
    rw [hl, Option.some_or, Option.some.injEq] at h
    exact .inl (h ▸ Rule.mem_of_lastNamed hl)
  | none =>
    rw [hl, Option.none_or] at h
    split at h
    · cases h
    · exact .inr h

/-- A delta is refused by a frozen store, if it does not begin at the watermark, and if
it leads back; in this order. -/
theorem applyDelta_eq (s : RuleStore α) (d : Delta α) :
    s.applyDelta d =
      if s.frozen then .error .frozen
      else if d.since ≠ s.watermark then .error (.gap s.watermark d.since)
      else if d.till < d.since then
        .error (.malformedPayload
          ("till " ++ toString d.till ++ " is behind since " ++ toString d.since))
      else .ok (s.advance d, ⟨d.effective, d.segmentNames⟩) := by
  unfold applyDelta writable
  by_cases hf : s.frozen = true
  · rw [if_pos hf, if_pos hf]
    rfl
  rw [if_neg hf, if_neg hf]
  by_cases hs : d.since ≠ s.watermark
  · rw [if_pos hs, if_pos hs]
    rfl
  rw [if_neg hs, if_neg hs]
  by_cases ht : d.till < d.since
  · rw [if_pos ht, if_pos ht]
    rfl
  · rw [if_neg ht, if_neg ht]
    rfl

theorem applyDelta_eq_ok_iff {d : Delta α} {o : DeltaOutcome} :
    s.applyDelta d = .ok (t, o) ↔
      s.frozen = false ∧ d.since = s.watermark ∧ d.since ≤ d.till ∧ s.advance d = t ∧
        ⟨d.effective, d.segmentNames⟩ = o := by
  rw [applyDelta_eq]
  split_ifs with hf hs ht
  · simp [hf]
  · simp [hs]
  · simp [Int.not_le.mpr ht]
  · constructor
    · intro h
      cases h
      exact ⟨by simpa using hf, Decidable.not_not.mp hs, Int.not_lt.mp ht, rfl, rfl⟩
    · rintro ⟨-, -, -, rfl, rfl⟩
      rfl

/-! ### Single definitions -/

/-- A rule on its own is refused by a frozen store, and ignored by one that is complete up to
its change number. -/
theorem applyEntity_eq (s : RuleStore α) (r : α) (keep : Bool) :
    s.applyEntity r keep =
      if s.frozen then .error .frozen
      else if Rule.changeNumber r ≤ s.watermark then .ok (s, .stale)
      else .ok ({ (if Rule.active r && keep then s.insert r else s.erase (Rule.name r)) with
        watermark := Rule.changeNumber r }, .applied) := by
  unfold applyEntity writable
  by_cases hf : s.frozen = true
  · rw [if_pos hf, if_pos hf]
    rfl
  rw [if_neg hf, if_neg hf]
  by_cases hc : Rule.changeNumber r ≤ s.watermark
  · rw [if_pos hc, if_pos hc]
    rfl
  · rw [if_neg hc, if_neg hc]
    rfl

/-- A rule on its own is stored or removed, or changes nothing. -/
theorem applyEntity_cases {r : α} {keep : Bool} {o : EntityOutcome}
    (h : s.applyEntity r keep = .ok (t, o)) :
    (t = s ∧ o = .stale) ∨
      (s.watermark < Rule.changeNumber r ∧
        t = { (if Rule.active r && keep then s.insert r else s.erase (Rule.name r)) with
          watermark := Rule.changeNumber r } ∧ o = .applied) := by
  rw [applyEntity_eq] at h
  by_cases hf : s.frozen = true
  · rw [if_pos hf] at h
    cases h
  by_cases hc : Rule.changeNumber r ≤ s.watermark
  · rw [if_neg hf, if_pos hc] at h
    cases h
    exact .inl ⟨rfl, rfl⟩
  · rw [if_neg hf, if_neg hc] at h
    cases h
    exact .inr ⟨Int.not_le.mp hc, rfl, rfl⟩

/-- Applying a definition is applying the page that holds nothing else. -/
theorem advance_single (keep : α → Bool) (r : α) :
    s.advance (Delta.ofPage (RulePage.single s.watermark r) keep) =
      { (if Rule.active r && keep r then s.insert r else s.erase (Rule.name r)) with
        watermark := Rule.changeNumber r } := by
  have hw : Delta.wanted keep r = (Rule.active r && keep r) := rfl
  cases h : Rule.active r && keep r <;> rw [h] at hw <;>
    simp only [advance, Delta.ofPage, RulePage.single, List.filter_cons, List.filter_nil, hw,
      Bool.not_false, Bool.not_true, if_true, if_false, Bool.false_eq_true, List.map_cons,
      List.map_nil, List.foldl_cons, List.foldl_nil]

/-- A pushed definition is ignored if the store is past it, left to a fetch if it was
not computed against the watermark, and applied otherwise. -/
theorem applyPushed_eq (s : RuleStore α) (r : α) (previous : Option ChangeNumber)
    (keep : α → Bool) :
    s.applyPushed r previous (keep r) =
      if Rule.changeNumber r ≤ s.watermark then .ok (s, .stale)
      else if previous ≠ some s.watermark then .ok (s, .needsFetch)
      else if s.frozen then .error .frozen
      else .ok (s.advance (Delta.ofPage (RulePage.single s.watermark r) keep),
        .applied (if keep r && Rule.active r then Rule.segmentNames r else Names.empty)) := by
  unfold applyPushed
  by_cases hc : Rule.changeNumber r ≤ s.watermark
  · rw [if_pos hc, if_pos hc]
    rfl
  rw [if_neg hc, if_neg hc]
  by_cases hp : previous ≠ some s.watermark
  · rw [if_pos hp, if_pos hp]
    rfl
  rw [if_neg hp, if_neg hp, advance_single]
  unfold applyEntity writable
  by_cases hf : s.frozen = true
  · rw [if_pos hf, if_pos hf]
    rfl
  · rw [if_neg hf, if_neg hf, if_neg hc]
    rfl

/-- A pushed definition changes nothing, or does what its page does. -/
theorem applyPushed_cases (keep : α → Bool) {r : α} {previous : Option ChangeNumber}
    {o : PushOutcome} (h : s.applyPushed r previous (keep r) = .ok (t, o)) :
    (t = s ∧ ∀ names, o ≠ .applied names) ∨
      (s.frozen = false ∧ s.watermark < Rule.changeNumber r ∧ previous = some s.watermark ∧
        t = s.advance (Delta.ofPage (RulePage.single s.watermark r) keep) ∧
        o = .applied (if keep r && Rule.active r then Rule.segmentNames r else Names.empty)) := by
  rw [applyPushed_eq] at h
  by_cases hc : Rule.changeNumber r ≤ s.watermark
  · rw [if_pos hc] at h
    cases h
    exact .inl ⟨rfl, by simp⟩
  by_cases hp : previous ≠ some s.watermark
  · rw [if_neg hc, if_pos hp] at h
    cases h
    exact .inl ⟨rfl, by simp⟩
  by_cases hf : s.frozen = true
  · rw [if_neg hc, if_neg hp, if_pos hf] at h
    cases h
  · rw [if_neg hc, if_neg hp, if_neg hf] at h
    cases h
    exact .inr ⟨by simpa using hf, Int.not_le.mp hc, Decidable.not_not.mp hp, rfl, rfl⟩

/-! ### Kills -/

@[simp] theorem name_killed (f : Flag) (treatment : String) (n : ChangeNumber) :
    Rule.name (killed f treatment n) = f.name := rfl

@[simp] theorem changeNumber_killed (f : Flag) (treatment : String) (n : ChangeNumber) :
    (killed f treatment n).changeNumber = n := rfl

/-- A kill replaces a stored flag that is older by its killed form, or changes nothing. -/
theorem kill_cases {s t : RuleStore Flag} {name treatment : String} {n : ChangeNumber} {b : Bool}
    (h : s.kill name treatment n = .ok (t, b)) :
    (t = s ∧ b = false) ∨
      ∃ f, s.get? name = some f ∧ f.changeNumber < n ∧ t = s.insert (killed f treatment n) ∧
        b = true := by
  unfold kill writable at h
  cases hf : s.frozen with
  | true => simp [hf, bind, Except.bind] at h
  | false =>
    simp only [hf, Bool.false_eq_true, if_false] at h
    cases hg : s.get? name with
    | none =>
      simp only [hg] at h
      cases h
      exact .inl ⟨rfl, rfl⟩
    | some f =>
      simp only [hg] at h
      change (if n ≤ f.changeNumber then _ else _) = _ at h
      split_ifs at h with hn
      · cases h
        exact .inl ⟨rfl, rfl⟩
      · cases h
        exact .inr ⟨f, rfl, Int.not_le.mp hn, rfl, rfl⟩

end RuleStore

end Halyard

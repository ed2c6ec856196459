/-
# What pages and pushed definitions do to the stores

An answer to a fetch brings a page of rule-based segments and a page of flags;
an announcement may bring a definition. Both are described by the page that
takes effect. An inline definition counts as the page that holds nothing else,
so the lemmas about pages serve for both. A fetch goes on or ends by what its
answer did to the stores.

Key definitions: `RuleKind`, `Stores.watermark`, `Stores.withFlags`,
`Stores.withRuleSegments`.
Key theorems: `Stores.applyRuleSegments_eq_ok_iff`,
`Stores.applyFlags_eq_ok_iff`, `Stores.applyChanges_cases`,
`Stores.applyPushedFlag_cases`, `Stores.applyPushedSegment_cases`,
`RuleFetch.receive_cases`.
-/
import Halyard.Fetch.Rules
import Halyard.Proofs.Store.Rules

namespace Halyard

/-- The stores that a fetch of rules brings up to date. -/
inductive RuleKind where
  | flags
  | ruleSegments
deriving DecidableEq

namespace Stores

variable {filter : Names} {s t : Stores} {names : Names}

/-- The watermarks of the stores of rules. -/
def watermark (s : Stores) : RuleKind → ChangeNumber
  | .flags => s.flags.watermark
  | .ruleSegments => s.ruleSegments.watermark

/-- The stores with a page of flags applied. -/
def withFlags (filter : Names) (s : Stores) (p : RulePage Flag) : Stores :=
  { s with flags := s.flags.advance (Delta.ofPage p (Flag.matchesSets filter)) }

/-- The stores with a page of rule-based segments applied. -/
def withRuleSegments (s : Stores) (p : RulePage RuleBasedSegment) : Stores :=
  { s with ruleSegments := s.ruleSegments.advance (Delta.ofPage p fun _ => true) }

/-! ### Pages -/

/-- Storing what a delta makes of one of the stores, and telling what it refers to. -/
theorem applyDelta_bind_eq_ok_iff {α : Type} [Rule α] {rules : RuleStore α} {d : Delta α}
    (g : RuleStore α → Stores) :
    (rules.applyDelta d >>= fun x => pure (g x.1, x.2.referenced)) = .ok (t, names) ↔
      rules.frozen = false ∧ d.since = rules.watermark ∧ d.since ≤ d.till ∧
        g (rules.advance d) = t ∧ d.segmentNames = names := by
  cases h : rules.applyDelta d with
  | error e =>
    constructor
    · intro h'
      cases h'
    · rintro ⟨hf, hs, ht, -, -⟩
      rw [RuleStore.applyDelta_eq_ok_iff.mpr ⟨hf, hs, ht, rfl, rfl⟩] at h
      cases h
  | ok x =>
    obtain ⟨rules', o⟩ := x
    obtain ⟨hf, hs, ht, rfl, rfl⟩ := RuleStore.applyDelta_eq_ok_iff.mp h
    constructor
    · intro h'
      cases h'
      exact ⟨hf, hs, ht, rfl, rfl⟩
    · rintro ⟨-, -, -, rfl, rfl⟩
      rfl

theorem applyRuleSegments_eq_ok_iff {p : RulePage RuleBasedSegment} :
    s.applyRuleSegments p = .ok (t, names) ↔
      s.ruleSegments.frozen = false ∧ p.since = s.ruleSegments.watermark ∧ p.since ≤ p.till ∧
        s.withRuleSegments p = t ∧ (Delta.ofPage p fun _ => true).segmentNames = names :=
  applyDelta_bind_eq_ok_iff fun rules => { s with ruleSegments := rules }

theorem applyFlags_eq_ok_iff {p : RulePage Flag} :
    s.applyFlags filter p = .ok (t, names) ↔
      s.flags.frozen = false ∧ p.since = s.flags.watermark ∧ p.since ≤ p.till ∧
        s.withFlags filter p = t ∧
        (Delta.ofPage p (Flag.matchesSets filter)).segmentNames = names :=
  applyDelta_bind_eq_ok_iff fun flags => { s with flags := flags }

/-- An answer is refused at its first page, refused at its second one after the first was
applied, or applied. -/
theorem applyChanges_cases (filter : Names) (s : Stores) (c : RuleChanges) :
    (∃ e, s.applyRuleSegments c.segments = .error e ∧
      s.applyChanges filter c = (s, .error e)) ∨
    (∃ s₁ names e, s.applyRuleSegments c.segments = .ok (s₁, names) ∧
      s₁.applyFlags filter c.flags = .error e ∧ s.applyChanges filter c = (s₁, .error e)) ∨
    (∃ s₁ names s₂ names', s.applyRuleSegments c.segments = .ok (s₁, names) ∧
      s₁.applyFlags filter c.flags = .ok (s₂, names') ∧
      s.applyChanges filter c = (s₂, .ok (names.union names'))) := by
  unfold applyChanges
  cases h₁ : s.applyRuleSegments c.segments with
  | error e => exact .inl ⟨e, rfl, rfl⟩
  | ok x =>
    obtain ⟨s₁, names⟩ := x
    cases h₂ : s₁.applyFlags filter c.flags with
    | error e => exact .inr (.inl ⟨s₁, names, e, rfl, h₂, by simp only [h₂]⟩)
    | ok y =>
      obtain ⟨s₂, names'⟩ := y
      exact .inr (.inr ⟨s₁, names, s₂, names', rfl, h₂, by simp only [h₂]⟩)

/-! ### Pushed definitions -/

/-- A pushed flag changes nothing, or does to the flags what its page does. -/
theorem applyPushedFlag_cases {busy : Bool} {f : Flag} {previous : Option ChangeNumber}
    {o : PushOutcome} (h : s.applyPushedFlag filter busy f previous = .ok (t, o)) :
    (t = s ∧ ∀ names, o ≠ .applied names) ∨
      (s.flags.watermark < f.changeNumber ∧ s.lacksRuleSegments f = false ∧
        previous = some s.flags.watermark ∧
        t = s.withFlags filter (RulePage.single s.flags.watermark f) ∧
        o = .applied (if f.matchesSets filter && Rule.active f then Rule.segmentNames f
          else Names.empty)) := by
  unfold applyPushedFlag at h
  by_cases hb : busy = true
  · rw [if_pos hb] at h
    cases h
    exact .inl ⟨rfl, by simp⟩
  rw [if_neg hb] at h
  by_cases hl : (decide (s.flags.watermark < f.changeNumber) && s.lacksRuleSegments f) = true
  · rw [if_pos hl] at h
    cases h
    exact .inl ⟨rfl, by simp⟩
  rw [if_neg hl] at h
  cases hp : s.flags.applyPushed f previous (f.matchesSets filter) with
  | error e =>
    rw [hp] at h
    cases h
  | ok x =>
    obtain ⟨flags, out⟩ := x
    rw [hp] at h
    cases h
    rcases RuleStore.applyPushed_cases (Flag.matchesSets filter) hp with
      ⟨rfl, ho⟩ | ⟨-, hw, hprev, rfl, rfl⟩
    · exact .inl ⟨rfl, ho⟩
    · have hlacks : s.lacksRuleSegments f = false :=
        eq_false_of_ne_true fun hlacks =>
          hl (Bool.and_eq_true_iff.mpr ⟨decide_eq_true hw, hlacks⟩)
      exact .inr ⟨hw, hlacks, hprev, rfl, rfl⟩

/-- A pushed rule-based segment changes nothing, or does what its page does. -/
theorem applyPushedSegment_cases {busy : Bool} {r : RuleBasedSegment}
    {previous : Option ChangeNumber} {o : PushOutcome}
    (h : s.applyPushedSegment busy r previous = .ok (t, o)) :
    (t = s ∧ ∀ names, o ≠ .applied names) ∨
      (s.ruleSegments.watermark < r.changeNumber ∧
        t = s.withRuleSegments (RulePage.single s.ruleSegments.watermark r) ∧
        o = .applied (if Rule.active r then Rule.segmentNames r else Names.empty)) := by
  unfold applyPushedSegment at h
  by_cases hb : busy = true
  · rw [if_pos hb] at h
    cases h
    exact .inl ⟨rfl, by simp⟩
  rw [if_neg hb] at h
  cases hp : s.ruleSegments.applyPushed r previous true with
  | error e =>
    rw [hp] at h
    cases h
  | ok x =>
    obtain ⟨rules, out⟩ := x
    rw [hp] at h
    cases h
    rcases RuleStore.applyPushed_cases (fun _ => true) hp with
      ⟨rfl, ho⟩ | ⟨-, hw, -, rfl, ho⟩
    · exact .inl ⟨rfl, ho⟩
    · exact .inr ⟨hw, rfl, by simpa using ho⟩

end Stores

/-! ### Fetches -/

theorem RuleFetch.receive_cases (filter : Names) (f : RuleFetch) (s : Stores) (c : RuleChanges) :
    (∃ t names, s.applyChanges filter c = (t, .ok names) ∧
      (f.receive filter s (.ok c) = (t, .over (.ok (f.referenced.union names))) ∨
        f.receive filter s (.ok c) =
          (t, .again { f with referenced := f.referenced.union names }))) ∨
    (∃ t e, s.applyChanges filter c = (t, .error e) ∧
      (f.receive filter s (.ok c) = (t, .over (.error e)) ∨
        f.receive filter s (.ok c) = (t, .again { f with gaps := f.gaps + 1 }))) := by
  unfold receive
  simp only
  generalize s.applyChanges filter c = x
  obtain ⟨t, r⟩ := x
  cases r with
  | ok names =>
    refine .inl ⟨t, names, rfl, ?_⟩
    by_cases hc : caughtUp c = true
    · exact .inl (by simp only [hc, if_true])
    · exact .inr (by simp only [hc, Bool.false_eq_true, if_false])
  | error e =>
    refine .inr ⟨t, e, rfl, ?_⟩
    cases e with
    | gap expected got =>
      by_cases hg : f.gaps < maxRefetches
      · exact .inr (by simp only [hg, if_true])
      · exact .inl (by simp only [hg, if_false])
    | _ => exact .inl rfl

end Halyard

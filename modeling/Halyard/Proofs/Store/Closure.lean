/-
# Flags and the rule-based segments they refer to

A condition of a flag may test membership in a rule-based segment, and the test
fails while that segment is missing. The stores are closed if no stored flag
refers to a rule-based segment that is not stored.

An answer to a fetch brings two pages, which are applied one after the other,
and whoever evaluates in between sees the first one only. Rule-based segments
come first, so a new one is there before the flags that need it. For one that is
withdrawn together with the flags that refer to it this is the wrong order: it is
missing until the flags are applied, and stays so if their page is refused. An
answer that leaves closed stores closed as a whole opens them in no other way
(`Stores.closed_throughout_iff`). A flag that is pushed on its own is held against
the rule-based segments first and never opens them
(`Stores.Closed.applyPushedFlag`).

Key definitions: `Stores.Closed`, `Stores.snapshots`, `Stores.Strands`,
`RulePage.Withdraws`.
Key theorems: `Stores.closed_withRuleSegments_iff`,
`Stores.Closed.applyPushedFlag`, `Stores.closed_throughout_iff`.
-/
import Halyard.Proofs.Store.Delivery

namespace Halyard

/-- Whether a page has rules of the given name and none of them is to be stored. -/
def RulePage.Withdraws {α : Type} [Rule α] (keep : α → Bool) (p : RulePage α) (n : String) :
    Prop :=
  (∃ r ∈ p.data, Rule.name r = n) ∧ ∀ r ∈ p.data, Rule.name r = n → Delta.wanted keep r = false

namespace RuleStore

variable {α : Type} [Rule α] {s : RuleStore α}

/-- Whether a store takes a page. -/
def Accepts (s : RuleStore α) (p : RulePage α) : Prop :=
  s.frozen = false ∧ p.since = s.watermark ∧ p.since ≤ p.till

/-- What is stored stays stored, in the old form or in a new one, unless it is withdrawn. -/
theorem isSome_get?_advance_iff {keep : α → Bool} {p : RulePage α} {n : String}
    (h : (s.get? n).isSome) :
    ((s.advance (Delta.ofPage p keep)).get? n).isSome ↔ ¬ p.Withdraws keep n := by
  have hadd : ∀ r, r ∈ (Delta.ofPage p keep).additions ↔ r ∈ p.data ∧ Delta.wanted keep r = true :=
    fun r => List.mem_filter
  have hremove : n ∈ (Delta.ofPage p keep).removals ↔
      ∃ r ∈ p.data, Delta.wanted keep r = false ∧ Rule.name r = n := by
    simp only [Delta.ofPage, List.mem_map, List.mem_filter, Bool.not_eq_true', and_assoc]
  rw [get?_advance]
  cases hl : Rule.lastNamed n (Delta.ofPage p keep).additions with
  | some r =>
    obtain ⟨hr, hname⟩ := Rule.mem_of_lastNamed hl
    obtain ⟨hdata, hwanted⟩ := (hadd r).mp hr
    refine iff_of_true rfl fun hw => ?_
    rw [hw.2 r hdata hname] at hwanted
    cases hwanted
  | none =>
    have hunwanted : ∀ r ∈ p.data, Rule.name r = n → Delta.wanted keep r = false := by
      intro r hdata hname
      refine eq_false_of_ne_true fun hwanted => ?_
      exact Rule.lastNamed_eq_none.mp hl r ((hadd r).mpr ⟨hdata, hwanted⟩) hname
    have hwithdraws : p.Withdraws keep n ↔ n ∈ (Delta.ofPage p keep).removals := by
      rw [hremove]
      constructor
      · rintro ⟨⟨r, hdata, hname⟩, hall⟩
        exact ⟨r, hdata, hall r hdata hname, hname⟩
      · rintro ⟨r, hdata, -, hname⟩
        exact ⟨⟨r, hdata, hname⟩, hunwanted⟩
    rw [Option.none_or, hwithdraws]
    by_cases hn : n ∈ (Delta.ofPage p keep).removals
    · simp [hn]
    · simp [hn, h]

theorem mem_ruleBasedSegmentNames {rules : RuleStore Flag} {n : String} :
    n ∈ rules.ruleBasedSegmentNames ↔
      ∃ name f, rules.get? name = some f ∧ n ∈ f.ruleBasedSegmentNames := by
  simp only [ruleBasedSegmentNames, Names.mem_ofList, List.mem_flatMap, Names.mem_toList]
  constructor
  · rintro ⟨⟨name, f⟩, he, hn⟩
    exact ⟨name, f, (Dict.get?_eq_some_iff rules.items name f).mpr he, hn⟩
  · rintro ⟨name, f, hf, hn⟩
    exact ⟨(name, f), (Dict.get?_eq_some_iff rules.items name f).mp hf, hn⟩

end RuleStore

namespace Stores

variable {filter : Names} {s t : Stores} {c : RuleChanges} {f : Flag} {n : String}

/-- Whether every rule-based segment that a stored flag refers to is stored. -/
def Closed (s : Stores) : Prop :=
  ∀ n ∈ s.flags.ruleBasedSegmentNames, (s.ruleSegments.get? n).isSome

/-- What a reader may find while an answer is taken in: the stores as they were, and as they
are after each page that was applied. -/
def snapshots (filter : Names) (s : Stores) (c : RuleChanges) : List Stores :=
  match s.applyRuleSegments c.segments with
  | .error _ => [s]
  | .ok (t, _) =>
    match t.applyFlags filter c.flags with
    | .error _ => [s, t]
    | .ok (u, _) => [s, t, u]

/-- Whether an answer takes away a rule-based segment under a stored flag, as far as its
first page goes. -/
def Strands (s : Stores) (c : RuleChanges) : Prop :=
  s.ruleSegments.Accepts c.segments ∧
    ∃ n ∈ s.flags.ruleBasedSegmentNames, c.segments.Withdraws (fun _ => true) n

instance (s : Stores) : Decidable s.Closed :=
  decidable_of_iff
    (∀ n ∈ s.flags.ruleBasedSegmentNames.toList, (s.ruleSegments.get? n).isSome)
    (forall_congr' fun _ => imp_congr_left Names.mem_toList)

/-! ### Closed stores -/

theorem lacksRuleSegments_eq_false_iff :
    s.lacksRuleSegments f = false ↔
      ∀ n ∈ f.ruleBasedSegmentNames, (s.ruleSegments.get? n).isSome := by
  simp [lacksRuleSegments, Option.isSome_iff_ne_none]

/-- The stores are closed if no stored flag would be turned away for what is missing. -/
theorem closed_iff :
    s.Closed ↔ ∀ name f, s.flags.get? name = some f → s.lacksRuleSegments f = false := by
  simp only [Closed, RuleStore.mem_ruleBasedSegmentNames, lacksRuleSegments_eq_false_iff]
  constructor
  · intro h name f hf n hn
    exact h n ⟨name, f, hf, hn⟩
  · rintro h n ⟨name, f, hf, hn⟩
    exact h name f hf n hn

theorem Closed.withFlags (hs : s.Closed) {p : RulePage Flag}
    (hp : ∀ f ∈ p.data, s.lacksRuleSegments f = false) : (s.withFlags filter p).Closed := by
  rw [closed_iff] at hs ⊢
  intro name f hf
  rcases RuleStore.of_get?_advance hf with ⟨hadded, -⟩ | hbefore
  · exact hp f (List.mem_filter.mp hadded).1
  · exact hs name f hbefore

/-- **A pushed flag never opens the stores.** It is left to a fetch if it refers to a
rule-based segment that is missing. -/
theorem Closed.applyPushedFlag {busy : Bool} {previous : Option ChangeNumber} {o : PushOutcome}
    (hs : s.Closed) (h : s.applyPushedFlag filter busy f previous = .ok (t, o)) : t.Closed := by
  rcases applyPushedFlag_cases h with ⟨rfl, -⟩ | ⟨-, hlacks, -, rfl, -⟩
  · exact hs
  · refine hs.withFlags fun g hg => ?_
    obtain rfl : g = f := List.mem_singleton.mp hg
    exact hlacks

/-- A page of rule-based segments opens closed stores exactly by withdrawing what a stored flag
refers to. -/
theorem closed_withRuleSegments_iff (hs : s.Closed) {p : RulePage RuleBasedSegment} :
    (s.withRuleSegments p).Closed ↔
      ¬ ∃ n ∈ s.flags.ruleBasedSegmentNames, p.Withdraws (fun _ => true) n := by
  have hkept : ∀ n ∈ s.flags.ruleBasedSegmentNames,
      ((s.withRuleSegments p).ruleSegments.get? n).isSome ↔ ¬ p.Withdraws (fun _ => true) n :=
    fun n hn => RuleStore.isSome_get?_advance_iff (hs n hn)
  constructor
  · rintro hclosed ⟨n, hn, hw⟩
    exact (hkept n hn).mp (hclosed n hn) hw
  · intro hnone n hn
    exact (hkept n hn).mpr fun hw => hnone ⟨n, hn, hw⟩

/-! ### Answers -/

theorem snapshots_cases (filter : Names) (s : Stores) (c : RuleChanges) :
    (¬ s.ruleSegments.Accepts c.segments ∧
      s.snapshots filter c = [s] ∧ (s.applyChanges filter c).1 = s) ∨
    (s.ruleSegments.Accepts c.segments ∧ ¬ s.flags.Accepts c.flags ∧
      s.snapshots filter c = [s, s.withRuleSegments c.segments] ∧
      (s.applyChanges filter c).1 = s.withRuleSegments c.segments) ∨
    (s.ruleSegments.Accepts c.segments ∧ s.flags.Accepts c.flags ∧
      s.snapshots filter c = [s, s.withRuleSegments c.segments,
        (s.withRuleSegments c.segments).withFlags filter c.flags] ∧
      (s.applyChanges filter c).1 =
        (s.withRuleSegments c.segments).withFlags filter c.flags) := by
  rcases applyChanges_cases filter s c with ⟨e, h₁, h⟩ | ⟨s₁, names, e, h₁, h₂, h⟩ |
    ⟨s₁, names, s₂, names', h₁, h₂, h⟩
  · refine .inl ⟨?_, by rw [snapshots, h₁], by rw [h]⟩
    rintro ⟨hf, hs, ht⟩
    cases h₁.symm.trans (applyRuleSegments_eq_ok_iff.mpr ⟨hf, hs, ht, rfl, rfl⟩)
  · obtain ⟨hf, hs, ht, rfl, -⟩ := applyRuleSegments_eq_ok_iff.mp h₁
    refine .inr (.inl ⟨⟨hf, hs, ht⟩, ?_, by simp only [snapshots, h₁, h₂], by rw [h]⟩)
    rintro ⟨hf', hs', ht'⟩
    cases h₂.symm.trans (applyFlags_eq_ok_iff.mpr ⟨hf', hs', ht', rfl, rfl⟩)
  · obtain ⟨hf, hs, ht, rfl, -⟩ := applyRuleSegments_eq_ok_iff.mp h₁
    obtain ⟨hf', hs', ht', rfl, -⟩ := applyFlags_eq_ok_iff.mp h₂
    exact .inr (.inr ⟨⟨hf, hs, ht⟩, ⟨hf', hs', ht'⟩, by simp only [snapshots, h₁, h₂], by rw [h]⟩)

/-- **Only what is withdrawn too early goes missing.** If the stores are closed and both pages
of an answer would leave them so, then they are closed at every moment exactly if the page of
rule-based segments takes nothing away that a stored flag refers to, and closed in the end
exactly if it does not or the page of flags is applied as well. -/
theorem closed_throughout_iff (filter : Names) (s : Stores) (c : RuleChanges) (hs : s.Closed)
    (hboth : ((s.withRuleSegments c.segments).withFlags filter c.flags).Closed) :
    ((∀ t ∈ s.snapshots filter c, t.Closed) ↔ ¬ s.Strands c) ∧
      ((s.applyChanges filter c).1.Closed ↔ ¬ (s.Strands c ∧ ¬ s.flags.Accepts c.flags)) := by
  have hfirst : s.ruleSegments.Accepts c.segments →
      ((s.withRuleSegments c.segments).Closed ↔ ¬ s.Strands c) := by
    intro hyes
    rw [closed_withRuleSegments_iff hs, Strands, and_iff_right hyes]
  rcases snapshots_cases filter s c with ⟨hno, h, h'⟩ | ⟨hyes, hno, h, h'⟩ | ⟨hyes, hyes', h, h'⟩
  · have hkept : ¬ s.Strands c := fun hc => hno hc.1
    rw [h, h']
    exact ⟨iff_of_true (by simpa using hs) hkept, iff_of_true hs fun hc => hkept hc.1⟩
  · rw [h, h', and_iff_left hno]
    exact ⟨by simpa [hs] using hfirst hyes, hfirst hyes⟩
  · rw [h, h']
    exact ⟨by simpa [hs, hboth] using hfirst hyes, iff_of_true hboth fun hc => hc.2 hyes'⟩

/-! ### A segment that is withdrawn together with its flag -/

/-- A flag that tests membership in "vips". -/
def vipFlag (n : ChangeNumber) : Flag :=
  { Flag.asking "a" [] n with
    conditions :=
      [⟨none, ⟨none, [⟨inRuleBasedSegmentKind, false, some "vips", Dict.empty⟩]⟩, [], none⟩] }

/-- The segment "vips", without conditions. -/
def vips (n : ChangeNumber) : RuleBasedSegment where
  name := "vips"
  trafficType := none
  changeNumber := n
  status := .active
  excluded := ⟨none, none⟩
  conditions := []

/-- Stores with a flag at 10 and the segment at 5 that it refers to. -/
def withVips : Stores :=
  (Stores.empty.applyChanges Names.empty
    ⟨⟨unsynced, 10, [vipFlag 10]⟩, ⟨unsynced, 5, [vips 5]⟩⟩).1

/-- An answer in which both are archived. Its page of flags begins at `since`. -/
def retiring (since : ChangeNumber) : RuleChanges :=
  ⟨⟨since, 11, [{ vipFlag 11 with status := .archived }]⟩,
    ⟨5, 6, [{ vips 6 with status := .archived }]⟩⟩

/-- An answer with a gap for the flags leaves them at 10, without their segment. -/
theorem vips_withdrawn_at_gap :
    withVips.Closed ∧
      ((withVips.withRuleSegments (retiring 9).segments).withFlags Names.empty
        (retiring 9).flags).Closed ∧
      ((∀ t ∈ withVips.snapshots Names.empty (retiring 9), t.Closed) ↔
        ¬ withVips.Strands (retiring 9)) ∧
      ((withVips.applyChanges Names.empty (retiring 9)).1.Closed ↔
        ¬ (withVips.Strands (retiring 9) ∧ ¬ withVips.flags.Accepts (retiring 9).flags)) ∧
      ¬ (withVips.applyChanges Names.empty (retiring 9)).1.Closed :=
  have hclosed : withVips.Closed := by decide
  have hboth : ((withVips.withRuleSegments (retiring 9).segments).withFlags Names.empty
      (retiring 9).flags).Closed := by decide
  have h := closed_throughout_iff Names.empty withVips (retiring 9) hclosed hboth
  ⟨hclosed, hboth, h.1, h.2, by decide⟩

/-- Closed stores that both pages of an answer would leave closed need not be so in between,
and not in the end if the second page is refused. -/
theorem segments_withdrawn_before_flags :
    (¬ ∀ (filter : Names) (s : Stores) (c : RuleChanges), s.Closed →
      ((s.withRuleSegments c.segments).withFlags filter c.flags).Closed →
      ∀ t ∈ s.snapshots filter c, t.Closed) ∧
    ¬ ∀ (filter : Names) (s : Stores) (c : RuleChanges), s.Closed →
      ((s.withRuleSegments c.segments).withFlags filter c.flags).Closed →
      (s.applyChanges filter c).1.Closed := by
  constructor
  · intro h
    have hsnapshots : withVips.snapshots Names.empty (retiring 10) =
        [withVips, withVips.withRuleSegments (retiring 10).segments,
          (withVips.withRuleSegments (retiring 10).segments).withFlags Names.empty
            (retiring 10).flags] := rfl
    have hbetween : (withVips.withRuleSegments (retiring 10).segments).Closed :=
      h Names.empty withVips (retiring 10) (by decide) (by decide) _ (by simp [hsnapshots])
    exact absurd hbetween (by decide)
  · intro h
    have hend := h Names.empty withVips (retiring 9) (by decide) (by decide)
    exact absurd hend (by decide)

end Stores

end Halyard

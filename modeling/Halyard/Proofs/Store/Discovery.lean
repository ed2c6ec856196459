/-
# Discovered segments

A rule that is stored refers to segments, and these have to be registered, else
nothing fetches them. What an answer brings is stored at once, but the segments
it refers to are registered only when the fetch has come to its end, so until
then the fetch holds their names. `RuleFetch.Loses` says which names it lets go
of for good: all it holds when it fails, and those of a page of rule-based
segments if the page of flags that came with it is refused.

Key definitions: `Stores.Refers`, `Stores.Gains`, `RuleFetch.Loses`,
`Reception.Holds`.
Key theorems: `RuleStore.refers_advance`, `RuleFetch.receive_keeps`,
`Replica.dispatch_keeps`.
-/
import Halyard.Proofs.Store.Delivery

namespace Halyard

open Push

variable {n : String}

/-! ### What stored rules refer to -/

/-- Whether a stored rule refers to a segment. -/
def RuleStore.Refers {α : Type} [Rule α] (s : RuleStore α) (n : String) : Prop :=
  ∃ name r, s.get? name = some r ∧ n ∈ Rule.segmentNames r

/-- Whether a stored flag or a stored rule-based segment refers to a segment. -/
def Stores.Refers (s : Stores) (n : String) : Prop :=
  s.flags.Refers n ∨ s.ruleSegments.Refers n

/-- Whether stored rules begin to refer to a segment. -/
def Stores.Gains (s t : Stores) (n : String) : Prop :=
  t.Refers n ∧ ¬s.Refers n

theorem Delta.mem_segmentNames {α : Type} [Rule α] {d : Delta α} :
    n ∈ d.segmentNames ↔ ∃ r ∈ d.additions, n ∈ Rule.segmentNames r := by
  have h : ∀ (rs : List α) (s : Names),
      n ∈ rs.foldl (fun s r => s.union (Rule.segmentNames r)) s ↔
        n ∈ s ∨ ∃ r ∈ rs, n ∈ Rule.segmentNames r := by
    intro rs
    induction rs with
    | nil => simp
    | cons r rs ih =>
      intro s
      rw [List.foldl_cons, ih, Names.mem_union, or_assoc]
      simp only [List.mem_cons, exists_eq_or_imp]
  rw [segmentNames, h]
  simp

/-- What a store refers to after a delta it referred to before, or the delta does. -/
theorem RuleStore.refers_advance {α : Type} [Rule α] {s : RuleStore α} {d : Delta α}
    (h : (s.advance d).Refers n) : s.Refers n ∨ n ∈ d.segmentNames := by
  obtain ⟨name, r, hr, hn⟩ := h
  rcases of_get?_advance hr with ⟨hm, -⟩ | hr
  · exact .inr (Delta.mem_segmentNames.mpr ⟨r, hm, hn⟩)
  · exact .inl ⟨name, r, hr, hn⟩

theorem RuleStore.refers_insert_killed {s : RuleStore Flag} {name treatment : String}
    {m : ChangeNumber} {f : Flag} (hf : s.get? name = some f)
    (h : (s.insert (killed f treatment m)).Refers n) : s.Refers n := by
  obtain ⟨name', g, hg, hn⟩ := h
  rw [get?_insert] at hg
  split at hg
  · cases hg
    exact ⟨name, f, hf, hn⟩
  · exact ⟨name', g, hg, hn⟩

namespace Stores

variable {filter : Names} {s t : Stores} {names : Names}

theorem refers_withFlags {p : RulePage Flag} (h : (s.withFlags filter p).Refers n) :
    s.Refers n ∨ n ∈ (Delta.ofPage p (Flag.matchesSets filter)).segmentNames := by
  rcases h with h | h
  · exact (RuleStore.refers_advance h).imp .inl id
  · exact .inl (.inr h)

theorem refers_withRuleSegments {p : RulePage RuleBasedSegment}
    (h : (s.withRuleSegments p).Refers n) :
    s.Refers n ∨ n ∈ (Delta.ofPage p fun _ => true).segmentNames := by
  rcases h with h | h
  · exact .inl (.inl h)
  · exact (RuleStore.refers_advance h).imp .inr id

theorem mem_segmentNames_single {α : Type} [Rule α] {since : ChangeNumber} {r : α}
    {keep : α → Bool} (h : n ∈ (Delta.ofPage (RulePage.single since r) keep).segmentNames) :
    n ∈ if keep r && Rule.active r then Rule.segmentNames r else Names.empty := by
  obtain ⟨q, hq, hn⟩ := Delta.mem_segmentNames.mp h
  obtain ⟨hq, hw⟩ := List.mem_filter.mp hq
  obtain rfl := List.mem_singleton.mp hq
  have hkeep : (keep q && Rule.active q) = true := by
    rw [Bool.and_comm]
    exact hw
  rw [if_pos hkeep]
  exact hn

theorem refers_applyRuleSegments {p : RulePage RuleBasedSegment}
    (h : s.applyRuleSegments p = .ok (t, names)) (ht : t.Refers n) : s.Refers n ∨ n ∈ names := by
  obtain ⟨-, -, -, rfl, rfl⟩ := applyRuleSegments_eq_ok_iff.mp h
  exact refers_withRuleSegments ht

theorem refers_applyFlags {p : RulePage Flag} (h : s.applyFlags filter p = .ok (t, names))
    (ht : t.Refers n) : s.Refers n ∨ n ∈ names := by
  obtain ⟨-, -, -, rfl, rfl⟩ := applyFlags_eq_ok_iff.mp h
  exact refers_withFlags ht

/-- Of an answer that is applied, all segments are told. -/
theorem refers_applyChanges_ok {c : RuleChanges} (h : s.applyChanges filter c = (t, .ok names))
    (ht : t.Refers n) : s.Refers n ∨ n ∈ names := by
  rcases applyChanges_cases filter s c with
    ⟨e, -, h'⟩ | ⟨s₁, names₁, e, h₁, -, h'⟩ | ⟨s₁, names₁, s₂, names₂, h₁, h₂, h'⟩
  · rw [h'] at h
    cases h
  · rw [h'] at h
    cases h
  · rw [h'] at h
    cases h
    rw [Names.mem_union]
    rcases refers_applyFlags h₂ ht with ht | hn
    · exact (refers_applyRuleSegments h₁ ht).imp id .inl
    · exact .inr (.inr hn)

/-- Of an answer that is refused, the page of rule-based segments may stay applied. -/
theorem refers_applyChanges_error {c : RuleChanges} {e : SyncError}
    (h : s.applyChanges filter c = (t, .error e)) (ht : t.Refers n) :
    s.Refers n ∨ ∃ s₁ names₁, s.applyRuleSegments c.segments = .ok (s₁, names₁) ∧
      s₁.applyFlags filter c.flags = .error e ∧ n ∈ names₁ := by
  rcases applyChanges_cases filter s c with
    ⟨e', -, h'⟩ | ⟨s₁, names₁, e', h₁, h₂, h'⟩ | ⟨s₁, names₁, s₂, names₂, -, -, h'⟩
  · rw [h'] at h
    cases h
    exact .inl ht
  · rw [h'] at h
    cases h
    exact (refers_applyRuleSegments h₁ ht).imp id fun hn => ⟨_, names₁, h₁, h₂, hn⟩
  · rw [h'] at h
    cases h

end Stores

/-! ### What a fetch holds and loses -/

/-- Whether a fetch, or the outcome of one, still holds the name of a segment. -/
def Reception.Holds : Reception RuleFetch Names → String → Prop
  | .again f, n => n ∈ f.referenced
  | .over (.ok names), n => n ∈ names
  | .over (.error _), _ => False

/-- Whether a fetch that takes in an answer lets go of the name of a segment for good. -/
inductive RuleFetch.Loses (filter : Names) (f : RuleFetch) (s : Stores)
    (a : Except FetchError RuleChanges) (n : String) : Prop
  /-- The fetch fails, and what it applied before stays applied. -/
  | failed {t : Stores} {e : SyncError} : f.receive filter s a = (t, .over (.error e)) →
      n ∈ f.referenced → Loses filter f s a n
  /-- The page of flags is refused after the page of rule-based segments was applied. -/
  | refused {c : RuleChanges} {t : Stores} {names : Names} {e : SyncError} : a = .ok c →
      s.applyRuleSegments c.segments = .ok (t, names) →
      t.applyFlags filter c.flags = .error e → n ∈ names → Loses filter f s a n

/-- **What the stores begin to refer to, and what the fetch held before, the fetch holds
afterwards or loses.** -/
theorem RuleFetch.receive_keeps {filter : Names} {f : RuleFetch} {s t : Stores}
    {a : Except FetchError RuleChanges} {x : Reception RuleFetch Names}
    (h : f.receive filter s a = (t, x)) (hn : s.Gains t n ∨ n ∈ f.referenced) :
    x.Holds n ∨ f.Loses filter s a n := by
  cases a with
  | error e =>
    cases h
    rcases hn with ⟨hn, hnot⟩ | hn
    · exact absurd hn hnot
    · exact .inr (.failed rfl hn)
  | ok c =>
    rcases receive_cases filter f s c with ⟨t', names, ht, hr⟩ | ⟨t', e, ht, hr⟩
    · have hheld : s.Gains t' n ∨ n ∈ f.referenced → n ∈ f.referenced.union names := by
        rintro (⟨hn, hnot⟩ | hn)
        · have hn := (Stores.refers_applyChanges_ok ht hn).resolve_left hnot
          exact Names.mem_union.mpr (.inr hn)
        · exact Names.mem_union.mpr (.inl hn)
      rcases hr with hr | hr
      · rw [hr] at h
        cases h
        exact .inl (hheld hn)
      · rw [hr] at h
        cases h
        exact .inl (hheld hn)
    · have hlost : s.Gains t' n → f.Loses filter s (.ok c) n := by
        rintro ⟨hn, hnot⟩
        obtain ⟨s₁, names, h₁, h₂, hn⟩ :=
          (Stores.refers_applyChanges_error ht hn).resolve_left hnot
        exact .refused rfl h₁ h₂ hn
      rcases hr with hr | hr
      · have hr' := hr
        rw [hr] at h
        cases h
        exact .inr (hn.elim hlost (.failed hr'))
      · rw [hr] at h
        cases h
        exact hn.symm.imp id hlost

/-! ### Notifications -/

theorem Replica.contains_track {r : Replica} {names : Names} :
    (r.track names).1.registry.contains n = true ↔ r.registry.contains n = true ∨ n ∈ names := by
  have h := Registry.contains_register (r := r.registry) (n := n) names.toList
  rw [Names.mem_toList] at h
  exact h

/-- **A notification that stores a definition registers the segments it refers to.** -/
theorem Replica.dispatch_keeps (filter : Names) (busy : Bool) (r : Replica) (m : Notification)
    (hn : (r.dispatch filter busy m).1.stores.Refers n) :
    r.stores.Refers n ∨ (r.dispatch filter busy m).1.registry.contains n = true := by
  have hd := r.dispatched filter busy m
  revert hd hn
  generalize (r.dispatch filter busy m).1 = r'
  intro hn hd
  cases hd with
  | same _ hs _ =>
    rw [hs] at hn
    exact .inl hn
  | flag _ hp =>
    rcases Stores.applyPushedFlag_cases hp with ⟨rfl, -⟩ | ⟨-, -, -, rfl, ho⟩
    · exact .inl hn
    · cases ho
      refine (Stores.refers_withFlags hn).imp id fun hn => ?_
      exact contains_track.mpr (.inr (Stores.mem_segmentNames_single hn))
  | ruleSegment _ hp =>
    rcases Stores.applyPushedSegment_cases hp with ⟨rfl, -⟩ | ⟨-, rfl, ho⟩
    · exact .inl hn
    · cases ho
      refine (Stores.refers_withRuleSegments hn).imp id fun hn => ?_
      exact contains_track.mpr (.inr (Stores.mem_segmentNames_single hn))
  | kill hf _ =>
    rcases hn with hn | hn
    · exact .inl (.inl (RuleStore.refers_insert_killed hf hn))
    · exact .inl (.inr hn)

theorem Replica.contains_dispatch (filter : Names) (busy : Bool) (r : Replica) (m : Notification)
    (hn : r.registry.contains n = true) :
    (r.dispatch filter busy m).1.registry.contains n = true := by
  have hd := r.dispatched filter busy m
  revert hd
  generalize (r.dispatch filter busy m).1 = r'
  intro hd
  cases hd with
  | same _ _ hr => exact hr n hn
  | flag _ _ => exact contains_track.mpr (.inl hn)
  | ruleSegment _ _ => exact contains_track.mpr (.inl hn)
  | kill _ _ => exact hn

end Halyard

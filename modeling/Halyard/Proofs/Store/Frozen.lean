/-
# Frozen stores

Freezing is how a client keeps what it has once it stops: every write asks first
whether its store is frozen. What matters is that no path to a store looks at the
store, or makes room for a segment, in a way that would show afterwards. Each of
them is therefore compared with itself on the store that is not frozen: it is
refused, or it does nothing on either (`Stores.write_freeze`). So frozen stores stay
as they are, whatever is written to them.

Key definitions: `Stores.Write`, `Stores.write`, `Stores.Read`, `Stores.ask`.
Key theorems: `Stores.applyPushedFlag_freeze`, `Stores.applyChanges_freeze`,
`Stores.write_freeze`, `Stores.ask_freeze`.
-/
import Halyard.Proofs.Store.Offers
import Halyard.Proofs.Store.References

namespace Halyard

/-! ### Writes to one store -/

namespace RuleStore

variable {α : Type} [Rule α]

theorem applyDelta_freeze (s : RuleStore α) (d : Delta α) :
    s.freeze.applyDelta d = .error .frozen := by
  rw [applyDelta_eq]
  exact if_pos rfl

theorem applyEntity_freeze (s : RuleStore α) (r : α) (keep : Bool) :
    s.freeze.applyEntity r keep = .error .frozen := by
  rw [applyEntity_eq]
  exact if_pos rfl

theorem kill_freeze (s : RuleStore Flag) (name treatment : String) (n : ChangeNumber) :
    s.freeze.kill name treatment n = .error .frozen := rfl

/-- A definition that was computed against a change number is turned down before anything is
written, or it is refused. -/
theorem applyPushed_freeze (s : RuleStore α) (r : α) (previous : Option ChangeNumber)
    (keep : Bool) :
    s.freeze.applyPushed r previous keep = .error .frozen ∨
      ∃ o, s.applyPushed r previous keep = .ok (s, o) ∧
        s.freeze.applyPushed r previous keep = .ok (s.freeze, o) := by
  have hunfrozen := s.applyPushed_eq r previous fun _ => keep
  have hfrozen := s.freeze.applyPushed_eq r previous fun _ => keep
  rw [hunfrozen, hfrozen]
  by_cases hstale : Rule.changeNumber r ≤ s.watermark
  · exact .inr ⟨.stale, if_pos hstale, if_pos hstale⟩
  have hstale' : ¬ Rule.changeNumber r ≤ s.freeze.watermark := hstale
  rw [if_neg hstale, if_neg hstale']
  by_cases hgap : previous ≠ some s.watermark
  · exact .inr ⟨.needsFetch, if_pos hgap, if_pos hgap⟩
  have hgap' : ¬ previous ≠ some s.freeze.watermark := hgap
  rw [if_neg hgap']
  exact .inl (if_pos rfl)

/-- A frozen store refuses every write. Freezing it again is none. -/
theorem Write.answer_freeze (s : RuleStore α) (w : Write α) :
    w.answer s.freeze = .error .frozen ∨ (w = .freeze ∧ w.answer s.freeze = .ok s.freeze) := by
  cases w with
  | put r => exact .inl rfl
  | remove name => exact .inl rfl
  | delta d => exact .inl (congrArg (Except.map (·.1)) (s.applyDelta_freeze d))
  | entity r keep => exact .inl (congrArg (Except.map (·.1)) (s.applyEntity_freeze r keep))
  | watermark n => exact .inl rfl
  | freeze => exact .inr ⟨rfl, rfl⟩

theorem FlagWrite.answer_freeze (s : RuleStore Flag) (w : FlagWrite) :
    w.answer s.freeze = .error .frozen ∨
      (w = .write .freeze ∧ w.answer s.freeze = .ok s.freeze) := by
  cases w with
  | write w =>
    refine (w.answer_freeze s).imp_right fun ⟨hw, hanswer⟩ => ⟨congrArg FlagWrite.write hw, ?_⟩
    exact hanswer
  | kill name treatment n =>
    exact .inl (congrArg (Except.map (·.1)) (s.kill_freeze name treatment n))

omit [Rule α] in
theorem settle_self {s : RuleStore α} {answer : Except SyncError (RuleStore α)} {p : Prop}
    (h : answer = .error .frozen ∨ (p ∧ answer = .ok s)) : s.settle answer = s := by
  rcases h with rfl | ⟨-, rfl⟩
  · rfl
  · rfl

end RuleStore

namespace Stores

variable {s : Stores} {filter : Names}

/-! ### Writes that look at the stores first -/

/-- What freezing does to an attempt: it is refused, or it left the stores before and still does,
with the same answer. -/
def Blocked {β : Type} (s : Stores) (x y : Except SyncError (Stores × β)) : Prop :=
  y = .error .frozen ∨ ∃ b, x = .ok (s, b) ∧ y = .ok (s.freeze, b)

theorem applyPushedFlag_freeze (s : Stores) (filter : Names) (busy : Bool) (f : Flag)
    (previous : Option ChangeNumber) :
    Blocked s (s.applyPushedFlag filter busy f previous)
      (s.freeze.applyPushedFlag filter busy f previous) := by
  unfold applyPushedFlag
  by_cases hbusy : busy = true
  · rw [if_pos hbusy, if_pos hbusy]
    exact .inr ⟨.needsFetch, rfl, rfl⟩
  rw [if_neg hbusy, if_neg hbusy]
  by_cases hlacks : (decide (s.flags.watermark < f.changeNumber) && s.lacksRuleSegments f) = true
  · have hlacks' : (decide (s.freeze.flags.watermark < f.changeNumber) &&
        s.freeze.lacksRuleSegments f) = true := hlacks
    rw [if_pos hlacks, if_pos hlacks']
    exact .inr ⟨.needsFetch, rfl, rfl⟩
  have hlacks' : ¬ (decide (s.freeze.flags.watermark < f.changeNumber) &&
      s.freeze.lacksRuleSegments f) = true := hlacks
  rw [if_neg hlacks, if_neg hlacks']
  have hfrozen : s.freeze.flags = s.flags.freeze := rfl
  rcases s.flags.applyPushed_freeze f previous (f.matchesSets filter) with h | ⟨o, h, h'⟩
  · rw [hfrozen, h]
    exact .inl rfl
  · rw [hfrozen, h, h']
    exact .inr ⟨o, rfl, rfl⟩

theorem applyPushedSegment_freeze (s : Stores) (busy : Bool) (r : RuleBasedSegment)
    (previous : Option ChangeNumber) :
    Blocked s (s.applyPushedSegment busy r previous)
      (s.freeze.applyPushedSegment busy r previous) := by
  unfold applyPushedSegment
  by_cases hbusy : busy = true
  · rw [if_pos hbusy, if_pos hbusy]
    exact .inr ⟨.needsFetch, rfl, rfl⟩
  rw [if_neg hbusy, if_neg hbusy]
  have hfrozen : s.freeze.ruleSegments = s.ruleSegments.freeze := rfl
  rcases s.ruleSegments.applyPushed_freeze r previous true with h | ⟨o, h, h'⟩
  · rw [hfrozen, h]
    exact .inl rfl
  · rw [hfrozen, h, h']
    exact .inr ⟨o, rfl, rfl⟩

/-- The first page of an answer is refused, and with it the answer. -/
theorem applyChanges_freeze (s : Stores) (filter : Names) (c : RuleChanges) :
    s.freeze.applyChanges filter c = (s.freeze, .error .frozen) := by
  have hpage : s.freeze.applyRuleSegments c.segments = .error .frozen := by
    unfold applyRuleSegments
    have hdelta := s.ruleSegments.applyDelta_freeze (Delta.ofPage c.segments fun _ => true)
    have hfrozen : s.freeze.ruleSegments = s.ruleSegments.freeze := rfl
    rw [hfrozen, hdelta]
    rfl
  unfold applyChanges
  rw [hpage]

theorem Blocked.fst_attempt {β : Type} {x y : Except SyncError (Stores × β)} (h : Blocked s x y) :
    (attempt s.freeze y).1 = s.freeze := by
  rcases h with rfl | ⟨b, -, rfl⟩ <;> rfl

/-! ### All writes -/

/-- What may be written to the stores: to one of them by itself, and a whole answer to a fetch or
a definition that came with an announcement. -/
inductive Write where
  | flags (w : RuleStore.FlagWrite)
  | ruleSegments (w : RuleStore.Write RuleBasedSegment)
  | segment (c : SegmentChanges)
  | segmentWatermark (name : String) (n : ChangeNumber)
  | freezeSegments
  | answer (filter : Names) (c : RuleChanges)
  | announcedFlag (filter : Names) (busy : Bool) (f : Flag) (previous : Option ChangeNumber)
  | announcedSegment (busy : Bool) (r : RuleBasedSegment) (previous : Option ChangeNumber)

/-- The stores after a write, and whether it failed. -/
def write (s : Stores) : Write → Stores × Except SyncError Unit
  | .flags w =>
    ({ s with flags := s.flags.settle (w.answer s.flags) }, (w.answer s.flags).map fun _ => ())
  | .ruleSegments w =>
    ({ s with ruleSegments := s.ruleSegments.settle (w.answer s.ruleSegments) },
      (w.answer s.ruleSegments).map fun _ => ())
  | .segment c =>
    ({ s with segments := (s.segments.applyDelta c).1 },
      (s.segments.applyDelta c).2.map fun _ => ())
  | .segmentWatermark name n =>
    match s.segments.setWatermark name n with
    | .ok t => ({ s with segments := t }, .ok ())
    | .error e => (s, .error e)
  | .freezeSegments => ({ s with segments := s.segments.freeze }, .ok ())
  | .answer filter c => ((s.applyChanges filter c).1, (s.applyChanges filter c).2.map fun _ => ())
  | .announcedFlag filter busy f previous =>
    (attempt s (s.applyPushedFlag filter busy f previous)).map id (·.map fun _ => ())
  | .announcedSegment busy r previous =>
    (attempt s (s.applyPushedSegment busy r previous)).map id (·.map fun _ => ())

/-- What a write does to frozen stores: they stay as they are, and the write fails, unless it
leaves what the stores hold also when they are not frozen. -/
structure Withstands (s : Stores) (w : Write) : Prop where
  stays : (s.freeze.write w).1 = s.freeze
  refused : (s.freeze.write w).2 = .error .frozen ∨ (s.write w).1.freeze = s.freeze

theorem withstands_flags (s : Stores) (w : RuleStore.FlagWrite) : s.Withstands (.flags w) := by
  have hanswer := w.answer_freeze s.flags
  have hsettle : s.flags.freeze.settle (w.answer s.flags.freeze) = s.flags.freeze :=
    RuleStore.settle_self hanswer
  refine ⟨congrArg (fun t => { s.freeze with flags := t }) hsettle, ?_⟩
  rcases hanswer with h | ⟨rfl, -⟩
  · exact .inl (congrArg (Except.map fun _ => ()) h)
  · exact .inr rfl

theorem withstands_ruleSegments (s : Stores) (w : RuleStore.Write RuleBasedSegment) :
    s.Withstands (.ruleSegments w) := by
  have hanswer := w.answer_freeze s.ruleSegments
  have hsettle : s.ruleSegments.freeze.settle (w.answer s.ruleSegments.freeze) =
      s.ruleSegments.freeze := RuleStore.settle_self hanswer
  refine ⟨congrArg (fun t => { s.freeze with ruleSegments := t }) hsettle, ?_⟩
  rcases hanswer with h | ⟨rfl, -⟩
  · exact .inl (congrArg (Except.map fun _ => ()) h)
  · exact .inr rfl

theorem Blocked.refused {β : Type} {x y : Except SyncError (Stores × β)} (h : Blocked s x y) :
    (attempt s.freeze y).2.map (fun _ => ()) = .error .frozen ∨
      (attempt s x).1.freeze = s.freeze := by
  rcases h with rfl | ⟨b, rfl, -⟩
  · exact .inl rfl
  · exact .inr rfl

/-- **A write to frozen stores leaves them as they are.** It is refused, or it would not have
changed what they hold in the first place. -/
theorem write_freeze (s : Stores) (w : Write) : s.Withstands w := by
  cases w with
  | flags w => exact s.withstands_flags w
  | ruleSegments w => exact s.withstands_ruleSegments w
  -- a page of a segment is refused before room is made for the segment
  | segment c => exact ⟨rfl, .inl rfl⟩
  | segmentWatermark name n => exact ⟨rfl, .inl rfl⟩
  | freezeSegments => exact ⟨rfl, .inr rfl⟩
  | answer filter c =>
    have h := s.applyChanges_freeze filter c
    refine ⟨congrArg Prod.fst h, .inl ?_⟩
    exact congrArg (fun x => x.2.map fun _ => ()) h
  | announcedFlag filter busy f previous =>
    have h := s.applyPushedFlag_freeze filter busy f previous
    exact ⟨h.fst_attempt, h.refused⟩
  | announcedSegment busy r previous =>
    have h := s.applyPushedSegment_freeze busy r previous
    exact ⟨h.fst_attempt, h.refused⟩

/-! ### Reads -/

end Stores

/-- What a store of rules may be asked, by the type of the answer. -/
inductive RuleStore.Read (α : Type) : Type → Type 1 where
  | rule (name : String) : Read α (Option α)
  | items {γ : Type} (f : Dict α → γ) : Read α γ
  | referencing (segment : String) : Read α Names
  | segmentNames : Read α Names
  | watermark : Read α ChangeNumber

/-- What a store of rules answers. -/
def RuleStore.ask {α γ : Type} [Rule α] (s : RuleStore α) : RuleStore.Read α γ → γ
  | .rule name => s.get? name
  | .items f => f s.items
  | .referencing segment => s.referencing segment
  | .segmentNames => s.segmentNames
  | .watermark => s.watermark

namespace Stores

/-- What the stores may be asked, by the type of the answer. -/
inductive Read : Type → Type 1 where
  | flags {γ : Type} (q : RuleStore.Read Flag γ) : Read γ
  | flagsBySets (sets : List String) : Read (Dict Names)
  | ruleBasedSegmentNames : Read Names
  | ruleSegments {γ : Type} (q : RuleStore.Read RuleBasedSegment γ) : Read γ
  | contains (segment key : String) : Read (Option Bool)
  | memberCount (segment : String) : Read Nat
  | watermark (segment : String) : Read ChangeNumber
  | segmentNames : Read (List String)

/-- What the stores answer. -/
def ask {γ : Type} (s : Stores) : Read γ → γ
  | .flags q => s.flags.ask q
  | .flagsBySets sets => s.flags.namesBySets sets
  | .ruleBasedSegmentNames => s.flags.ruleBasedSegmentNames
  | .ruleSegments q => s.ruleSegments.ask q
  | .contains segment key => s.segments.contains? segment key
  | .memberCount segment => s.segments.memberCount segment
  | .watermark segment => s.segments.watermark segment
  | .segmentNames => s.segments.segments.keys

theorem ask_freeze {γ : Type} (s : Stores) (q : Read γ) : s.freeze.ask q = s.ask q := by
  cases q with
  | flags q => cases q <;> rfl
  | ruleSegments q => cases q <;> rfl
  | _ => rfl

end Stores

end Halyard

/-
# Writes that are made twice

The same page, definition, kill or segment delta may arrive twice. A write that was
accepted is refused the second time, or it is accepted again and leaves what is
there (`RuleStore.Write.again`): a delta that went forward leaves a gap the second
time, and one that stayed where it began is gone through again, its removals undone
by its additions. So to make a write twice in a row is to make it once
(`redelivery_is_harmless`), whatever the stores held before, even if an index was
not exact.

Key definitions: `RuleStore.Repeats`.
Key theorems: `RuleStore.Write.again`, `RuleStore.FlagWrite.again`,
`SegmentStore.applyDelta_applyDelta`, `redelivery_is_harmless`.
-/
import Halyard.Proofs.Store.Deltas
import Halyard.Proofs.Store.Mentions

namespace Halyard

namespace RuleStore

section Rules

variable {α : Type} [Rule α] {s t : RuleStore α}

/-! ### Single rules -/

theorem insert_insert (s : RuleStore α) (r : α) : (s.insert r).insert r = s.insert r := by
  rw [insert_eq_assign, insert_eq_assign, assign_self]

theorem erase_erase (s : RuleStore α) (n : String) : (s.erase n).erase n = s.erase n := by
  rw [erase_eq_assign, erase_eq_assign, assign_self]

/-! ### Writes -/

/-- Whether a store refuses a write, or answers with itself. -/
def Repeats (t : RuleStore α) (answer : Except SyncError (RuleStore α)) : Prop :=
  (∃ e, answer = .error e) ∨ answer = .ok t

omit [Rule α] in
theorem settle_again (write : RuleStore α → Except SyncError (RuleStore α))
    (h : ∀ {t}, write s = .ok t → t.Repeats (write t)) :
    (s.settle (write s)).settle (write (s.settle (write s))) = s.settle (write s) := by
  cases hs : write s with
  | error e =>
    show s.settle (write s) = s
    rw [hs]
    rfl
  | ok t =>
    show t.settle (write t) = t
    rcases h hs with ⟨e, he⟩ | ht
    · rw [he]
      rfl
    · rw [ht]
      rfl

/-- A delta that was accepted leaves a gap the second time, unless it ends where it begins. Then
it is accepted again, with the same answer. -/
theorem applyDelta_again {d : Delta α} {o : DeltaOutcome} (h : s.applyDelta d = .ok (t, o)) :
    t.applyDelta d =
      if d.since = d.till then .ok (t, o) else .error (.gap d.till d.since) := by
  obtain ⟨hf, hsince, htill, rfl, rfl⟩ := applyDelta_eq_ok_iff.mp h
  by_cases hstays : d.since = d.till
  · rw [if_pos hstays]
    refine applyDelta_eq_ok_iff.mpr ⟨?_, hstays, htill, advance_advance s d, rfl⟩
    rw [frozen_advance, hf]
  · have hwritable : ¬ (s.advance d).frozen = true := by
      rw [frozen_advance, hf]
      exact Bool.false_ne_true
    rw [if_neg hstays, applyDelta_eq, if_neg hwritable, watermark_advance, if_pos hstays]

theorem applyEntity_again {r : α} {keep : Bool} {o : EntityOutcome}
    (h : s.applyEntity r keep = .ok (t, o)) : t.applyEntity r keep = .ok (t, .stale) := by
  have hwritable : ¬ s.frozen = true := fun hf => by
    rw [applyEntity_eq, if_pos hf] at h
    cases h
  have hstale : ∀ u : RuleStore α, ¬ u.frozen = true → Rule.changeNumber r ≤ u.watermark →
      u.applyEntity r keep = .ok (u, .stale) := fun u hf hle => by
    rw [applyEntity_eq, if_neg hf, if_pos hle]
  by_cases hold : Rule.changeNumber r ≤ s.watermark
  · rw [hstale s hwritable hold] at h
    cases h
    exact hstale s hwritable hold
  · rw [applyEntity_eq, if_neg hwritable, if_neg hold] at h
    cases h
    refine hstale _ ?_ (Int.le_refl _)
    show ¬ (if Rule.active r && keep then s.insert r else s.erase (Rule.name r)).frozen = true
    split
    · rw [frozen_insert]
      exact hwritable
    · rw [frozen_erase]
      exact hwritable

/-- **A write that was accepted is refused the second time, or leaves what is there.** -/
theorem Write.again {w : Write α} (h : w.answer s = .ok t) : t.Repeats (w.answer t) := by
  cases w with
  | put r =>
    obtain ⟨hf, ht⟩ := writable_bind_eq_ok_iff.mp h
    obtain rfl := Except.ok.inj ht
    exact .inr (writable_bind_eq_ok_iff.mpr ⟨(frozen_insert r).trans hf,
      congrArg Except.ok (insert_insert s r)⟩)
  | remove name =>
    obtain ⟨b, hb⟩ := map_fst_eq_ok_iff.mp h
    obtain ⟨hf, ht⟩ := writable_bind_eq_ok_iff.mp hb
    cases ht
    have hremoved : (s.erase name).remove name =
        .ok (s.erase name, (s.erase name).items.contains name) := by
      refine writable_bind_eq_ok_iff.mpr ⟨(frozen_erase name).trans hf, ?_⟩
      rw [erase_erase]
      rfl
    exact .inr (map_fst_eq_ok_iff.mpr ⟨_, hremoved⟩)
  | delta d =>
    obtain ⟨o, ho⟩ := map_fst_eq_ok_iff.mp h
    have hagain := applyDelta_again ho
    by_cases hstays : d.since = d.till
    · rw [if_pos hstays] at hagain
      exact .inr (map_fst_eq_ok_iff.mpr ⟨o, hagain⟩)
    · rw [if_neg hstays] at hagain
      refine .inl ⟨.gap d.till d.since, ?_⟩
      show (t.applyDelta d).map (·.1) = _
      rw [hagain]
      rfl
  | entity r keep =>
    obtain ⟨o, ho⟩ := map_fst_eq_ok_iff.mp h
    exact .inr (map_fst_eq_ok_iff.mpr ⟨.stale, applyEntity_again ho⟩)
  | watermark n =>
    obtain ⟨hf, ht⟩ := writable_bind_eq_ok_iff.mp h
    obtain rfl := Except.ok.inj ht
    exact .inr (writable_bind_eq_ok_iff.mpr ⟨hf, rfl⟩)
  | freeze =>
    obtain rfl := Except.ok.inj h
    exact .inr rfl

end Rules

/-! ### Kills -/

theorem kill_of_get? {s : RuleStore Flag} {name : String} {f : Flag} (hf : s.frozen = false)
    (hget : s.get? name = some f) (treatment : String) (n : ChangeNumber) :
    s.kill name treatment n =
      if n ≤ f.changeNumber then .ok (s, false)
      else .ok (s.insert (killed f treatment n), true) := by
  have hwritable : ¬ s.frozen = true := Bool.eq_false_iff.mp hf
  unfold kill writable
  rw [if_neg hwritable, hget]
  rfl

/-- A flag that was killed is not older the second time. A store that has a flag under a name
other than its own kills it again in the same way. -/
theorem kill_again {s t : RuleStore Flag} {name treatment : String} {n : ChangeNumber} {b : Bool}
    (h : s.kill name treatment n = .ok (t, b)) : ∃ b', t.kill name treatment n = .ok (t, b') := by
  have hwritable : s.frozen = false := (writable_bind_eq_ok_iff.mp h).1
  rcases kill_cases h with ⟨rfl, rfl⟩ | ⟨f, hget, holder, rfl, rfl⟩
  · exact ⟨false, h⟩
  have hwritable' : (s.insert (killed f treatment n)).frozen = false :=
    (frozen_insert _).trans hwritable
  have hget' := get?_insert (s := s) (killed f treatment n) name
  rw [name_killed] at hget'
  by_cases hname : name = f.name
  · rw [if_pos hname] at hget'
    rw [kill_of_get? hwritable' hget', changeNumber_killed, if_pos (Int.le_refl n)]
    exact ⟨false, rfl⟩
  · rw [if_neg hname, hget] at hget'
    rw [kill_of_get? hwritable' hget', if_neg (Int.not_le.mpr holder), insert_insert]
    exact ⟨true, rfl⟩

theorem FlagWrite.again {s t : RuleStore Flag} {w : FlagWrite} (h : w.answer s = .ok t) :
    t.Repeats (w.answer t) := by
  cases w with
  | write w => exact Write.again h
  | kill name treatment n =>
    obtain ⟨b, hb⟩ := map_fst_eq_ok_iff.mp h
    obtain ⟨b', hb'⟩ := kill_again hb
    exact .inr (map_fst_eq_ok_iff.mpr ⟨b', hb'⟩)

end RuleStore

namespace SegmentStore

variable {s : SegmentStore} {c : SegmentChanges} {name : String}

theorem advance_advance (seg : Segment) (c : SegmentChanges) :
    Segment.advance (Segment.advance seg c) c = Segment.advance seg c := by
  have hmembers : (Segment.advance (Segment.advance seg c) c).members =
      (Segment.advance seg c).members := by
    refine Names.ext fun key => ?_
    simp only [mem_members_advance]
    tauto
  show Segment.mk (Segment.advance (Segment.advance seg c) c).members c.till = _
  rw [hmembers]
  rfl

theorem set_set (seg seg' : Segment) : (s.set name seg).set name seg' = s.set name seg' := by
  have hd : (s.segments.insert name seg).insert name seg' = s.segments.insert name seg' := by
    refine Dict.ext_get? fun m => ?_
    simp only [Dict.get?_insert]
    split <;> rfl
  rw [set, set, set, hd]

theorem get?_set_self (seg : Segment) : (s.set name seg).segments.get? name ≠ none :=
  fun h => (get?_set_eq_none_iff.mp h).1 rfl

theorem applyDelta_of_there (hthere : s.segments.get? c.name ≠ none) :
    (s.applyDelta c).1 = s ∨
      (c.since = s.watermark c.name ∧ c.since ≤ c.till ∧
        (s.applyDelta c).1 = s.set c.name (Segment.advance (s.get c.name) c)) := by
  rcases applyDelta_cases s c with ⟨-, h⟩ | ⟨-, h⟩ | ⟨hsince, htill, h⟩
  · exact .inl h
  · exact .inl (h.trans (set_get hthere))
  · rw [set_get hthere] at h
    exact .inr ⟨hsince, htill, h⟩

/-- **To offer the same delta of a segment twice is to offer it once.** -/
theorem applyDelta_applyDelta (s : SegmentStore) (c : SegmentChanges) :
    ((s.applyDelta c).1.applyDelta c).1 = (s.applyDelta c).1 := by
  rcases applyDelta_cases s c with ⟨-, h⟩ | ⟨hrefused, h⟩ | ⟨-, -, h⟩
  · rw [h, h]
  · rw [h]
    rcases applyDelta_of_there (get?_set_self (s.get c.name)) with h' | ⟨hsince, htill, -⟩
    · exact h'
    · rw [watermark, get_set_get] at hsince
      exact absurd ⟨hsince, htill⟩ hrefused
  · rw [h, set_set]
    rcases applyDelta_of_there (get?_set_self (Segment.advance (s.get c.name) c)) with
      h' | ⟨-, -, h'⟩
    · exact h'
    · rw [h', get_set, if_pos rfl, set_set, advance_advance]

end SegmentStore

/-- **Redelivery is harmless.** To make a write twice in a row leaves what to make it once leaves:
rules, index, watermark and all else of a store of flags or of rule-based segments, for every kind
of write, and the segments with their members and watermarks for every delta of a segment. It does
not matter what the store held before, nor whether the write is accepted. -/
theorem redelivery_is_harmless :
    (∀ (s : RuleStore Flag) (w : RuleStore.FlagWrite), s.flagWrites [w, w] = s.flagWrites [w]) ∧
    (∀ (s : RuleStore RuleBasedSegment) (w : RuleStore.Write RuleBasedSegment),
      s.writes [w, w] = s.writes [w]) ∧
    ∀ (s : SegmentStore) (c : SegmentChanges), s.offers [c, c] = s.offers [c] := by
  refine ⟨fun s w => ?_, fun s w => ?_, fun s c => s.applyDelta_applyDelta c⟩
  · exact RuleStore.settle_again w.answer RuleStore.FlagWrite.again
  · exact RuleStore.settle_again w.answer RuleStore.Write.again

end Halyard

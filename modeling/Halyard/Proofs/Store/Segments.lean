/-
# The store of segments against the roster of the backend

The backend knows who belongs to a segment at every change number, and answers
a fetch with who joined and who left between two of them. A delta that begins
at the watermark of a segment therefore leads from its members at one change
number to its members at another; a delta that does not is refused and leaves
everything as it is.

Key definitions: `Roster`, `Roster.Explains`, `Roster.Matches`,
`SegmentStore.Precedes`.
Key theorems: `SegmentStore.applyDelta_outcomes`, `Roster.matches_receive`,
`SegmentStore.receive_of_superseded`.
-/
import Mathlib.Data.Set.Basic
import Halyard.Fetch.Segments
import Halyard.Proofs.Names

namespace Halyard

namespace SegmentStore

variable {s t u : SegmentStore} {name : String}

theorem get_set (name m : String) (seg : Segment) :
    (s.set name seg).get m = if m = name then seg else s.get m := by
  unfold get set
  rw [Dict.get?_insert]
  by_cases h : m = name
  · rw [if_pos h, if_pos h, Option.getD_some]
  · rw [if_neg h, if_neg h]

theorem get?_set_of_ne {m : String} {seg : Segment} (h : m ≠ name) :
    (s.set name seg).segments.get? m = s.segments.get? m := by
  unfold set
  rw [Dict.get?_insert, if_neg h]

theorem get?_set_eq_none_iff {m : String} {seg : Segment} :
    (s.set name seg).segments.get? m = none ↔ m ≠ name ∧ s.segments.get? m = none := by
  unfold set
  rw [Dict.get?_insert]
  by_cases h : m = name <;> simp [h]

theorem get_of_get?_eq_none (h : s.segments.get? name = none) : s.get name = unknown := by
  rw [get, h, Option.getD_none]

theorem watermark_of_get?_eq_none (h : s.segments.get? name = none) :
    s.watermark name = unsynced := by
  rw [watermark, get_of_get?_eq_none h]
  rfl

theorem set_get (h : s.segments.get? name ≠ none) : s.set name (s.get name) = s := by
  have hd : s.segments.insert name (s.get name) = s.segments := by
    refine Dict.ext_get? fun n => ?_
    rw [Dict.get?_insert]
    by_cases hn : n = name
    · subst hn
      rw [if_pos rfl, get]
      cases hs : s.segments.get? n with
      | none => exact absurd hs h
      | some seg => rfl
    · rw [if_neg hn]
  rw [set, hd]

theorem mem_members_advance {seg : Segment} {c : SegmentChanges} {k : String} :
    k ∈ (Segment.advance seg c).members ↔ k ∈ c.added ∨ k ∉ c.removed ∧ k ∈ seg.members := by
  rw [Segment.advance, Names.mem_foldl_add, Names.mem_foldl_erase]

/-- A delta is refused by a frozen store, if it does not begin at the watermark, and if it
leads back; else it is applied. A refusal may let the segment appear. -/
theorem applyDelta_outcomes (s : SegmentStore) (c : SegmentChanges) :
    (s.frozen = true ∧ s.applyDelta c = (s, .error .frozen)) ∨
    (c.since ≠ s.watermark c.name ∧
      s.applyDelta c =
        (s.set c.name (s.get c.name), .error (.gap (s.watermark c.name) c.since))) ∨
    (c.till < c.since ∧ ∃ text,
      s.applyDelta c = (s.set c.name (s.get c.name), .error (.malformedPayload text))) ∨
    (c.since = s.watermark c.name ∧ c.since ≤ c.till ∧
      s.applyDelta c =
        ((s.set c.name (s.get c.name)).set c.name (Segment.advance (s.get c.name) c),
          .ok (effective c))) := by
  unfold applyDelta
  by_cases hf : s.frozen = true
  · rw [if_pos hf]
    exact .inl ⟨hf, rfl⟩
  rw [if_neg hf]
  by_cases hs : c.since ≠ (s.get c.name).watermark
  · rw [if_pos hs]
    exact .inr (.inl ⟨hs, rfl⟩)
  rw [if_neg hs]
  by_cases ht : c.till < c.since
  · rw [if_pos ht]
    exact .inr (.inr (.inl ⟨ht, _, rfl⟩))
  · rw [if_neg ht]
    exact .inr (.inr (.inr ⟨Decidable.not_not.mp hs, Int.not_lt.mp ht, rfl⟩))

theorem applyDelta_cases (s : SegmentStore) (c : SegmentChanges) :
    (s.frozen = true ∧ (s.applyDelta c).1 = s) ∨
    (¬(c.since = s.watermark c.name ∧ c.since ≤ c.till) ∧
      (s.applyDelta c).1 = s.set c.name (s.get c.name)) ∨
    (c.since = s.watermark c.name ∧ c.since ≤ c.till ∧
      (s.applyDelta c).1 =
        (s.set c.name (s.get c.name)).set c.name (Segment.advance (s.get c.name) c)) := by
  rcases applyDelta_outcomes s c with ⟨hf, h⟩ | ⟨hs, h⟩ | ⟨ht, text, h⟩ | ⟨hs, ht, h⟩
  · exact .inl ⟨hf, by rw [h]⟩
  · exact .inr (.inl ⟨fun hc => hs hc.1, by rw [h]⟩)
  · exact .inr (.inl ⟨fun hc => absurd ht (Int.not_lt.mpr hc.2), by rw [h]⟩)
  · exact .inr (.inr ⟨hs, ht, by rw [h]⟩)

theorem receive_fst (f : SegmentFetch) (c : SegmentChanges) :
    (f.receive name s (.ok c)).1 = (s.applyDelta { c with name := name }).1 := by
  unfold SegmentFetch.receive
  simp only
  generalize s.applyDelta { c with name := name } = x
  obtain ⟨t, r⟩ := x
  cases r with
  | ok changed =>
    simp only
    split <;> rfl
  | error e =>
    cases e with
    | gap expected got =>
      simp only
      split <;> rfl
    | _ => rfl

/-- Whether the one store may become the other: a segment goes on to a later watermark, and
never disappears. -/
def Precedes (name : String) (s t : SegmentStore) : Prop :=
  s.watermark name ≤ t.watermark name ∧
    (t.segments.get? name = none → s.segments.get? name = none)

theorem Precedes.refl : Precedes name s s := ⟨Int.le_refl _, id⟩

theorem Precedes.trans (h : Precedes name s t) (h' : Precedes name t u) : Precedes name s u :=
  ⟨Int.le_trans h.1 h'.1, fun hu => h.2 (h'.2 hu)⟩

theorem Precedes.set {m : String} {seg : Segment}
    (h : m = name → s.watermark name ≤ seg.watermark) : Precedes name s (s.set m seg) := by
  constructor
  · unfold watermark
    rw [get_set]
    by_cases hm : name = m
    · rw [if_pos hm]
      exact h hm.symm
    · rw [if_neg hm]
  · intro hn
    exact (get?_set_eq_none_iff.mp hn).2

/-- Whatever a fetch is answered, its segment goes on, and every other one stays. -/
theorem precedes_receive (f : SegmentFetch) (m : String) (a : Except FetchError SegmentChanges) :
    Precedes name s (f.receive m s a).1 := by
  cases a with
  | error e => exact .refl
  | ok c =>
    rw [receive_fst]
    have hget : Precedes name s (s.set m (s.get m)) :=
      .set fun hm => Int.le_of_eq (by rw [hm]; rfl)
    rcases applyDelta_cases s { c with name := m } with ⟨-, h⟩ | ⟨-, h⟩ | ⟨hsince, hle, h⟩
    · rw [h]
      exact .refl
    · rw [h]
      exact hget
    · rw [h]
      refine hget.trans (.set ?_)
      rintro rfl
      have hw : (s.set m (s.get m)).watermark m = s.watermark m := by
        rw [watermark, get_set, if_pos rfl]
        rfl
      rw [hw]
      exact hsince ▸ hle

theorem get?_receive_of_ne {m : String} (hm : m ≠ name) (f : SegmentFetch)
    (a : Except FetchError SegmentChanges) :
    (f.receive name s a).1.segments.get? m = s.segments.get? m := by
  cases a with
  | error e => rfl
  | ok c =>
    rw [receive_fst]
    rcases applyDelta_cases s { c with name := name } with ⟨-, h⟩ | ⟨-, h⟩ | ⟨-, -, h⟩
    · rw [h]
    · rw [h, get?_set_of_ne hm]
    · rw [h, get?_set_of_ne hm, get?_set_of_ne hm]

theorem get?_ne_none_of_receive_ok {f : SegmentFetch} {a : Except FetchError SegmentChanges}
    {keys : Option Nat} (h : f.receive name s a = (t, keys, .over (.ok ()))) :
    t.segments.get? name ≠ none := by
  have happlied : ∀ {c : SegmentChanges} {u : SegmentStore} {b : Bool},
      s.applyDelta c = (u, .ok b) → u.segments.get? c.name ≠ none := by
    intro c u b hc
    rcases applyDelta_outcomes s c with ⟨-, h⟩ | ⟨-, h⟩ | ⟨-, text, h⟩ | ⟨-, -, h⟩
    · cases h.symm.trans hc
    · cases h.symm.trans hc
    · cases h.symm.trans hc
    · cases h.symm.trans hc
      exact fun hnone => (get?_set_eq_none_iff.mp hnone).1 rfl
  cases a with
  | error e => cases h
  | ok c =>
    unfold SegmentFetch.receive at h
    dsimp only at h
    cases hc : s.applyDelta { c with name := name } with
    | mk u r =>
      simp only [hc] at h
      cases r with
      | ok b =>
        dsimp only at h
        split at h
        · cases h
          exact happlied hc
        · cases h
      | error e =>
        exfalso
        cases e with
        | gap expected got =>
          dsimp only at h
          split at h <;> cases h
        | _ => cases h

/-- An answer that was computed for another watermark changes nothing. -/
theorem receive_of_superseded {f : SegmentFetch} {c : SegmentChanges}
    (hsince : c.since ≠ s.watermark name) (hget : s.segments.get? name ≠ none) :
    (f.receive name s (.ok c)).1 = s := by
  rw [receive_fst]
  rcases applyDelta_cases s { c with name := name } with ⟨-, h⟩ | ⟨-, h⟩ | ⟨h, -⟩
  · exact h
  · rw [h]
    exact set_get hget
  · exact absurd h hsince

end SegmentStore

/-- Who belongs to a segment at every change number. -/
structure Roster where
  members : ChangeNumber → Set String
  members_unsynced : members unsynced = ∅

namespace Roster

variable {M : Roster} {s : SegmentStore} {name : String}

/-- Whether a delta is the difference between two change numbers. -/
def Explains (M : Roster) (c : SegmentChanges) : Prop :=
  c.since ≤ c.till ∧ (∀ k, k ∈ c.added ↔ k ∈ M.members c.till \ M.members c.since) ∧
    ∀ k, k ∈ c.removed ↔ k ∈ M.members c.since \ M.members c.till

/-- Whether the members of a segment are those at its watermark. -/
def Matches (M : Roster) (name : String) (s : SegmentStore) : Prop :=
  ∀ k, k ∈ (s.get name).members ↔ k ∈ M.members (s.watermark name)

theorem explains_nothingNew {n : String} {since : ChangeNumber} :
    M.Explains ⟨n, since, since, [], []⟩ :=
  ⟨Int.le_refl _, by simp, by simp⟩

theorem matches_of_get?_eq_none (h : s.segments.get? name = none) : M.Matches name s := by
  intro k
  rw [SegmentStore.watermark_of_get?_eq_none h, SegmentStore.get_of_get?_eq_none h,
    M.members_unsynced]
  exact iff_of_false Names.not_mem_empty (Set.notMem_empty k)

/-- The difference between two change numbers leads from the members at the one to those at
the other. -/
theorem mem_members_advance {c : SegmentChanges} {seg : Segment} (hc : M.Explains c)
    (hseg : ∀ k, k ∈ seg.members ↔ k ∈ M.members c.since) (k : String) :
    k ∈ (SegmentStore.Segment.advance seg c).members ↔ k ∈ M.members c.till := by
  rw [SegmentStore.mem_members_advance, hc.2.1, hc.2.2, hseg, Set.mem_sdiff, Set.mem_sdiff]
  tauto

theorem Matches.set {m : String} {seg : Segment} (hs : M.Matches name s)
    (hseg : m = name → ∀ k, k ∈ seg.members ↔ k ∈ M.members seg.watermark) :
    M.Matches name (s.set m seg) := by
  intro k
  unfold SegmentStore.watermark
  rw [SegmentStore.get_set]
  by_cases hm : name = m
  · rw [if_pos hm]
    exact hseg hm.symm k
  · rw [if_neg hm]
    exact hs k

/-- **An answer keeps the members right, whatever its watermark, and never leads back.** -/
theorem matches_receive {f : SegmentFetch} {m : String} {a : Except FetchError SegmentChanges}
    (hs : M.Matches name s) (ha : m = name → ∀ c, a = .ok c → M.Explains c) :
    M.Matches name (f.receive m s a).1 ∧ s.Precedes name (f.receive m s a).1 := by
  cases a with
  | error e => exact ⟨hs, .refl⟩
  | ok c =>
    rw [SegmentStore.receive_fst]
    have hsame : M.Matches name (s.set m (s.get m)) ∧ s.Precedes name (s.set m (s.get m)) := by
      refine ⟨hs.set ?_, .set ?_⟩
      · rintro rfl
        exact hs
      · rintro rfl
        exact Int.le_refl _
    rcases SegmentStore.applyDelta_cases s { c with name := m } with
      ⟨-, h⟩ | ⟨-, h⟩ | ⟨hsince, htill, h⟩
    · rw [h]
      exact ⟨hs, .refl⟩
    · rw [h]
      exact hsame
    · rw [h]
      refine ⟨hsame.1.set ?_, hsame.2.trans (.set ?_)⟩
      · rintro rfl
        refine mem_members_advance (ha rfl c rfl) fun k => ?_
        rw [show c.since = s.watermark m from hsince]
        exact hs k
      · rintro rfl
        have hw : (s.set m (s.get m)).watermark m = s.watermark m := by
          unfold SegmentStore.watermark
          rw [SegmentStore.get_set, if_pos rfl]
        rw [hw, ← hsince]
        exact htill

end Roster

end Halyard

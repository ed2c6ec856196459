/-
# Segment deltas that are refused

A store of segments makes room for a segment before it compares the delta that was
offered with the segment's watermark. Hence a delta that is refused leaves a trace
if nothing was there: the segment appears among the names, and a key that was not
known to belong or not to belong to it is now known not to. A store that is frozen
refuses before it makes room, and where the segment was there before, the refusal
leaves the very store (`SegmentStore.refusal_leaves_no_trace_iff`). Watermarks and
numbers of members never tell a refusal, since a segment that nothing was offered
for is read as empty and never synchronised.

Key definitions: `SegmentStore.Alike`.
Key theorems: `SegmentStore.applyDelta_eq_error`,
`SegmentStore.refusal_leaves_no_trace_iff`.
-/
import Halyard.Proofs.Store.Segments

namespace Halyard

theorem Dict.mem_keys {α : Type} {d : Dict α} {k : String} : k ∈ d.keys ↔ d.get? k ≠ none := by
  rw [Dict.keys, List.mem_map, Option.ne_none_iff_exists']
  constructor
  · rintro ⟨⟨_, v⟩, he, rfl⟩
    exact ⟨v, (d.get?_eq_some_iff _ v).mpr he⟩
  · rintro ⟨v, hv⟩
    exact ⟨(k, v), (d.get?_eq_some_iff k v).mp hv, rfl⟩

namespace SegmentStore

variable {s t : SegmentStore} {c : SegmentChanges} {e : SyncError} {name : String}

/-- Whether two stores answer alike whatever they are asked. -/
structure Alike (s t : SegmentStore) : Prop where
  names : s.segments.keys = t.segments.keys
  contains : ∀ name key, s.contains? name key = t.contains? name key
  watermark : ∀ name, s.watermark name = t.watermark name
  memberCount : ∀ name, s.memberCount name = t.memberCount name

theorem Alike.refl (s : SegmentStore) : Alike s s :=
  ⟨rfl, fun _ _ => rfl, fun _ => rfl, fun _ => rfl⟩

/-! ### Making room -/

theorem get_set_get (name m : String) : (s.set name (s.get name)).get m = s.get m := by
  rw [get_set]
  split
  · rename_i h
    rw [h]
  · rfl

theorem contains?_set_get (h : s.segments.get? name = none) (m key : String) :
    (s.set name (s.get name)).contains? m key =
      if m = name then some false else s.contains? m key := by
  unfold contains?
  by_cases hm : m = name
  · rw [if_pos hm, hm, get_of_get?_eq_none h]
    show Option.map _ ((s.segments.insert name unknown).get? name) = _
    rw [Dict.get?_insert, if_pos rfl]
    rfl
  · rw [if_neg hm, get?_set_of_ne hm]

theorem mem_keys_set (m : String) :
    m ∈ (s.set name (s.get name)).segments.keys ↔ m = name ∨ m ∈ s.segments.keys := by
  rw [Dict.mem_keys, Dict.mem_keys, ne_eq, get?_set_eq_none_iff]
  tauto

/-- Making room for a segment shows exactly if there was none. -/
theorem alike_set_get_iff :
    Alike s (s.set name (s.get name)) ↔ s.segments.get? name ≠ none := by
  constructor
  · intro h
    have hname : name ∈ (s.set name (s.get name)).segments.keys := (mem_keys_set name).mpr (.inl rfl)
    rw [← h.names] at hname
    exact Dict.mem_keys.mp hname
  · intro h
    rw [set_get h]
    exact .refl s

/-! ### Refusals -/

/-- A refused delta leaves a frozen store as it is, and another one with room for the segment. -/
theorem applyDelta_eq_error (h : s.applyDelta c = (t, .error e)) :
    (s.frozen = true ∧ t = s) ∨
    (s.frozen = false ∧ t = s.set c.name (s.get c.name) ∧
      (c.since ≠ s.watermark c.name ∨ c.till < c.since)) := by
  by_cases hf : s.frozen = true
  · have hrefused : s.applyDelta c = (s, .error .frozen) := if_pos hf
    cases hrefused.symm.trans h
    exact .inl ⟨hf, rfl⟩
  refine .inr ⟨Bool.eq_false_iff.mpr hf, ?_⟩
  rcases applyDelta_outcomes s c with ⟨hf', -⟩ | ⟨hgap, h'⟩ | ⟨hback, text, h'⟩ | ⟨-, -, h'⟩
  · exact absurd hf' hf
  · cases h'.symm.trans h
    exact ⟨rfl, .inl hgap⟩
  · cases h'.symm.trans h
    exact ⟨rfl, .inr hback⟩
  · cases h'.symm.trans h

/-- **A refused delta leaves no trace exactly if the store is frozen or the segment was there.**
Then the store is the same. Watermarks and numbers of members stay in any case; a trace is that
the segment has appeared and that no key is said to belong to it, where nothing was said before.
A delta is refused by a frozen store, for a gap, and if it leads back. -/
theorem refusal_leaves_no_trace_iff (h : s.applyDelta c = (t, .error e)) :
    (Alike s t ↔ s.frozen = true ∨ s.segments.get? c.name ≠ none) ∧
    (Alike s t → t = s) ∧
    (∀ name, t.watermark name = s.watermark name ∧ t.memberCount name = s.memberCount name) ∧
    (¬ Alike s t →
      (∀ name, name ∈ t.segments.keys ↔ name = c.name ∨ name ∈ s.segments.keys) ∧
      ∀ name key, t.contains? name key =
        if name = c.name then some false else s.contains? name key) ∧
    (s.frozen = true ∨ c.since ≠ s.watermark c.name ∨ c.till < c.since) := by
  rcases applyDelta_eq_error h with ⟨hf, rfl⟩ | ⟨hf, rfl, hwhy⟩
  · have hsame : Alike t t := .refl t
    exact ⟨iff_of_true hsame (.inl hf), fun _ => rfl, fun _ => ⟨rfl, rfl⟩,
      fun hno => absurd hsame hno, .inl hf⟩
  · refine ⟨?_, fun hsame => set_get (alike_set_get_iff.mp hsame), fun name => ?_, fun hno => ?_,
      .inr hwhy⟩
    · rw [alike_set_get_iff, hf]
      simp
    · unfold watermark memberCount
      rw [get_set_get]
      exact ⟨rfl, rfl⟩
    · have hnew : s.segments.get? c.name = none := by
        by_contra hthere
        exact hno (alike_set_get_iff.mpr hthere)
      exact ⟨mem_keys_set, contains?_set_get hnew⟩

/-- A delta that begins at 5. -/
def fromFive : SegmentChanges := ⟨"staff", 5, 10, ["ann"], []⟩

/-- It is refused by a store that is empty, and "staff" appears there. -/
theorem fromFive_leaves_trace :
    let t := (empty.applyDelta fromFive).1
    empty.applyDelta fromFive = (t, .error (.gap unsynced 5)) ∧
      ¬ Alike empty t ∧ empty.contains? "staff" "ann" = none ∧
      t.contains? "staff" "ann" = some false ∧ t.watermark "staff" = unsynced := by
  intro t
  have hrefused : empty.applyDelta fromFive = (t, .error (.gap unsynced 5)) := rfl
  obtain ⟨hiff, -, hkept, htrace, -⟩ := refusal_leaves_no_trace_iff hrefused
  have hseen : ¬ Alike empty t := fun h => by
    rcases hiff.mp h with hf | hthere
    · exact Bool.noConfusion hf
    · exact hthere rfl
  exact ⟨hrefused, hseen, rfl, ((htrace hseen).2 "staff" "ann").trans (if_pos rfl),
    (hkept "staff").1⟩

/-- A delta that is refused may leave a trace. -/
theorem refused_segment_appears : ¬ ∀ (s t : SegmentStore) (c : SegmentChanges) (e : SyncError),
    s.applyDelta c = (t, .error e) → Alike s t := by
  intro h
  have hsame := (h empty _ fromFive _ rfl).contains "staff" "ann"
  cases hsame

end SegmentStore

end Halyard

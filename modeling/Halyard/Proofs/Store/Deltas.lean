/-
# What a delta does

A delta removes some names and then adds some rules, and a name may occur more than
once in either list and in both. Read as a list of assignments, first none to each
removed name and then each added rule to its own, it leaves every name with what it
was given last (`RuleStore.accepted_delta_takes_effect`).

An assignment that is made again later might as well not have been made the first
time (`RuleStore.assign_again`). So to go through a list of assignments once more
changes nothing (`RuleStore.assignAll_assignAll`), whatever store one began with:
the names that an index lists and its hollow entries are the same after an
assignment that is repeated, be the index exact or not (`RuleStore.relink_again`).

Key definitions: `RuleStore.assignAll`, `Delta.assignments`.
Key theorems: `RuleStore.assign_again`, `RuleStore.assignAll_assignAll`,
`RuleStore.advance_advance`, `RuleStore.accepted_delta_takes_effect`.
-/
import Halyard.Proofs.Store.Batches
import Halyard.Proofs.Store.Discovery

namespace Halyard

/-- A delta as assignments: the removed names get none, then the added rules get their own. -/
def Delta.assignments {α : Type} [Rule α] (d : Delta α) : List (String × Option α) :=
  d.removals.map (·, none) ++ d.additions.map fun r => (Rule.name r, some r)

theorem Delta.effective_eq_false_iff {α : Type} {d : Delta α} :
    d.effective = false ↔ d.additions = [] ∧ d.removals = [] ∧ d.till = d.since := by
  simp only [effective, Bool.or_eq_false_iff, bne_eq_false_iff_eq, Bool.not_eq_false',
    List.isEmpty_iff]
  tauto

namespace RuleStore

/-! ### References that are put in again -/

section Index

variable {n : String} {old new : List String} {index : Dict Names}

theorem relink_self : relink n new new (relink n old new index) = relink n old new index := by
  refine index_ext (fun m segment => ?_) fun segment => ?_
  · simp only [mem_listed_relink]
    tauto
  · simp only [hollow_relink]
    tauto

/-- What a name refers to in between leaves the same behind, whatever came before it. -/
theorem relink_again (x y : List String) :
    relink n y x (relink n x y (relink n old x index)) = relink n y x (relink n old y index) := by
  refine index_ext (fun m segment => ?_) fun segment => ?_
  · simp only [mem_listed_relink]
    tauto
  · simp only [hollow_relink]
    tauto

end Index

/-! ### Assignments that are made again -/

variable {α : Type} [Rule α] {s : RuleStore α} {m n : String} {a b : Option α}

theorem assign_self : (s.assign n a).assign n a = s.assign n a := by
  have hn : (s.assign n a).get? n = a := get?_assign.trans (if_pos rfl)
  refine ext (items_ext fun i => ?_) ?_ rfl rfl
  · rw [get?_assign, get?_assign]
    by_cases hi : i = n <;> simp [hi]
  · show relink n (needed ((s.assign n a).get? n)) _ _ = _
    rw [hn]
    exact relink_self

/-- **An assignment that is made again after another one need not be made before it.** -/
theorem assign_again :
    ((s.assign n a).assign m b).assign n a = (s.assign m b).assign n a := by
  by_cases h : m = n
  · subst h
    have ha : (s.assign m a).get? m = a := get?_assign.trans (if_pos rfl)
    have hb : ∀ t : RuleStore α, (t.assign m b).get? m = b := fun t =>
      get?_assign.trans (if_pos rfl)
    refine ext (items_ext fun i => ?_) ?_ rfl rfl
    · simp only [get?_assign]
      by_cases hi : i = m <;> simp [hi]
    · show relink m (needed (((s.assign m a).assign m b).get? m)) _
        (relink m (needed ((s.assign m a).get? m)) _ (relink m _ _ _)) =
          relink m (needed ((s.assign m b).get? m)) _ (relink m _ _ _)
      rw [hb, hb, ha]
      exact relink_again _ _
  · rw [assign_comm h, assign_self]

/-- Makes some assignments, one after another. -/
def assignAll (s : RuleStore α) (es : List (String × Option α)) : RuleStore α :=
  es.foldl (fun s e => s.assign e.1 e.2) s

theorem assignAll_append (es fs : List (String × Option α)) :
    s.assignAll (es ++ fs) = (s.assignAll es).assignAll fs :=
  List.foldl_append

theorem assign_assignAll (es : List (String × Option α)) :
    ((s.assign n a).assignAll es).assign n a = (s.assignAll es).assign n a := by
  induction es generalizing s with
  | nil => exact assign_self
  | cons e es ih =>
    -- the assignment is made once more behind the first of the others
    calc (((s.assign n a).assign e.1 e.2).assignAll es).assign n a
        = ((((s.assign n a).assign e.1 e.2).assign n a).assignAll es).assign n a := ih.symm
      _ = (((s.assign e.1 e.2).assign n a).assignAll es).assign n a := by rw [assign_again]
      _ = ((s.assign e.1 e.2).assignAll es).assign n a := ih

theorem assignAll_again (es fs : List (String × Option α)) :
    ((s.assignAll es).assignAll fs).assignAll es = (s.assignAll fs).assignAll es := by
  induction es generalizing s fs with
  | nil => rfl
  | cons e es ih =>
    have hfirst := assign_assignAll (s := s) (n := e.1) (a := e.2) (es ++ fs)
    rw [assignAll_append, assignAll_append] at hfirst
    have hlater := ih (s := s) (fs ++ [e])
    rw [assignAll_append, assignAll_append] at hlater
    calc (((s.assign e.1 e.2).assignAll es).assignAll fs).assignAll (e :: es)
        = (((s.assignAll es).assignAll fs).assign e.1 e.2).assignAll es :=
          congrArg (·.assignAll es) hfirst
      _ = ((s.assignAll fs).assign e.1 e.2).assignAll es := hlater

/-- **To make the same assignments twice is to make them once.** -/
theorem assignAll_assignAll (es : List (String × Option α)) :
    (s.assignAll es).assignAll es = s.assignAll es :=
  assignAll_again es []

/-! ### Deltas as assignments -/

theorem assignAll_watermark (w : ChangeNumber) (es : List (String × Option α)) :
    ({ s with watermark := w }).assignAll es = { s.assignAll es with watermark := w } := by
  induction es generalizing s with
  | nil => rfl
  | cons e es ih => exact ih (s := s.assign e.1 e.2)

theorem advance_eq_assignAll (s : RuleStore α) (d : Delta α) :
    s.advance d = { s.assignAll d.assignments with watermark := d.till } := by
  have hremove : s.assignAll (d.removals.map (·, none)) = d.removals.foldl erase s := by
    simp only [assignAll, List.foldl_map, ← erase_eq_assign]
  have hadd : ∀ t : RuleStore α,
      t.assignAll (d.additions.map fun r => (Rule.name r, some r)) = d.additions.foldl insert t := by
    intro t
    simp only [assignAll, List.foldl_map, ← insert_eq_assign]
  rw [Delta.assignments, assignAll_append, hremove, hadd]
  rfl

/-- A delta that was applied changes nothing when it is applied again. -/
theorem advance_advance (s : RuleStore α) (d : Delta α) : (s.advance d).advance d = s.advance d := by
  rw [advance_eq_assignAll, advance_eq_assignAll, assignAll_watermark, assignAll_assignAll]

/-! ### The effect of a delta -/

/-- **A delta that begins at the watermark and does not lead back is accepted, and does what it
says.** Every name is given the last added rule of that name; one that is only removed is gone, and
every other one keeps what it had. The watermark is where the delta ends. The answer tells the
segments of all added rules, and that nothing changed exactly if the delta holds nothing and ends
where it begins. An index that was exact stays so. -/
theorem accepted_delta_takes_effect (s : RuleStore α) (d : Delta α) (hf : s.frozen = false)
    (hsince : d.since = s.watermark) (htill : s.watermark ≤ d.till) :
    ∃ t o, s.applyDelta d = .ok (t, o) ∧
      (∀ n r, Rule.lastNamed n d.additions = some r → t.get? n = some r) ∧
      (∀ n, (∀ r ∈ d.additions, Rule.name r ≠ n) → n ∈ d.removals → t.get? n = none) ∧
      (∀ n, (∀ r ∈ d.additions, Rule.name r ≠ n) → n ∉ d.removals → t.get? n = s.get? n) ∧
      t.watermark = d.till ∧ t.frozen = false ∧
      (∀ segment, segment ∈ o.referenced ↔ ∃ r ∈ d.additions, segment ∈ Rule.segmentNames r) ∧
      (o.changed = false ↔ d.additions = [] ∧ d.removals = [] ∧ d.till = d.since) ∧
      (s.Indexed → t.Indexed) := by
  have haccepted := applyDelta_eq_ok_iff.mpr ⟨hf, hsince, hsince ▸ htill, rfl, rfl⟩
  refine ⟨s.advance d, ⟨d.effective, d.segmentNames⟩, haccepted, fun n r hlast => ?_,
    fun n hno hremoved => ?_, fun n hno hkept => ?_, watermark_advance d, ?_,
    fun segment => Delta.mem_segmentNames, Delta.effective_eq_false_iff, fun h => h.advance d⟩
  · rw [get?_advance, hlast, Option.some_or]
  · rw [get?_advance, Rule.lastNamed_eq_none.mpr hno, if_pos hremoved, Option.none_or]
  · rw [get?_advance, Rule.lastNamed_eq_none.mpr hno, if_neg hkept, Option.none_or]
  · rw [frozen_advance, hf]

/-- Flags at 10. -/
def threeFlags : RuleStore Flag :=
  empty.advance ⟨unsynced, 10,
    [.asking "a" ["staff"] 5, .asking "b" ["staff"] 7, .asking "c" [] 10], []⟩

/-- A delta that adds "a" twice and also removes it, and removes "b" twice. -/
def repetitive : Delta Flag :=
  ⟨10, 20, [.asking "a" ["beta"] 12, .asking "d" [] 13, .asking "a" ["vips"] 20], ["b", "a", "b"]⟩

/-- The last "a" is stored, "b" is gone, "c" is as it was, and all added rules are told of. -/
theorem repetitive_takes_effect : ∃ t o,
    threeFlags.applyDelta repetitive = .ok (t, o) ∧
      t.get? "a" = some (.asking "a" ["vips"] 20) ∧ t.get? "b" = none ∧
      t.get? "c" = some (.asking "c" [] 10) ∧ t.watermark = 20 ∧ t.Indexed ∧
      "beta" ∈ o.referenced ∧ o.changed ≠ false := by
  obtain ⟨t, o, haccepted, hadded, hremoved, hkept, hwatermark, -, hreferenced, hchanged, hindexed⟩ :=
    accepted_delta_takes_effect threeFlags repetitive rfl rfl (by decide)
  refine ⟨t, o, haccepted, hadded "a" _ rfl, hremoved "b" (by decide) (by decide), ?_, hwatermark,
    hindexed (indexed_empty.advance _), ?_, ?_⟩
  · exact (hkept "c" (by decide) (by decide)).trans rfl
  · exact (hreferenced "beta").mpr ⟨.asking "a" ["beta"] 12, List.mem_cons_self, by decide⟩
  · exact fun h => absurd (hchanged.mp h).2.2 (by decide)

end RuleStore

end Halyard

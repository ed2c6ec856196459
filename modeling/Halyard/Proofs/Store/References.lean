/-
# The index of the segments that rules refer to

A store tells for each segment which of its rules refer to it. The index behind
that is never computed anew: a write takes out what the old rule of a name
referred to and puts in what the new one refers to. Still, after any writes
whatsoever it is what a scan of the stored rules would yield
(`RuleStore.index_exact`), and it has no entry for a segment that nothing refers
to.

The index is read through `RuleStore.referencing`, the names listed under a
segment. Adding or dropping a reference changes a single pair of a name and a
segment (`mem_listed_addReference`, `mem_listed_dropReference`); that dropping the
references of a rule drops all that are listed under its name is where exactness
before the write is needed (`Indexed.mem_referencing_unlink`). Any index, exact or
not, is told by the names that it lists and by its hollow entries (`index_ext`).

Key definitions: `RuleStore.Hollow`, `RuleStore.Indexed`, `RuleStore.Write`,
`RuleStore.FlagWrite`.
Key theorems: `RuleStore.index_ext`, `RuleStore.Indexed.insert`,
`RuleStore.Indexed.erase`, `RuleStore.index_exact`.
-/
import Halyard.Proofs.Store.Rules

namespace Halyard

/-! ### What rules refer to -/

/-- Whether a condition tests membership in a standard segment. -/
def Condition.Tests (c : Condition) (segment : String) : Prop :=
  ∃ m ∈ c.group.matchers, m.kind = inSegmentKind ∧ m.segment = some segment

theorem mem_references {segment : String} {cs : List Condition} :
    segment ∈ references inSegmentKind cs ↔ ∃ c ∈ cs, c.Tests segment := by
  unfold references Condition.Tests
  simp only [List.mem_flatMap, List.mem_filterMap, Option.ite_none_right_eq_some]

theorem Flag.mem_segmentNames {f : Flag} {segment : String} :
    segment ∈ Rule.segmentNames f ↔ ∃ c ∈ f.conditions, c.Tests segment :=
  Names.mem_ofList.trans mem_references

/-- A rule-based segment needs the segments that its conditions test and the standard segments
that it excludes. -/
theorem RuleBasedSegment.mem_segmentNames {g : RuleBasedSegment} {segment : String} :
    segment ∈ Rule.segmentNames g ↔ (∃ c ∈ g.conditions, c.Tests segment) ∨
      ∃ e ∈ g.excluded.segments.getD [], e.kind = .standard ∧ e.name = segment := by
  refine Names.mem_ofList.trans ?_
  simp only [List.mem_append, mem_references, List.mem_filterMap, Option.ite_none_right_eq_some,
    Option.some.injEq]

namespace RuleStore

variable {n m segment other : String} {index : Dict Names}

/-! ### The index -/

/-- The names that an index lists under a segment. -/
def listed (index : Dict Names) (segment : String) : Names :=
  (index.get? segment).getD Names.empty

/-- Whether every entry of an index lists a name. -/
def Occupied (index : Dict Names) : Prop :=
  ∀ segment names, index.get? segment = some names → ∃ n, n ∈ names

theorem get?_addReference : (addReference m index segment).get? other =
    if other = segment then some ((listed index segment).add m) else index.get? other :=
  Dict.get?_insert _ _ _ _

/-- The names under a segment as an entry of an index, which has none for the empty set. -/
def condense (names : Names) : Option Names :=
  if names.isEmpty then none else some names

/-- Making an entry of some names loses none of them. -/
theorem mem_getD_condense {names : Names} : n ∈ (condense names).getD Names.empty ↔ n ∈ names := by
  unfold condense
  split
  · rename_i h
    exact iff_of_false Names.not_mem_empty (Names.isEmpty_iff.mp h n)
  · exact Iff.rfl

theorem get?_dropReference : (dropReference m index segment).get? other =
    if other = segment then (index.get? segment).bind fun names => condense (Dict.erase names m)
    else index.get? other := by
  unfold dropReference condense
  cases hs : index.get? segment with
  | none =>
    by_cases h : other = segment
    · rw [if_pos h, h]
      exact hs
    · rw [if_neg h]
  | some names =>
    dsimp only
    split
    · rw [Dict.get?_erase]
      by_cases h : other = segment <;> simp_all
    · rw [Dict.get?_insert]
      by_cases h : other = segment <;> simp_all

theorem mem_listed_addReference :
    n ∈ listed (addReference m index segment) other ↔
      (n = m ∧ other = segment) ∨ n ∈ listed index other := by
  unfold listed
  rw [get?_addReference]
  by_cases h : other = segment
  · subst h
    rw [if_pos rfl, Option.getD_some, Names.mem_add, and_iff_left rfl]
    rfl
  · rw [if_neg h]
    tauto

theorem mem_listed_dropReference :
    n ∈ listed (dropReference m index segment) other ↔
      ¬ (n = m ∧ other = segment) ∧ n ∈ listed index other := by
  unfold listed
  rw [get?_dropReference]
  by_cases h : other = segment
  · subst h
    rw [if_pos rfl, and_iff_left rfl]
    cases index.get? other with
    | none => simp
    | some names => exact mem_getD_condense.trans Names.mem_erase
  · rw [if_neg h]
    tauto

theorem mem_listed_foldl_addReference : ∀ {segments : List String} {index : Dict Names},
    n ∈ listed (segments.foldl (addReference m) index) other ↔
      (n = m ∧ other ∈ segments) ∨ n ∈ listed index other
  | [], _ => by simp
  | s :: segments, index => by
    rw [List.foldl_cons, mem_listed_foldl_addReference, mem_listed_addReference, List.mem_cons]
    tauto

theorem mem_listed_foldl_dropReference : ∀ {segments : List String} {index : Dict Names},
    n ∈ listed (segments.foldl (dropReference m) index) other ↔
      ¬ (n = m ∧ other ∈ segments) ∧ n ∈ listed index other
  | [], _ => by simp
  | s :: segments, index => by
    rw [List.foldl_cons, mem_listed_foldl_dropReference, mem_listed_dropReference, List.mem_cons]
    tauto

/-- Whether an index has an entry for a segment and lists no name there. -/
def Hollow (index : Dict Names) (segment : String) : Prop :=
  ∃ names, index.get? segment = some names ∧ ∀ n, n ∉ names

theorem occupied_iff : Occupied index ↔ ∀ segment, ¬ Hollow index segment := by
  simp only [Occupied, Hollow, not_exists, not_and, not_forall, not_not]

/-- Adding a reference fills the entry that it touches. -/
theorem hollow_addReference :
    Hollow (addReference m index segment) other ↔ other ≠ segment ∧ Hollow index other := by
  unfold Hollow
  rw [get?_addReference]
  by_cases h : other = segment
  · simp only [ne_eq, h, not_true_eq_false, false_and, iff_false, if_true]
    rintro ⟨names, hnames, hempty⟩
    obtain rfl := Option.some.inj hnames
    exact hempty m (Names.mem_add.mpr (.inl rfl))
  · rw [if_neg h, and_iff_right h]

/-- Dropping a reference takes out the entry that it touches if that would become hollow. -/
theorem hollow_dropReference :
    Hollow (dropReference m index segment) other ↔ other ≠ segment ∧ Hollow index other := by
  unfold Hollow
  rw [get?_dropReference]
  by_cases h : other = segment
  · simp only [ne_eq, h, not_true_eq_false, false_and, iff_false, if_true]
    rintro ⟨names, hnames, hempty⟩
    obtain ⟨old, -, hrest⟩ := Option.bind_eq_some_iff.mp hnames
    unfold condense at hrest
    split at hrest
    · cases hrest
    · rename_i hne
      obtain rfl := Option.some.inj hrest
      exact hne (Names.isEmpty_iff.mpr hempty)
  · rw [if_neg h, and_iff_right h]

theorem hollow_foldl {f : Dict Names → String → Dict Names}
    (hf : ∀ {index segment}, Hollow (f index segment) other ↔ other ≠ segment ∧ Hollow index other) :
    ∀ {segments : List String} {index : Dict Names},
      Hollow (segments.foldl f index) other ↔ other ∉ segments ∧ Hollow index other
  | [], _ => by simp
  | s :: segments, index => by
    rw [List.foldl_cons, hollow_foldl hf, hf, List.mem_cons, not_or]
    tauto

/-- Indices that list the same names and have the same hollow entries are equal. -/
theorem index_ext {i j : Dict Names}
    (hlisted : ∀ n segment, n ∈ listed i segment ↔ n ∈ listed j segment)
    (hhollow : ∀ segment, Hollow i segment ↔ Hollow j segment) : i = j := by
  refine Dict.ext_get? fun segment => ?_
  have hnames := fun n => hlisted n segment
  have hentry := hhollow segment
  unfold listed at hnames
  unfold Hollow at hentry
  cases hi : i.get? segment with
  | none =>
    cases hj : j.get? segment with
    | none => rfl
    | some names =>
      -- nothing is listed, so the entry of `j` is hollow, and `i` has none at all
      simp only [hi, hj, Option.getD_none, Option.getD_some, Names.not_mem_empty, false_iff]
        at hnames
      obtain ⟨names', h, -⟩ := hentry.mpr ⟨names, hj, hnames⟩
      cases hi.symm.trans h
  | some names =>
    cases hj : j.get? segment with
    | none =>
      simp only [hi, hj, Option.getD_none, Option.getD_some, Names.not_mem_empty, iff_false]
        at hnames
      obtain ⟨names', h, -⟩ := hentry.mp ⟨names, hi, hnames⟩
      cases hj.symm.trans h
    | some names' =>
      simp only [hi, hj, Option.getD_some] at hnames
      rw [Names.ext hnames]

theorem Occupied.addReference (h : Occupied index) : Occupied (addReference m index segment) :=
  occupied_iff.mpr fun other hother =>
    occupied_iff.mp h other (hollow_addReference.mp hother).2

theorem Occupied.dropReference (h : Occupied index) : Occupied (dropReference m index segment) :=
  occupied_iff.mpr fun other hother =>
    occupied_iff.mp h other (hollow_dropReference.mp hother).2

theorem Occupied.foldl {f : Dict Names → String → Dict Names}
    (hf : ∀ {index segment}, Occupied index → Occupied (f index segment)) (segments : List String)
    (h : Occupied index) : Occupied (segments.foldl f index) :=
  List.foldlRecOn segments f h fun _ hindex _ _ => hf hindex

/-! ### Exact indices -/

variable {α : Type} [Rule α] {s t : RuleStore α}

/-- Whether the index of a store is what a scan of its rules yields, and each rule is stored
under its own name. -/
structure Indexed (s : RuleStore α) : Prop where
  named : ∀ {n : String} {r : α}, s.get? n = some r → Rule.name r = n
  mem_iff : ∀ {n segment : String}, n ∈ s.referencing segment ↔
    ∃ r, s.get? n = some r ∧ segment ∈ Rule.segmentNames r
  occupied : Occupied s.references

theorem indexed_empty : (empty : RuleStore α).Indexed where
  named h := by cases h
  mem_iff := by
    refine iff_of_false Names.not_mem_empty ?_
    rintro ⟨r, hr, -⟩
    cases hr
  occupied := by
    intro segment names h
    cases h

/-- The names under a segment after the references of one of them were taken out. -/
theorem Indexed.mem_referencing_unlink (h : s.Indexed) :
    n ∈ (s.unlink m).referencing segment ↔ n ≠ m ∧ n ∈ s.referencing segment := by
  unfold unlink
  cases hm : s.items.get? m with
  | none =>
    refine (and_iff_right_of_imp fun hn => ?_).symm
    rintro rfl
    obtain ⟨r, hr, -⟩ := h.mem_iff.mp hn
    cases hm.symm.trans hr
  | some r =>
    refine mem_listed_foldl_dropReference.trans (and_congr_left fun hn => ?_)
    -- what is listed under the name `m` is what the rule `r` refers to
    have href : n = m → segment ∈ (Rule.segmentNames r).toList := by
      rintro rfl
      obtain ⟨r', hr', hseg⟩ := h.mem_iff.mp hn
      obtain rfl : r = r' := Option.some.inj (hm.symm.trans hr')
      exact Names.mem_toList.mpr hseg
    exact ⟨fun hno hnm => hno ⟨hnm, href hnm⟩, fun hnm hboth => hnm hboth.1⟩

theorem occupied_unlink (h : Occupied s.references) (m : String) :
    Occupied (s.unlink m).references := by
  unfold unlink
  split
  · exact h
  · exact Occupied.foldl Occupied.dropReference _ h

/-- **Storing a rule in place of another keeps the index exact.** -/
theorem Indexed.insert (h : s.Indexed) (r : α) : (s.insert r).Indexed where
  named := by
    intro n q hq
    rw [get?_insert] at hq
    split at hq
    · rename_i hn
      obtain rfl := Option.some.inj hq
      exact hn.symm
    · exact h.named hq
  mem_iff := by
    intro n segment
    have hindex : n ∈ (s.insert r).referencing segment ↔
        (n = Rule.name r ∧ segment ∈ (Rule.segmentNames r).toList) ∨
          n ∈ (s.unlink (Rule.name r)).referencing segment :=
      mem_listed_foldl_addReference
    rw [hindex, h.mem_referencing_unlink, Names.mem_toList, h.mem_iff, get?_insert]
    by_cases hn : n = Rule.name r
    · simp [hn]
    · simp [hn]
  occupied := Occupied.foldl Occupied.addReference _ (occupied_unlink h.occupied _)

/-- Removing a rule keeps the index exact. -/
theorem Indexed.erase (h : s.Indexed) (m : String) : (s.erase m).Indexed where
  named := by
    intro n q hq
    rw [get?_erase] at hq
    split at hq
    · cases hq
    · exact h.named hq
  mem_iff := by
    intro n segment
    have hindex : n ∈ (s.erase m).referencing segment ↔ n ∈ (s.unlink m).referencing segment :=
      Iff.rfl
    rw [hindex, h.mem_referencing_unlink, h.mem_iff, get?_erase]
    by_cases hn : n = m
    · simp [hn]
    · simp [hn]
  occupied := occupied_unlink h.occupied m

/-- The watermark and whether the store is frozen have nothing to do with the index. -/
theorem Indexed.of_eq (h : s.Indexed) (hitems : t.items = s.items)
    (hreferences : t.references = s.references) : t.Indexed := by
  obtain ⟨items, references, watermark, frozen⟩ := t
  cases hitems
  cases hreferences
  exact ⟨h.named, h.mem_iff, h.occupied⟩

theorem Indexed.advance (h : s.Indexed) (d : Delta α) : (s.advance d).Indexed := by
  have herased : (d.removals.foldl RuleStore.erase s).Indexed :=
    List.foldlRecOn d.removals _ h fun _ hs name _ => hs.erase name
  have hadded : (d.additions.foldl RuleStore.insert (d.removals.foldl RuleStore.erase s)).Indexed :=
    List.foldlRecOn d.additions _ herased fun _ hs r _ => hs.insert r
  exact hadded.of_eq rfl rfl

/-! ### Writes -/

/-- What may be done to a store of rules. -/
inductive Write (α : Type) where
  | put (r : α)
  | remove (name : String)
  | delta (d : Delta α)
  | entity (r : α) (keep : Bool)
  | watermark (n : ChangeNumber)
  | freeze

/-- The store that a write answers with. -/
def Write.answer (s : RuleStore α) : Write α → Except SyncError (RuleStore α)
  | .put r => s.put r
  | .remove name => (s.remove name).map (·.1)
  | .delta d => (s.applyDelta d).map (·.1)
  | .entity r keep => (s.applyEntity r keep).map (·.1)
  | .watermark n => s.setWatermark n
  | .freeze => .ok s.freeze

/-- What may be done to a store of flags: what may be done to every store, and kills. -/
inductive FlagWrite where
  | write (w : Write Flag)
  | kill (name treatment : String) (n : ChangeNumber)

/-- The store of flags that a write answers with. -/
def FlagWrite.answer (s : RuleStore Flag) : FlagWrite → Except SyncError (RuleStore Flag)
  | .write w => w.answer s
  | .kill name treatment n => (s.kill name treatment n).map (·.1)

/-- What is there after an attempt to write. A write that is refused leaves the store. -/
def settle (s : RuleStore α) : Except SyncError (RuleStore α) → RuleStore α
  | .ok t => t
  | .error _ => s

/-- The store after some writes. -/
def writes (s : RuleStore α) (ws : List (Write α)) : RuleStore α :=
  ws.foldl (fun s w => s.settle (w.answer s)) s

/-- The store of flags after some writes. -/
def flagWrites (s : RuleStore Flag) (ws : List FlagWrite) : RuleStore Flag :=
  ws.foldl (fun s w => s.settle (w.answer s)) s

omit [Rule α] in
theorem writable_bind_eq_ok_iff {β : Type} {x : Except SyncError β} {b : β} :
    (s.writable >>= fun _ => x) = .ok b ↔ s.frozen = false ∧ x = .ok b := by
  unfold writable
  cases hf : s.frozen with
  | true =>
    constructor
    · intro h
      cases h
    · rintro ⟨h, -⟩
      cases h
  | false => exact (and_iff_right rfl).symm

omit [Rule α] in
theorem map_fst_eq_ok_iff {β : Type} {x : Except SyncError (RuleStore α × β)} :
    x.map (·.1) = .ok t ↔ ∃ b, x = .ok (t, b) := by
  constructor
  · intro h
    cases x with
    | error e => cases h
    | ok y =>
      obtain rfl : y.1 = t := Except.ok.inj h
      exact ⟨y.2, rfl⟩
  · rintro ⟨b, rfl⟩
    rfl

theorem Indexed.answer (h : s.Indexed) {w : Write α} (hw : w.answer s = .ok t) : t.Indexed := by
  cases w with
  | put r =>
    obtain ⟨-, ht⟩ := writable_bind_eq_ok_iff.mp hw
    obtain rfl := Except.ok.inj ht
    exact h.insert r
  | remove name =>
    obtain ⟨b, hb⟩ := map_fst_eq_ok_iff.mp hw
    obtain ⟨-, ht⟩ := writable_bind_eq_ok_iff.mp hb
    cases ht
    exact h.erase name
  | delta d =>
    obtain ⟨o, ho⟩ := map_fst_eq_ok_iff.mp hw
    obtain ⟨-, -, -, rfl, -⟩ := applyDelta_eq_ok_iff.mp ho
    exact h.advance d
  | entity r keep =>
    obtain ⟨o, ho⟩ := map_fst_eq_ok_iff.mp hw
    rcases applyEntity_cases ho with ⟨rfl, -⟩ | ⟨-, rfl, -⟩
    · exact h
    · have hstored : (if Rule.active r && keep then s.insert r
          else s.erase (Rule.name r)).Indexed := by
        split
        · exact h.insert r
        · exact h.erase _
      exact hstored.of_eq rfl rfl
  | watermark n =>
    obtain ⟨-, ht⟩ := writable_bind_eq_ok_iff.mp hw
    obtain rfl := Except.ok.inj ht
    exact h.of_eq rfl rfl
  | freeze =>
    obtain rfl := Except.ok.inj hw
    exact h.of_eq rfl rfl

theorem Indexed.flagAnswer {s t : RuleStore Flag} (h : s.Indexed) {w : FlagWrite}
    (hw : w.answer s = .ok t) : t.Indexed := by
  cases w with
  | write w => exact h.answer hw
  | kill name treatment n =>
    obtain ⟨b, hb⟩ := map_fst_eq_ok_iff.mp hw
    rcases kill_cases hb with ⟨rfl, -⟩ | ⟨f, -, -, rfl, -⟩
    · exact h
    · exact h.insert _

theorem Indexed.settle (h : s.Indexed) {x : Except SyncError (RuleStore α)}
    (hx : ∀ {t}, x = .ok t → t.Indexed) : (s.settle x).Indexed := by
  cases x with
  | error e => exact h
  | ok t => exact hx rfl

theorem Indexed.writes (h : s.Indexed) (ws : List (Write α)) : (s.writes ws).Indexed :=
  List.foldlRecOn ws _ h fun _ hs _ _ => hs.settle hs.answer

theorem Indexed.flagWrites {s : RuleStore Flag} (h : s.Indexed) (ws : List FlagWrite) :
    (s.flagWrites ws).Indexed :=
  List.foldlRecOn ws _ h fun _ hs _ _ => hs.settle hs.flagAnswer

/-- The segments with an entry are those that some rule refers to. -/
theorem Indexed.mem_segmentNames (h : s.Indexed) :
    segment ∈ s.segmentNames ↔ ∃ n r, s.get? n = some r ∧ segment ∈ Rule.segmentNames r := by
  have hkeys : segment ∈ s.segmentNames ↔ ∃ names, s.references.get? segment = some names := by
    refine Names.mem_ofList.trans ?_
    simp only [Dict.keys, List.mem_map, Dict.get?_eq_some_iff]
    constructor
    · rintro ⟨e, he, rfl⟩
      exact ⟨e.2, he⟩
    · rintro ⟨names, he⟩
      exact ⟨_, he, rfl⟩
  rw [hkeys]
  constructor
  · rintro ⟨names, hnames⟩
    obtain ⟨n, hn⟩ := h.occupied segment names hnames
    have hlisted : n ∈ s.referencing segment := by
      rw [referencing, hnames]
      exact hn
    exact ⟨n, h.mem_iff.mp hlisted⟩
  · rintro ⟨n, hn⟩
    have hlisted := h.mem_iff.mpr hn
    unfold referencing at hlisted
    cases hnames : s.references.get? segment with
    | some names => exact ⟨names, rfl⟩
    | none =>
      rw [hnames] at hlisted
      exact absurd hlisted Names.not_mem_empty

/-- **The index of a store is exact after any writes.** Every rule is stored under its own name,
no entry of the index is empty, and what the store tells of segments is what looking at every
rule yields: for flags their conditions, for rule-based segments their conditions and the standard
segments that they exclude. -/
theorem index_exact :
    (∀ ws : List FlagWrite,
      let s := (empty : RuleStore Flag).flagWrites ws
      let refers := fun (f : Flag) (segment : String) => ∃ c ∈ f.conditions, c.Tests segment
      s.Indexed ∧
      (∀ n segment, n ∈ s.referencing segment ↔ ∃ f, s.get? n = some f ∧ refers f segment) ∧
      ∀ segment, segment ∈ s.segmentNames ↔ ∃ n f, s.get? n = some f ∧ refers f segment) ∧
    ∀ ws : List (Write RuleBasedSegment),
      let s := (empty : RuleStore RuleBasedSegment).writes ws
      let refers := fun (g : RuleBasedSegment) (segment : String) =>
        (∃ c ∈ g.conditions, c.Tests segment) ∨
          ∃ e ∈ g.excluded.segments.getD [], e.kind = .standard ∧ e.name = segment
      s.Indexed ∧
      (∀ n segment, n ∈ s.referencing segment ↔ ∃ g, s.get? n = some g ∧ refers g segment) ∧
      ∀ segment, segment ∈ s.segmentNames ↔ ∃ n g, s.get? n = some g ∧ refers g segment := by
  refine ⟨fun ws => ?_, fun ws => ?_⟩
  · have h : ((empty : RuleStore Flag).flagWrites ws).Indexed := indexed_empty.flagWrites ws
    simp only [← Flag.mem_segmentNames]
    exact ⟨h, fun n segment => h.mem_iff, fun segment => h.mem_segmentNames⟩
  · have h : ((empty : RuleStore RuleBasedSegment).writes ws).Indexed := indexed_empty.writes ws
    simp only [← RuleBasedSegment.mem_segmentNames]
    exact ⟨h, fun n segment => h.mem_iff, fun segment => h.mem_segmentNames⟩

end RuleStore

end Halyard

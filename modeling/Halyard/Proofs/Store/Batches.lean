/-
# Pages against their rules one at a time

A fetched page is applied at once, first all that it removes and then all that it
adds; pushed rules are applied one at a time, in their order. For a page whose rules
have ascending change numbers the two ways end in the same store exactly if no name
is revived, that is, if no rule that is to be stored is followed by one that removes
its name for good (`RuleStore.pages_apply_like_rules_iff`). A name that is revived
is stored by the page and missing after its rules.

Storing and removing are one operation here, `RuleStore.assign`: a name is given a
rule or none. Assignments to different names commute (`assign_comm`), and an
assignment undoes a removal of its name just before it (`assign_assign_none`); the
removals of a page are moved in front of its additions by these two alone, so
nothing has to be known of the store.

Key definitions: `Delta.Revives`, `RuleStore.assign`, `RuleStore.applyEach`.
Key theorems: `RuleStore.assign_comm`, `RuleStore.settlePage_eq_settleEach`,
`RuleStore.pages_apply_like_rules_iff`.
-/
import Halyard.Proofs.Store.Delivery
import Halyard.Proofs.Store.References

namespace Halyard

namespace RuleStore

/-! ### References of a name -/

section Index

variable {m n segment : String} {old new : List String} {index : Dict Names}

/-- The index after a name got references in place of others. -/
def relink (n : String) (old new : List String) (index : Dict Names) : Dict Names :=
  new.foldl (addReference n) (old.foldl (dropReference n) index)

theorem mem_listed_relink : m ∈ listed (relink n old new index) segment ↔
    (m = n ∧ segment ∈ new) ∨ ¬ (m = n ∧ segment ∈ old) ∧ m ∈ listed index segment := by
  rw [relink, mem_listed_foldl_addReference, mem_listed_foldl_dropReference]

theorem hollow_relink : Hollow (relink n old new index) segment ↔
    segment ∉ new ∧ segment ∉ old ∧ Hollow index segment := by
  rw [relink, hollow_foldl hollow_addReference, hollow_foldl hollow_dropReference]

theorem relink_comm (h : m ≠ n) (old new old' new' : List String) (index : Dict Names) :
    relink m old' new' (relink n old new index) = relink n old new (relink m old' new' index) := by
  refine index_ext (fun i segment => ?_) fun segment => ?_
  · simp only [mem_listed_relink]
    grind
  · simp only [hollow_relink]
    tauto

end Index

/-! ### Assignments -/

variable {α : Type} [Rule α] {s t : RuleStore α} {m n : String} {a b : Option α} {r : α}

omit [Rule α] in
theorem ext (hitems : s.items = t.items) (hreferences : s.references = t.references)
    (hwatermark : s.watermark = t.watermark) (hfrozen : s.frozen = t.frozen) : s = t := by
  cases s
  cases t
  simp only [mk.injEq]
  exact ⟨hitems, hreferences, hwatermark, hfrozen⟩

/-- The segments that the rule of a name refers to, if there is one. -/
def needed (a : Option α) : List String :=
  (a.map fun r => (Rule.segmentNames r).toList).getD []

/-- Gives a name a rule, or none. -/
def assign (s : RuleStore α) (n : String) (a : Option α) : RuleStore α :=
  { s with
    items := a.elim (s.items.erase n) (s.items.insert n)
    references := relink n (needed (s.get? n)) (needed a) s.references }

theorem references_unlink (n : String) :
    (s.unlink n).references = (needed (s.get? n)).foldl (dropReference n) s.references := by
  unfold unlink needed get?
  cases s.items.get? n <;> rfl

theorem insert_eq_assign (s : RuleStore α) (r : α) :
    s.insert r = s.assign (Rule.name r) (some r) := by
  refine ext ?_ ?_ (watermark_insert r) (frozen_insert r)
  · show (s.unlink (Rule.name r)).items.insert _ r = _
    rw [items_unlink]
    rfl
  · show (Rule.segmentNames r).toList.foldl _ (s.unlink (Rule.name r)).references = _
    rw [references_unlink]
    rfl

theorem erase_eq_assign (s : RuleStore α) (n : String) : s.erase n = s.assign n none := by
  refine ext ?_ (references_unlink n) (watermark_erase n) (frozen_erase n)
  show (s.unlink n).items.erase n = _
  rw [items_unlink]
  rfl

theorem get?_assign : (s.assign n a).get? m = if m = n then a else s.get? m := by
  unfold assign get?
  cases a with
  | none => exact Dict.get?_erase _ _ _
  | some r => exact Dict.get?_insert _ _ _ _

omit [Rule α] in
theorem items_ext (h : ∀ n, s.get? n = t.get? n) : s.items = t.items :=
  Dict.ext_get? h

/-- **Assignments to different names commute.** -/
theorem assign_comm (h : m ≠ n) : (s.assign n a).assign m b = (s.assign m b).assign n a := by
  have hm : (s.assign n a).get? m = s.get? m := get?_assign.trans (if_neg h)
  have hn : (s.assign m b).get? n = s.get? n := get?_assign.trans (if_neg h.symm)
  refine ext (items_ext fun i => ?_) ?_ rfl rfl
  · simp only [get?_assign]
    by_cases hi : i = m
    · rw [if_pos hi, if_pos hi, if_neg (hi ▸ h)]
    · rw [if_neg hi, if_neg hi]
  · show relink m (needed ((s.assign n a).get? m)) _ (relink n _ _ _) =
      relink n (needed ((s.assign m b).get? n)) _ (relink m _ _ _)
    rw [hm, hn]
    exact relink_comm h _ _ _ _ _

theorem assign_assign_none : (s.assign n none).assign n a = s.assign n a := by
  have hn : (s.assign n none).get? n = none := get?_assign.trans (if_pos rfl)
  refine ext (items_ext fun i => ?_) ?_ rfl rfl
  · simp only [get?_assign]
    split <;> rfl
  · show relink n (needed ((s.assign n none).get? n)) _ _ = _
    rw [hn]
    rfl

/-! ### Removals move to the front -/

theorem foldl_erase_assign {ns : List String} (h : n ∉ ns) :
    ns.foldl erase (s.assign n a) = (ns.foldl erase s).assign n a := by
  induction ns generalizing s with
  | nil => rfl
  | cons m ns ih =>
    obtain ⟨hm, hns⟩ := List.ne_and_not_mem_of_not_mem_cons h
    rw [List.foldl_cons, List.foldl_cons, ← ih hns, erase_eq_assign, erase_eq_assign,
      assign_comm (Ne.symm hm)]

/-- A removal before some additions is made up for by an addition of its name. -/
theorem foldl_insert_assign_none {rs : List α} (h : ∃ r ∈ rs, Rule.name r = n) :
    rs.foldl insert (s.assign n none) = rs.foldl insert s := by
  induction rs generalizing s with
  | nil =>
    obtain ⟨r, hr, -⟩ := h
    cases hr
  | cons q rs ih =>
    rw [List.foldl_cons, List.foldl_cons, insert_eq_assign, insert_eq_assign]
    by_cases hq : Rule.name q = n
    · rw [hq, assign_assign_none]
    · have hlater : ∃ r ∈ rs, Rule.name r = n := by
        obtain ⟨r, hr, hn⟩ := h
        rcases List.mem_cons.mp hr with rfl | hr
        · exact absurd hn hq
        · exact ⟨r, hr, hn⟩
      rw [assign_comm hq, ih hlater]

/-- If a name is removed in the end, it makes no difference whether removals come before or after
an assignment to it. -/
theorem foldl_erase_assign_none (ns : List String) :
    (ns.foldl erase (s.assign n a)).assign n none =
      ((ns.foldl erase s).assign n a).assign n none := by
  induction ns generalizing s a with
  | nil => rfl
  | cons m ns ih =>
    rw [List.foldl_cons, List.foldl_cons, erase_eq_assign, erase_eq_assign]
    by_cases hm : m = n
    · subst hm
      calc (ns.foldl erase ((s.assign m a).assign m none)).assign m none
          = (ns.foldl erase (s.assign m a)).assign m none := by
            rw [ih, assign_assign_none]
        _ = (ns.foldl erase ((s.assign m none).assign m a)).assign m none := by
            rw [assign_assign_none]
        _ = ((ns.foldl erase (s.assign m none)).assign m a).assign m none := ih
    · rw [assign_comm hm, ih]

/-! ### Pages and their rules -/

section Keep

variable {keep : α → Bool} {rs : List α}

/-- The store after some rules in their order, each stored or removed. -/
def settleEach (keep : α → Bool) (s : RuleStore α) (rs : List α) : RuleStore α :=
  rs.foldl (fun s r => s.assign (Rule.name r) (if Delta.wanted keep r then some r else none)) s

/-- The store after the removals and then the additions of a page. -/
def settlePage (keep : α → Bool) (s : RuleStore α) (rs : List α) : RuleStore α :=
  (rs.filter (Delta.wanted keep)).foldl insert
    (((rs.filter fun r => !Delta.wanted keep r).map Rule.name).foldl erase s)

theorem settlePage_cons_wanted {r : α} (hr : Delta.wanted keep r = true) :
    s.settlePage keep (r :: rs) = (rs.filter (Delta.wanted keep)).foldl insert
      ((((rs.filter fun r => !Delta.wanted keep r).map Rule.name).foldl erase s).assign
        (Rule.name r) (some r)) := by
  simp only [settlePage, List.filter_cons, hr, Bool.not_true, if_true, if_false,
    Bool.false_eq_true, List.foldl_cons, insert_eq_assign]

theorem settlePage_cons_unwanted {r : α} (hr : Delta.wanted keep r = false) :
    s.settlePage keep (r :: rs) = (s.assign (Rule.name r) none).settlePage keep rs := by
  simp only [settlePage, List.filter_cons, hr, Bool.not_false, if_true, if_false,
    Bool.false_eq_true, List.map_cons, List.foldl_cons, erase_eq_assign]

end Keep

end RuleStore

/-- Whether rules remove a name at last after one of them was to be stored under it. -/
def Delta.Revives {α : Type} [Rule α] (keep : α → Bool) (rs : List α) (n : String) : Prop :=
  (∃ last, Rule.lastNamed n rs = some last ∧ Delta.wanted keep last = false) ∧
    ∃ r ∈ rs, Rule.name r = n ∧ Delta.wanted keep r = true

namespace RuleStore

variable {α : Type} [Rule α] {s t : RuleStore α} {n : String} {keep : α → Bool} {r : α} {rs : List α}

theorem revives_cons (h : Delta.Revives keep rs n) : Delta.Revives keep (r :: rs) n := by
  obtain ⟨⟨last, hlast, hw⟩, q, hq, hn, hkept⟩ := h
  refine ⟨⟨last, ?_, hw⟩, q, List.mem_cons_of_mem _ hq, hn, hkept⟩
  rw [Rule.lastNamed_cons, hlast, Option.some_or]

/-- A wanted rule is followed by a wanted rule of its name or by no removal of it. -/
theorem not_mem_of_not_revives (hr : Delta.wanted keep r = true)
    (h : ¬ Delta.Revives keep (r :: rs) (Rule.name r)) :
    (∃ q ∈ rs.filter (Delta.wanted keep), Rule.name q = Rule.name r) ∨
      Rule.name r ∉ (rs.filter fun r => !Delta.wanted keep r).map Rule.name := by
  refine or_iff_not_imp_left.mpr fun hstored hremoved => h ⟨?_, r, List.mem_cons_self, rfl, hr⟩
  obtain ⟨q, hq, hqn⟩ := List.mem_map.mp hremoved
  obtain ⟨hq, -⟩ := List.mem_filter.mp hq
  cases hlast : Rule.lastNamed (Rule.name r) rs with
  | none => exact absurd hqn (Rule.lastNamed_eq_none.mp hlast q hq)
  | some last =>
    obtain ⟨hmem, hname⟩ := Rule.mem_of_lastNamed hlast
    refine ⟨last, by rw [Rule.lastNamed_cons, hlast, Option.some_or], ?_⟩
    exact Bool.eq_false_iff.mpr fun hw => hstored ⟨last, List.mem_filter.mpr ⟨hmem, hw⟩, hname⟩

/-- **A page that revives no name leaves the store that its rules leave one at a time.** -/
theorem settlePage_eq_settleEach (h : ∀ n, ¬ Delta.Revives keep rs n) :
    s.settlePage keep rs = s.settleEach keep rs := by
  induction rs generalizing s with
  | nil => rfl
  | cons r rs ih =>
    have htail : ∀ n, ¬ Delta.Revives keep rs n := fun n hn => h n (revives_cons hn)
    show _ = (s.assign (Rule.name r) _).settleEach keep rs
    rw [← ih htail]
    cases hr : Delta.wanted keep r with
    | false => exact settlePage_cons_unwanted hr
    | true =>
      rw [settlePage_cons_wanted hr, if_pos rfl]
      unfold settlePage
      rcases not_mem_of_not_revives hr (h _) with hlater | hnot
      · -- the removals of the name do not matter, as it is stored again
        rw [← foldl_insert_assign_none hlater, ← foldl_erase_assign_none,
          foldl_insert_assign_none hlater]
      · rw [foldl_erase_assign hnot]

/-! ### What is stored -/

theorem get?_settleEach : (s.settleEach keep rs).get? n =
    (Rule.lastNamed n rs).elim (s.get? n) fun r => if Delta.wanted keep r then some r else none := by
  induction rs generalizing s with
  | nil => rfl
  | cons r rs ih =>
    show ((s.assign (Rule.name r) _).settleEach keep rs).get? n = _
    rw [ih, Rule.lastNamed_cons, get?_assign]
    cases Rule.lastNamed n rs with
    | some last => rfl
    | none =>
      by_cases hn : Rule.name r = n
      · rw [if_pos hn, if_pos hn.symm]
        rfl
      · rw [if_neg hn, if_neg (Ne.symm hn)]
        rfl

theorem get?_settlePage : (s.settlePage keep rs).get? n =
    (Rule.lastNamed n (rs.filter (Delta.wanted keep))).or
      (if n ∈ (rs.filter fun r => !Delta.wanted keep r).map Rule.name then none else s.get? n) := by
  rw [settlePage, get?_foldl_insert, get?_foldl_erase]

theorem lastNamed_filter {last : α} (h : Rule.lastNamed n rs = some last)
    (hw : Delta.wanted keep last = true) :
    Rule.lastNamed n (rs.filter (Delta.wanted keep)) = some last := by
  unfold Rule.lastNamed at h ⊢
  obtain ⟨before, hbefore⟩ := List.getLast?_eq_some_iff.mp h
  have hswap : ((rs.filter (Delta.wanted keep)).filter fun r => Rule.name r = n) =
      (rs.filter fun r => Rule.name r = n).filter (Delta.wanted keep) := by
    simp only [List.filter_filter, Bool.and_comm]
  rw [hswap, hbefore, List.filter_append, List.filter_cons_of_pos hw]
  exact List.getLast?_concat

/-- Exactly a revived name is looked up differently after a page and after its rules. -/
theorem get?_settlePage_eq_iff :
    (s.settlePage keep rs).get? n = (s.settleEach keep rs).get? n ↔ ¬ Delta.Revives keep rs n := by
  rw [get?_settlePage, get?_settleEach]
  cases hlast : Rule.lastNamed n rs with
  | none =>
    have hno := Rule.lastNamed_eq_none.mp hlast
    have hwanted : Rule.lastNamed n (rs.filter (Delta.wanted keep)) = none :=
      Rule.lastNamed_eq_none.mpr fun r hr => hno r ((List.mem_filter.mp hr).1)
    have hremoved : n ∉ (rs.filter fun r => !Delta.wanted keep r).map Rule.name := by
      intro hn
      obtain ⟨r, hr, hrn⟩ := List.mem_map.mp hn
      exact hno r ((List.mem_filter.mp hr).1) hrn
    rw [hwanted, if_neg hremoved]
    refine iff_of_true rfl ?_
    rintro ⟨⟨last, hlast', -⟩, -⟩
    cases hlast.symm.trans hlast'
  | some last =>
    obtain ⟨hmem, hname⟩ := Rule.mem_of_lastNamed hlast
    cases hw : Delta.wanted keep last with
    | true =>
      rw [lastNamed_filter hlast hw]
      refine iff_of_true (by simp [hw]) ?_
      rintro ⟨⟨last', hlast', hw'⟩, -⟩
      obtain rfl := Option.some.inj (hlast.symm.trans hlast')
      exact absurd hw (Bool.eq_false_iff.mp hw')
    | false =>
      have hremoved : n ∈ (rs.filter fun r => !Delta.wanted keep r).map Rule.name :=
        List.mem_map.mpr ⟨last, List.mem_filter.mpr ⟨hmem, by simp [hw]⟩, hname⟩
      rw [if_pos hremoved, Option.or_none, Option.elim_some, hw, if_neg Bool.false_ne_true,
        Rule.lastNamed_eq_none]
      constructor
      · rintro hno ⟨-, r, hr, hrn, hrw⟩
        exact hno r (List.mem_filter.mpr ⟨hr, hrw⟩) hrn
      · intro hno r hr hrn
        obtain ⟨hr, hrw⟩ := List.mem_filter.mp hr
        exact hno ⟨⟨last, hlast, hw⟩, r, hr, hrn, hrw⟩

/-! ### The two ways to apply a page -/

/-- Applies some rules one at a time, in their order. -/
def applyEach (keep : α → Bool) (s : RuleStore α) (rs : List α) :
    Except SyncError (RuleStore α) :=
  rs.foldlM (fun s r => (s.applyEntity r (keep r)).map (·.1)) s

/-- The change number of the last of some rules, or the watermark before them. -/
def lastNumber (s : RuleStore α) (rs : List α) : ChangeNumber :=
  (rs.getLast?.map Rule.changeNumber).getD s.watermark

theorem settleEach_watermark (w : ChangeNumber) :
    ({ s with watermark := w }).settleEach keep rs = { s.settleEach keep rs with watermark := w } := by
  induction rs generalizing s with
  | nil => rfl
  | cons r rs ih => exact ih (s := s.assign (Rule.name r) _)

theorem applyEntity_newer (keep : α → Bool) (hf : s.frozen = false) (hr : s.watermark < Rule.changeNumber r) :
    (s.applyEntity r (keep r)).map (·.1) =
      .ok { s.assign (Rule.name r) (if Delta.wanted keep r then some r else none) with
        watermark := Rule.changeNumber r } := by
  have hw : Delta.wanted keep r = (Rule.active r && keep r) := rfl
  rw [applyEntity_eq, if_neg (by simp [hf]), if_neg (Int.not_le.mpr hr), hw]
  cases Rule.active r && keep r with
  | true =>
    rw [if_pos rfl, if_pos rfl, insert_eq_assign]
    rfl
  | false =>
    rw [if_neg Bool.false_ne_true, if_neg Bool.false_ne_true, erase_eq_assign]
    rfl

/-- Rules that are newer one after the other are all applied. -/
theorem applyEach_eq (hf : s.frozen = false)
    (hasc : rs.Pairwise fun q r => Rule.changeNumber q < Rule.changeNumber r)
    (habove : ∀ r ∈ rs, s.watermark < Rule.changeNumber r) :
    s.applyEach keep rs = .ok { s.settleEach keep rs with watermark := s.lastNumber rs } := by
  induction rs generalizing s with
  | nil => rfl
  | cons r rs ih =>
    obtain ⟨hr, hasc⟩ := List.pairwise_cons.mp hasc
    have hstep := applyEntity_newer keep hf (habove r List.mem_cons_self)
    unfold applyEach at ih ⊢
    rw [List.foldlM_cons, hstep]
    refine (ih ?_ hasc ?_).trans ?_
    · exact hf
    · exact hr
    · rw [settleEach_watermark]
      congr 2
      simp only [lastNumber, List.getLast?_cons, Option.map_some, Option.getD_some]
      cases rs.getLast? <;> rfl

/-- **A page and its rules one at a time lead to the same store exactly if no name is revived.**
Both are applied; they agree on the watermark, and on a name exactly if it is not revived. -/
theorem pages_apply_like_rules_iff (hf : s.frozen = false) (hne : rs ≠ [])
    (hasc : rs.Pairwise fun q r => Rule.changeNumber q < Rule.changeNumber r)
    (habove : ∀ r ∈ rs, s.watermark < Rule.changeNumber r) :
    ∃ t o u,
      s.applyDelta (Delta.ofPage ⟨s.watermark, Rule.changeNumber (rs.getLast hne), rs⟩ keep) =
        .ok (t, o) ∧
      s.applyEach keep rs = .ok u ∧
      t.watermark = u.watermark ∧
      (∀ n, t.get? n = u.get? n ↔ ¬ Delta.Revives keep rs n) ∧
      (t.items = u.items ∧ t.references = u.references ↔ ∀ n, ¬ Delta.Revives keep rs n) := by
  have hlast : s.lastNumber rs = Rule.changeNumber (rs.getLast hne) := by
    rw [lastNumber, List.getLast?_eq_some_getLast hne]
    rfl
  have hle : s.watermark ≤ Rule.changeNumber (rs.getLast hne) :=
    Int.le_of_lt (habove _ (List.getLast_mem hne))
  refine ⟨_, _, _, applyDelta_eq_ok_iff.mpr ⟨hf, rfl, hle, rfl, rfl⟩, applyEach_eq hf hasc habove,
    hlast.symm, fun n => get?_settlePage_eq_iff, ?_⟩
  constructor
  · rintro ⟨hitems, -⟩ n
    exact get?_settlePage_eq_iff.mp (congrArg (·.get? n) hitems)
  · intro hno
    have heq : s.settlePage keep rs = s.settleEach keep rs := settlePage_eq_settleEach hno
    have hitems : (s.settlePage keep rs).items = (s.settleEach keep rs).items := by rw [heq]
    have hreferences : (s.settlePage keep rs).references = (s.settleEach keep rs).references := by
      rw [heq]
    exact ⟨hitems, hreferences⟩

/-! ### A flag that is archived later in the same page -/

/-- A flag in use at 10 and archived at 20. -/
def archivedInPage : List Flag :=
  [.asking "a" [] 10, { Flag.asking "a" [] 20 with status := .archived }]

/-- The page stores what its last rule removes. -/
theorem archivedInPage_revived : ∃ t o u,
    (empty : RuleStore Flag).applyDelta
      (Delta.ofPage ⟨unsynced, 20, archivedInPage⟩ fun _ => true) = .ok (t, o) ∧
    (empty : RuleStore Flag).applyEach (fun _ => true) archivedInPage = .ok u ∧
    t.watermark = u.watermark ∧
    (∀ n, t.get? n = u.get? n ↔ ¬ Delta.Revives (fun _ => true) archivedInPage n) ∧
    (t.items = u.items ∧ t.references = u.references ↔
      ∀ n, ¬ Delta.Revives (fun _ => true) archivedInPage n) :=
  @pages_apply_like_rules_iff Flag _ empty (fun _ => true) archivedInPage rfl (by decide)
    (by decide) (by decide)

/-- Pages and their rules one at a time need not lead to the same store. -/
theorem archived_flag_stays : ¬ ∀ (s : RuleStore Flag) (keep : Flag → Bool) (rs : List Flag)
    (hne : rs ≠ []), s.frozen = false →
    (rs.Pairwise fun q r => q.changeNumber < r.changeNumber) →
    (∀ r ∈ rs, s.watermark < r.changeNumber) →
    ∀ t o u,
      s.applyDelta (Delta.ofPage ⟨s.watermark, (rs.getLast hne).changeNumber, rs⟩ keep) =
        .ok (t, o) →
      s.applyEach keep rs = .ok u →
      t.items = u.items ∧ t.references = u.references ∧ t.watermark = u.watermark := by
  intro h
  have heq := (h empty (fun _ => true) archivedInPage (by decide) rfl (by decide) (by decide)
    _ _ _ rfl rfl).1
  have hget : some (Flag.asking "a" [] 10) = none := congrArg (·.get? "a") heq
  cases hget

end RuleStore

end Halyard

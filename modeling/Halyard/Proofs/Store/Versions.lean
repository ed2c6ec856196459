/-
# Versions of cached flags

A kill takes effect ahead of the definition that will say so, so a killed flag
may be newer than the watermark of its store. Pages and inline definitions are
measured against the watermark only. Hence a cached flag goes back to an older
version in exactly one case: it was killed ahead of the watermark and a
definition that is older than the kill overtakes it
(`Delivery.version_falls_iff_overtakes`). Where nothing overtakes it, a kill
lasts until a definition at least as new is stored or the flag is removed.

Key definitions: `RulePage.Within`, `RuleStore.Dated`, `Delivery.Overtakes`,
`Replica.Sometimes`.
Key theorems: `RuleStore.Dated.receive`,
`Delivery.version_falls_iff_overtakes`.
-/
import Halyard.Proofs.Store.Delivery

namespace Halyard

open Push

/-- The definitions on a page changed after its beginning and not after its end. -/
def RulePage.Within {α : Type} [Rule α] (p : RulePage α) : Prop :=
  ∀ v ∈ p.data, p.since < Rule.changeNumber v ∧ Rule.changeNumber v ≤ p.till

/-- The page of flags that a delivery brings, if any, holds what changed in its range. -/
def Delivery.Within : Delivery → Prop
  | .answer c => c.flags.Within
  | .notification _ _ => True

/-- Every flag stands under its own name, and is no newer than the watermark unless it is
killed. -/
structure RuleStore.Dated (s : RuleStore Flag) : Prop where
  named : ∀ {n f}, s.get? n = some f → f.name = n
  dated : ∀ {n f}, s.get? n = some f → f.changeNumber ≤ s.watermark ∨ f.killed = true

/-! ### The invariant -/

namespace RuleStore.Dated

variable {filter : Names} {s : RuleStore Flag} {r : Replica}

theorem empty : Dated (RuleStore.empty : RuleStore Flag) where
  named h := by simp [RuleStore.empty, get?] at h
  dated h := by simp [RuleStore.empty, get?] at h

theorem advance (hs : s.Dated) {p : RulePage Flag} (hp : p.Within)
    (hw : s.watermark ≤ p.till) :
    (s.advance (Delta.ofPage p (Flag.matchesSets filter))).Dated where
  named h := by
    rcases of_get?_advance h with ⟨-, hn⟩ | h
    · exact hn
    · exact hs.named h
  dated h := by
    rcases of_get?_advance h with ⟨hm, -⟩ | h
    · exact .inl (hp _ (List.mem_filter.mp hm).1).2
    · rcases hs.dated h with hle | hk
      · exact .inl (Int.le_trans hle hw)
      · exact .inr hk

theorem kill (hs : s.Dated) {treatment : String} {n : ChangeNumber} {f : Flag} :
    (s.insert (killed f treatment n)).Dated where
  named h := by
    rw [get?_insert] at h
    split at h
    · rename_i hn
      cases h
      exact hn.symm
    · exact hs.named h
  dated h := by
    rw [watermark_insert]
    rw [get?_insert] at h
    split at h
    · cases h
      exact .inr rfl
    · exact hs.dated h

end RuleStore.Dated

namespace Delivery

variable {filter : Names} {r : Replica}

theorem within_of_accepted? {d : Delivery} (hd : d.Within) {p : RulePage Flag}
    (h : d.accepted? filter r = some p) : p.Within := by
  cases d with
  | answer c =>
    rw [of_accepted?_answer h]
    exact hd
  | notification busy n =>
    cases n with
    | flagUpdate u =>
      obtain ⟨f, -, rfl, hw, -⟩ := of_accepted?_flagUpdate h
      intro v hv
      obtain rfl := List.mem_singleton.mp hv
      exact ⟨hw, Int.le_refl _⟩
    | _ => cases h

theorem dated_apply (filter : Names) {d : Delivery} (hd : d.Within) (hr : r.stores.flags.Dated) :
    (d.apply filter r).stores.flags.Dated := by
  have he := flagEffect filter r d
  revert he
  generalize (d.apply filter r).stores.flags = t
  intro he
  cases he with
  | same _ => exact hr
  | page hp hs ht => exact hr.advance (within_of_accepted? hd hp) (hs ▸ ht)
  | kill _ _ => exact hr.kill

end Delivery

/-- **Every store of flags that deliveries lead to is dated.** -/
theorem RuleStore.Dated.receive {filter : Names} : ∀ (ds : List Delivery) {r : Replica},
    (∀ d ∈ ds, d.Within) → r.stores.flags.Dated → (r.receive filter ds).stores.flags.Dated
  | [], _, _, hr => hr
  | d :: ds, _, hds, hr => receive ds (fun e he => hds e (List.mem_cons_of_mem _ he))
      (Delivery.dated_apply filter (hds d List.mem_cons_self) hr)

/-- Whether deliveries lead to a replica from one that holds nothing. -/
def Replica.Reachable (filter : Names) (r : Replica) : Prop :=
  ∃ ds : List Delivery, (∀ d ∈ ds, d.Within) ∧ Replica.initial.receive filter ds = r

theorem Replica.Reachable.dated {filter : Names} {r : Replica} (hr : r.Reachable filter) :
    r.stores.flags.Dated := by
  obtain ⟨ds, hds, rfl⟩ := hr
  exact RuleStore.Dated.receive ds hds .empty

/-! ### Going back -/

/-- Whether a delivery replaces a flag that was killed ahead of the watermark by a
definition that is older than the kill. -/
def Delivery.Overtakes (filter : Names) (name : String) (r : Replica) (d : Delivery) : Prop :=
  ∃ f g, r.stores.flags.get? name = some f ∧ f.killed = true ∧
    r.stores.flags.watermark < f.changeNumber ∧
    d.stored? filter r name = some g ∧ g.changeNumber < f.changeNumber

/-- Whether a delivery stores a definition of a flag that is at least as new as `n`, or
removes the flag. -/
def Delivery.Supersedes (filter : Names) (name : String) (n : ChangeNumber) (r : Replica)
    (d : Delivery) : Prop :=
  (∃ g, d.stored? filter r name = some g ∧ n ≤ g.changeNumber) ∨
    (d.apply filter r).stores.flags.get? name = none

/-- Whether a flag is stored as killed, at `n` or later. -/
def RuleStore.KilledSince (s : RuleStore Flag) (name : String) (n : ChangeNumber) : Prop :=
  ∃ f, s.get? name = some f ∧ f.killed = true ∧ n ≤ f.changeNumber

/-- Whether something holds of one of some deliveries and the replica it comes to. -/
def Replica.Sometimes (filter : Names) (P : Replica → Delivery → Prop) :
    Replica → List Delivery → Prop
  | _, [] => False
  | r, d :: ds => P r d ∨ Sometimes filter P (d.apply filter r) ds

namespace Delivery

variable {filter : Names} {r : Replica} {name : String}

theorem falls_iff {d : Delivery} (hd : d.Within) (hr : r.stores.flags.Dated) :
    (∃ f g, r.stores.flags.get? name = some f ∧
      (d.apply filter r).stores.flags.get? name = some g ∧ g.changeNumber < f.changeNumber) ↔
      d.Overtakes filter name r := by
  constructor
  · rintro ⟨f, g, hf, hg, hlt⟩
    rcases get?_apply_cases filter (fun h => hr.named h) d name with
      ⟨p, g', hp, hs, hst, hg'⟩ | ⟨-, hn | hn⟩ | ⟨f', busy, n, t, rfl, hf', hn, hg'⟩
    · obtain rfl : g = g' := Option.some.inj (hg.symm.trans hg')
      have hw : r.stores.flags.watermark < g.changeNumber := by
        rw [← hs]
        exact (within_of_accepted? hd hp _ (mem_of_stored? hp hst)).1
      have hwf : r.stores.flags.watermark < f.changeNumber := Int.lt_trans hw hlt
      refine ⟨f, g, hf, ?_, hwf, hst, hlt⟩
      rcases hr.dated hf with hle | hk
      · exact absurd hle (Int.not_le.mpr hwf)
      · exact hk
    · rw [hn] at hg
      cases hg
    · rw [hn, hf, Option.some.injEq] at hg
      subst hg
      exact absurd hlt (Int.lt_irrefl _)
    · rw [hf', Option.some.injEq] at hf
      rw [hg', Option.some.injEq] at hg
      subst hf hg
      rw [RuleStore.changeNumber_killed] at hlt
      exact absurd (Int.lt_trans hlt hn) (Int.lt_irrefl _)
  · rintro ⟨f, g, hf, -, -, hst, hlt⟩
    exact ⟨f, g, hf, get?_of_stored? hst, hlt⟩

theorem killedSince_apply (filter : Names) {d : Delivery} (hd : d.Within)
    (hr : r.stores.flags.Dated) {n : ChangeNumber} (hk : r.stores.flags.KilledSince name n) :
    (d.apply filter r).stores.flags.KilledSince name n ∨ d.Overtakes filter name r ∨
      d.Supersedes filter name n r := by
  obtain ⟨f, hf, hkf, hnf⟩ := hk
  rcases get?_apply_cases filter (fun h => hr.named h) d name with
    ⟨p, g, hp, hs, hst, hg⟩ | ⟨-, hn | hn⟩ | ⟨f', busy, m, t, rfl, hf', hm, hg⟩
  · by_cases hng : n ≤ g.changeNumber
    · exact .inr (.inr (.inl ⟨g, hst, hng⟩))
    · exact .inr (.inl ((falls_iff hd hr).mp
        ⟨f, g, hf, hg, Int.lt_of_lt_of_le (Int.not_le.mp hng) hnf⟩))
  · exact .inr (.inr (.inr hn))
  · exact .inl ⟨f, hn.trans hf, hkf, hnf⟩
  · obtain rfl : f' = f := Option.some.inj (hf'.symm.trans hf)
    refine .inl ⟨_, hg, rfl, ?_⟩
    rw [RuleStore.changeNumber_killed]
    exact Int.le_of_lt (Int.lt_of_le_of_lt hnf hm)

/-- A kill outlasts deliveries of which none overtakes it and none supersedes it. -/
theorem killedSince_receive {n : ChangeNumber} : ∀ (ds : List Delivery) {r : Replica},
    (∀ d ∈ ds, d.Within) → r.stores.flags.Dated → r.stores.flags.KilledSince name n →
    (r.receive filter ds).stores.flags.KilledSince name n ∨
      r.Sometimes filter (Overtakes filter name) ds ∨
      r.Sometimes filter (Supersedes filter name n) ds
  | [], _, _, _, hk => .inl hk
  | d :: ds, r, hds, hr, hk => by
    have hd := hds d List.mem_cons_self
    rcases killedSince_apply filter hd hr hk with hk | ho | hs
    · rcases killedSince_receive ds (fun e he => hds e (List.mem_cons_of_mem _ he))
        (dated_apply filter hd hr) hk with h | h | h
      · exact .inl h
      · exact .inr (.inl (.inr h))
      · exact .inr (.inr (.inr h))
    · exact .inr (.inl (.inl ho))
    · exact .inr (.inr (.inl hs))

theorem killedSince_of_kill (filter : Names) (busy : Bool) {n : ChangeNumber} {treatment : String}
    {s : RuleStore Flag} (hr : r.stores.flags.Dated)
    (h : r.stores.flags.kill name treatment n = .ok (s, true)) :
    ((notification busy (.kill n name treatment)).apply filter
      r).stores.flags.KilledSince name n := by
  have ha : ((notification busy (.kill n name treatment)).apply filter r).stores.flags = s := by
    simp only [apply, Replica.dispatch, h]
  rw [ha]
  rcases RuleStore.kill_cases h with ⟨-, hb⟩ | ⟨f, hf, -, rfl, -⟩
  · cases hb
  · refine ⟨RuleStore.killed f treatment n, ?_, rfl, Int.le_refl _⟩
    rw [RuleStore.get?_insert, RuleStore.name_killed, if_pos (hr.named hf).symm]

/-- **A flag goes back in version exactly when a definition overtakes its kill.** A kill
that took effect lasts through all later deliveries, unless it is overtaken, until a
definition that is at least as new is stored or the flag is removed. -/
theorem version_falls_iff_overtakes (hr : r.Reachable filter) :
    (∀ (d : Delivery) (name : String), d.Within →
      ((∃ f g, r.stores.flags.get? name = some f ∧
        (d.apply filter r).stores.flags.get? name = some g ∧
        g.changeNumber < f.changeNumber) ↔ d.Overtakes filter name r)) ∧
    (∀ busy n name treatment s (ds : List Delivery),
      r.stores.flags.kill name treatment n = .ok (s, true) → (∀ e ∈ ds, e.Within) →
      let killed := (notification busy (.kill n name treatment)).apply filter r
      (killed.receive filter ds).stores.flags.KilledSince name n ∨
        killed.Sometimes filter (Overtakes filter name) ds ∨
        killed.Sometimes filter (Supersedes filter name n) ds) := by
  refine ⟨fun d name hd => falls_iff hd hr.dated, ?_⟩
  intro busy n name treatment s ds hkill hds
  have hk := killedSince_of_kill filter busy hr.dated hkill
  have hdated := dated_apply filter (d := notification busy (.kill n name treatment))
    trivial hr.dated
  exact killedSince_receive ds hds hdated hk

/-! ### A kill that is overtaken -/

/-- A flag is fetched at 10 and killed at 20. -/
def fetchThenKill : List Delivery :=
  [.answer (.ofFlags unsynced 10 [.asking "a" [] 10]), .notification false (.kill 20 "a" "off")]

/-- The next page ends before the kill. -/
def laggingPage : Delivery :=
  .answer (.ofFlags 10 15 [.asking "a" [] 15])

theorem within_of_mem_fetchThenKill : ∀ d ∈ fetchThenKill, d.Within := by
  intro d hd
  simp only [fetchThenKill, List.mem_cons, List.not_mem_nil, or_false] at hd
  rcases hd with rfl | rfl
  · simp only [Within, RulePage.Within, RuleChanges.ofFlags, List.mem_singleton, forall_eq]
    decide
  · trivial

theorem within_laggingPage : laggingPage.Within := by
  simp only [laggingPage, Within, RulePage.Within, RuleChanges.ofFlags, List.mem_singleton,
    forall_eq]
  decide

theorem laggingPage_overtakes :
    laggingPage.Overtakes Names.empty "a" (Replica.initial.receive Names.empty fetchThenKill) :=
  ⟨RuleStore.killed (.asking "a" [] 10) "off" 20, .asking "a" [] 15, rfl, rfl, by decide, rfl,
    by decide⟩

/-- The flag goes back from 20 to 15. -/
theorem version_falls_on_laggingPage :
    ∃ f g, (Replica.initial.receive Names.empty fetchThenKill).stores.flags.get? "a" = some f ∧
      (laggingPage.apply Names.empty
        (Replica.initial.receive Names.empty fetchThenKill)).stores.flags.get? "a" = some g ∧
      g.changeNumber < f.changeNumber :=
  ((version_falls_iff_overtakes ⟨fetchThenKill, within_of_mem_fetchThenKill, rfl⟩).1 laggingPage
    "a" within_laggingPage).mpr laggingPage_overtakes

/-- Versions may fall, and a kill may be undone by a definition that is older. -/
theorem kill_undone_by_older_definition :
    (¬ ∀ (filter : Names) (r : Replica) (d : Delivery) (name : String) (f g : Flag),
      r.Reachable filter → d.Within → r.stores.flags.get? name = some f →
      (d.apply filter r).stores.flags.get? name = some g → f.changeNumber ≤ g.changeNumber) ∧
    (¬ ∀ (filter : Names) (r : Replica) (d : Delivery) (name : String) (n : ChangeNumber),
      r.Reachable filter → d.Within → r.stores.flags.KilledSince name n →
      (d.apply filter r).stores.flags.KilledSince name n ∨ d.Supersedes filter name n r) := by
  have hr : (Replica.initial.receive Names.empty fetchThenKill).Reachable Names.empty :=
    ⟨fetchThenKill, within_of_mem_fetchThenKill, rfl⟩
  constructor
  · intro h
    have hle := h Names.empty _ laggingPage "a" (RuleStore.killed (.asking "a" [] 10) "off" 20)
      (.asking "a" [] 15) hr within_laggingPage rfl rfl
    exact absurd hle (by decide)
  · intro h
    have hk : (Replica.initial.receive Names.empty fetchThenKill).stores.flags.KilledSince "a" 20 :=
      ⟨RuleStore.killed (.asking "a" [] 10) "off" 20, rfl, rfl, by decide⟩
    rcases h Names.empty _ laggingPage "a" 20 hr within_laggingPage hk with
      ⟨f, hf, hkf, -⟩ | ⟨g, hg, hle⟩ | hn
    · obtain rfl : Flag.asking "a" [] 15 = f := Option.some.inj hf
      cases hkf
    · obtain rfl : Flag.asking "a" [] 15 = g := Option.some.inj hg
      exact absurd hle (by decide)
    · cases hn

end Delivery

end Halyard

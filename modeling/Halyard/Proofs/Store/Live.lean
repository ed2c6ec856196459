/-
# Only live rules are stored

A backend also tells of rules that are not to be stored: archived ones, and flags
outside the flag sets that are asked for. A fetched page is divided up before it is
applied, a pushed definition is decided on when it is applied, and a kill rewrites a
flag where it is stored. All three keep to the same rule (`Delta.wanted`), so whatever
is delivered, only rules in use are stored, and of the flags only those in the filter
(`Delivery.live_apply`).

It does not follow that a flag is gone once a version of it was applied that is not
to be stored. A page may hold several versions of a flag, and as it removes first and
adds then, one that is to be stored outlives all others, also those that come later.
A flag is gone exactly if the page holds no version of it that is to be stored
(`RuleStore.get?_advance_eq_none_iff`), which is always so for a definition that is
pushed on its own.

Key definitions: `RuleStore.OnlyWanted`, `Stores.Live`.
Key theorems: `Delivery.live_apply`, `RuleStore.get?_advance_eq_none_iff`,
`Replica.only_live_stored`.
-/
import Halyard.Proofs.Store.Closure

namespace Halyard

open Push

namespace RuleStore

variable {α : Type} [Rule α] {s : RuleStore α} {keep : α → Bool} {n : String}

/-- Whether everything that is stored is to be stored. -/
def OnlyWanted (keep : α → Bool) (s : RuleStore α) : Prop :=
  ∀ n r, s.get? n = some r → Delta.wanted keep r = true

theorem onlyWanted_empty : (empty : RuleStore α).OnlyWanted keep := by
  intro n r h
  cases h

theorem OnlyWanted.advance (h : s.OnlyWanted keep) (p : RulePage α) :
    (s.advance (Delta.ofPage p keep)).OnlyWanted keep := by
  intro n r hr
  rcases of_get?_advance hr with ⟨hadded, -⟩ | hbefore
  · exact (List.mem_filter.mp hadded).2
  · exact h n r hbefore

theorem wanted_killed (filter : Names) (f : Flag) (treatment : String) (m : ChangeNumber) :
    Delta.wanted (Flag.matchesSets filter) (killed f treatment m) =
      Delta.wanted (Flag.matchesSets filter) f := rfl

theorem OnlyWanted.insert_killed {s : RuleStore Flag} {filter : Names}
    (h : s.OnlyWanted (Flag.matchesSets filter)) {f : Flag} {name : String}
    (hf : s.get? name = some f) (treatment : String) (m : ChangeNumber) :
    (s.insert (killed f treatment m)).OnlyWanted (Flag.matchesSets filter) := by
  intro n r hr
  rw [get?_insert] at hr
  split at hr
  · obtain rfl := Option.some.inj hr
    rw [wanted_killed]
    exact h name f hf
  · exact h n r hr

/-- **A name is gone after a page that speaks of it exactly if the page withdraws it.** -/
theorem get?_advance_eq_none_iff {p : RulePage α} {r : α} (hr : r ∈ p.data) :
    (s.advance (Delta.ofPage p keep)).get? (Rule.name r) = none ↔
      p.Withdraws keep (Rule.name r) := by
  have hadded : Rule.lastNamed (Rule.name r) (Delta.ofPage p keep).additions = none ↔
      ∀ q ∈ p.data, Rule.name q = Rule.name r → Delta.wanted keep q = false := by
    rw [Rule.lastNamed_eq_none]
    constructor
    · intro h q hq hname
      exact eq_false_of_ne_true fun hw => h q (List.mem_filter.mpr ⟨hq, hw⟩) hname
    · intro h q hq hname
      obtain ⟨hq, hw⟩ := List.mem_filter.mp hq
      exact Bool.false_ne_true ((h q hq hname).symm.trans hw)
  rw [get?_advance, Option.or_eq_none_iff, hadded]
  constructor
  · rintro ⟨hall, -⟩
    exact ⟨⟨r, hr, rfl⟩, hall⟩
  · rintro ⟨-, hall⟩
    have hremoved : Rule.name r ∈ (Delta.ofPage p keep).removals := by
      refine List.mem_map.mpr ⟨r, List.mem_filter.mpr ⟨hr, ?_⟩, rfl⟩
      rw [hall r hr rfl]
      rfl
    exact ⟨hall, if_pos hremoved⟩

end RuleStore

theorem RulePage.withdraws_single {α : Type} [Rule α] {keep : α → Bool} {r : α}
    (h : Delta.wanted keep r = false) (since : ChangeNumber) :
    (RulePage.single since r).Withdraws keep (Rule.name r) := by
  refine ⟨⟨r, List.mem_singleton_self r, rfl⟩, fun q hq _ => ?_⟩
  rw [List.mem_singleton.mp hq]
  exact h

namespace Stores

variable {filter : Names} {s : Stores}

/-- Whether only rules in use are stored, and of the flags only those in the filter. -/
structure Live (filter : Names) (s : Stores) : Prop where
  flags : ∀ n f, s.flags.get? n = some f → f.status = .active ∧ f.matchesSets filter = true
  ruleSegments : ∀ n r, s.ruleSegments.get? n = some r → r.status = .active

theorem live_iff : s.Live filter ↔
    s.flags.OnlyWanted (Flag.matchesSets filter) ∧ s.ruleSegments.OnlyWanted fun _ => true := by
  have hflag : ∀ f : Flag, Delta.wanted (Flag.matchesSets filter) f = true ↔
      f.status = .active ∧ f.matchesSets filter = true := by
    intro f
    rw [Delta.wanted, Bool.and_eq_true, Rule.active, beq_iff_eq]
    rfl
  have hsegment : ∀ r : RuleBasedSegment, Delta.wanted (fun _ => true) r = true ↔
      r.status = .active := by
    intro r
    rw [Delta.wanted, Bool.and_true, Rule.active, beq_iff_eq]
    rfl
  constructor
  · intro h
    exact ⟨fun n f hf => (hflag f).mpr (h.flags n f hf),
      fun n r hr => (hsegment r).mpr (h.ruleSegments n r hr)⟩
  · rintro ⟨hflags, hsegments⟩
    exact ⟨fun n f hf => (hflag f).mp (hflags n f hf),
      fun n r hr => (hsegment r).mp (hsegments n r hr)⟩

end Stores

namespace Delivery

variable {filter : Names} {r : Replica}

/-- Of the rule-based segments a delivery makes nothing, or what a page does. -/
theorem ruleSegments_apply (filter : Names) (r : Replica) (d : Delivery) :
    (d.apply filter r).stores.ruleSegments = r.stores.ruleSegments ∨
      ∃ p, (d.apply filter r).stores.ruleSegments =
        r.stores.ruleSegments.advance (Delta.ofPage p fun _ => true) := by
  cases d with
  | answer c =>
    have happly : (Delivery.answer c).apply filter r =
        { r with stores := (r.stores.applyChanges filter c).1 } := rfl
    rw [happly]
    rcases Stores.snapshots_cases filter r.stores c with
      ⟨-, -, h⟩ | ⟨-, -, -, h⟩ | ⟨-, -, -, h⟩ <;> rw [h]
    · exact .inl rfl
    · exact .inr ⟨c.segments, rfl⟩
    · exact .inr ⟨c.segments, rfl⟩
  | notification busy n =>
    have hd := r.dispatched filter busy n
    have happly : (Delivery.notification busy n).apply filter r =
        (r.dispatch filter busy n).1 := rfl
    rw [happly]
    generalize (r.dispatch filter busy n).1 = r' at hd ⊢
    cases hd with
    | same _ hs _ =>
      rw [hs]
      exact .inl rfl
    | flag _ hp =>
      rcases Stores.applyPushedFlag_cases hp with ⟨rfl, -⟩ | ⟨-, -, -, rfl, -⟩
      · exact .inl rfl
      · exact .inl rfl
    | ruleSegment _ hp =>
      rcases Stores.applyPushedSegment_cases hp with ⟨rfl, -⟩ | ⟨-, rfl, -⟩
      · exact .inl rfl
      · exact .inr ⟨_, rfl⟩
    | kill _ _ => exact .inl rfl

/-- **No delivery stores what is not to be stored.** -/
theorem live_apply (h : r.stores.Live filter) (d : Delivery) :
    (d.apply filter r).stores.Live filter := by
  rw [Stores.live_iff] at h ⊢
  obtain ⟨hflags, hsegments⟩ := h
  constructor
  · have heffect := d.flagEffect filter r
    generalize (d.apply filter r).stores.flags = t at heffect ⊢
    cases heffect with
    | same _ => exact hflags
    | page _ _ _ => exact hflags.advance _
    | kill hf _ => exact hflags.insert_killed hf _ _
  · rcases d.ruleSegments_apply filter r with hsame | ⟨p, hpage⟩
    · rw [hsame]
      exact hsegments
    · rw [hpage]
      exact hsegments.advance p

/-- What becomes of a flag of which the page that takes effect holds a version that is not to be
stored. -/
theorem gone_iff_withdrawn {d : Delivery} {p : RulePage Flag} (hp : d.accepted? filter r = some p)
    {f : Flag} (hf : f ∈ p.data) :
    (d.apply filter r).stores.flags.get? f.name = none ↔
      p.Withdraws (Flag.matchesSets filter) f.name := by
  have heffect := d.flagEffect filter r
  generalize (d.apply filter r).stores.flags = t at heffect ⊢
  cases heffect with
  | same hnone => cases hnone.symm.trans hp
  | page hp' _ _ =>
    obtain rfl := Option.some.inj (hp'.symm.trans hp)
    exact RuleStore.get?_advance_eq_none_iff hf
  | kill _ _ => cases hp

/-- A definition that is pushed on its own and not to be stored takes its flag away. -/
theorem gone_of_pushed {busy : Bool} {u : RuleUpdate Flag} {p : RulePage Flag}
    (hp : (Delivery.notification busy (.flagUpdate u)).accepted? filter r = some p) {f : Flag}
    (hf : f ∈ p.data) (hw : Delta.wanted (Flag.matchesSets filter) f = false) :
    ((Delivery.notification busy (.flagUpdate u)).apply filter r).stores.flags.get? f.name =
      none := by
  obtain ⟨g, -, hsingle, -, -⟩ := of_accepted?_flagUpdate hp
  rw [gone_iff_withdrawn hp hf]
  rw [hsingle] at hf ⊢
  obtain rfl := List.mem_singleton.mp hf
  exact RulePage.withdraws_single hw _

end Delivery

theorem Replica.live_receive {filter : Names} : ∀ (ds : List Delivery) {r : Replica},
    r.stores.Live filter → (r.receive filter ds).stores.Live filter
  | [], _, h => h
  | d :: ds, _, h => Replica.live_receive ds (d.live_apply h)

/-- **Only live rules are stored, and a flag that is not live any more is gone unless its page
also holds a live version of it.** Whatever pages, inline definitions and kills were delivered
and in whatever order, every stored flag is in use and in the filter, and every stored rule-based
segment is in use. Of a flag of which the next delivery applies a version that is archived or
outside of the filter, nothing is stored afterwards exactly if no version of it in the same page
is to be stored, which is always so if the version is pushed on its own. -/
theorem Replica.only_live_stored (filter : Names) (ds : List Delivery) :
    let r := Replica.initial.receive filter ds
    r.stores.Live filter ∧
      ∀ (d : Delivery) (p : RulePage Flag), d.accepted? filter r = some p →
        ∀ f ∈ p.data, Delta.wanted (Flag.matchesSets filter) f = false →
          ((d.apply filter r).stores.flags.get? f.name = none ↔
            p.Withdraws (Flag.matchesSets filter) f.name) ∧
          (∀ busy u, d = .notification busy (.flagUpdate u) →
            (d.apply filter r).stores.flags.get? f.name = none) := by
  intro r
  have hempty : Replica.initial.stores.Live filter :=
    Stores.live_iff.mpr ⟨RuleStore.onlyWanted_empty, RuleStore.onlyWanted_empty⟩
  refine ⟨Replica.live_receive ds hempty, fun d p hp f hf hw => ⟨?_, ?_⟩⟩
  · exact Delivery.gone_iff_withdrawn hp hf
  · rintro busy u rfl
    exact Delivery.gone_of_pushed hp hf hw

/-! ### A flag that is moved to another set later in the same page -/

/-- A flag of one set. -/
def Flag.inSet (set : String) (n : ChangeNumber) : Flag :=
  { Flag.asking "a" [] n with sets := some (Names.ofList [set]) }

/-- A page on which a flag is moved from the set "backend" to the set "other". -/
def movedInPage : RulePage Flag :=
  ⟨unsynced, 20, [.inSet "backend" 10, .inSet "other" 20]⟩

/-- The answer that brings it. -/
def moving : Delivery :=
  .answer ⟨movedInPage, ⟨unsynced, unsynced, []⟩⟩

/-- The flag stays stored in its older version, which is live. -/
theorem movedInPage_stays :
    let filter := Names.ofList ["backend"]
    (moving.apply filter .initial).stores.Live filter ∧
      ((moving.apply filter .initial).stores.flags.get? "a" = none ↔
        movedInPage.Withdraws (Flag.matchesSets filter) "a") ∧
      (moving.apply filter .initial).stores.flags.get? "a" = some (.inSet "backend" 10) := by
  intro filter
  have hafter := Replica.only_live_stored filter [moving]
  have hbefore := Replica.only_live_stored filter []
  have hlast : Flag.inSet "other" 20 ∈ movedInPage.data :=
    List.mem_cons_of_mem _ (List.mem_singleton_self _)
  have hmoved := hbefore.2 moving movedInPage rfl _ hlast (by decide)
  exact ⟨hafter.1, hmoved.1, rfl⟩

/-- A flag need not be gone after a page whose last version of it is not to be stored. -/
theorem moved_flag_stays : ¬ ∀ (filter : Names) (ds : List Delivery) (d : Delivery)
    (p : RulePage Flag), d.accepted? filter (Replica.initial.receive filter ds) = some p →
    ∀ f, Rule.lastNamed f.name p.data = some f →
      Delta.wanted (Flag.matchesSets filter) f = false →
      (d.apply filter (Replica.initial.receive filter ds)).stores.flags.get? f.name = none := by
  intro h
  have hgone := h (Names.ofList ["backend"]) [] moving movedInPage rfl (.inSet "other" 20) rfl
    (by decide)
  have hstays : (moving.apply (Names.ofList ["backend"]) .initial).stores.flags.get? "a" =
      some (.inSet "backend" 10) := rfl
  cases hstays.symm.trans hgone

end Halyard

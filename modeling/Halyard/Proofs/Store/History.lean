/-
# The store of flags against the history of the backend

The backend numbers its changes, so its history is a list of versions with
ascending change numbers. It answers a fetch with the latest version of each
flag that changed in a range, and announces a version together with the change
number before it. A store that hears such pages, such announcements and kills
from the history, in any order, holds at its watermark what the history says,
except for flags that a kill changed ahead of the watermark
(`Replica.flags_refine_history`).

An announced version is the page from the change number before it, so only
pages and kills have to be followed (`History.answers_single`).

Key definitions: `History`, `History.latest`, `History.cachedAt`,
`History.Answers`, `Delivery.Faithful`, `History.Mirrors`.
Key theorems: `History.latest_eq_some_iff`, `History.get?_advance_of_answers`,
`History.mirrors_apply`, `Replica.flags_refine_history`.
-/
import Halyard.Proofs.Store.Delivery

namespace Halyard

open Push

/-- The versions of all flags in the order of their change numbers. -/
structure History where
  versions : List Flag
  ascending : versions.Pairwise fun f g => f.changeNumber < g.changeNumber
  nonneg : ∀ f ∈ versions, 0 ≤ f.changeNumber

namespace History

variable {h : History} {filter : Names} {name : String} {n m : ChangeNumber} {u v : Flag}

/-- The latest version of a flag at a change number. -/
def latest (h : History) (n : ChangeNumber) (name : String) : Option Flag :=
  Rule.lastNamed name (h.versions.filter fun f => f.changeNumber ≤ n)

/-- What a store with a filter is to hold of a flag at a change number. -/
def cachedAt (h : History) (filter : Names) (n : ChangeNumber) (name : String) : Option Flag :=
  (h.latest n name).filter (Delta.wanted (Flag.matchesSets filter))

/-- The change number before a given one. -/
def preceding (h : History) (n : ChangeNumber) : ChangeNumber :=
  ((h.versions.filter fun f => f.changeNumber < n).getLast?.map Flag.changeNumber).getD unsynced

/-- Whether a page brings the latest version of each flag that changed in its range. -/
def Answers (h : History) (p : RulePage Flag) : Prop :=
  ∀ v, v ∈ p.data ↔ p.since < v.changeNumber ∧ h.latest p.till v.name = some v

/-- Whether the history has a version in which a flag is killed. -/
def Kills (h : History) (n : ChangeNumber) (name treatment : String) : Prop :=
  ∃ v ∈ h.versions, v.name = name ∧ v.changeNumber = n ∧ v.killed = true ∧
    v.defaultTreatment = treatment

/-! ### Versions -/

theorem le_of_getLast? {fs : List Flag}
    (hfs : fs.Pairwise fun f g => f.changeNumber < g.changeNumber) (hv : fs.getLast? = some v)
    (hu : u ∈ fs) : u.changeNumber ≤ v.changeNumber := by
  obtain ⟨ys, rfl⟩ := List.getLast?_eq_some_iff.mp hv
  rw [List.pairwise_append] at hfs
  rcases List.mem_append.mp hu with hu | hu
  · exact Int.le_of_lt (hfs.2.2 u hu v List.mem_cons_self)
  · have huv : u = v := List.mem_singleton.mp hu
    exact Int.le_of_eq (congrArg Flag.changeNumber huv)

theorem eq_of_changeNumber_eq : ∀ {fs : List Flag},
    (fs.Pairwise fun f g => f.changeNumber < g.changeNumber) → u ∈ fs → v ∈ fs →
    u.changeNumber = v.changeNumber → u = v
  | f :: fs, hfs, hu, hv, he => by
    rw [List.pairwise_cons] at hfs
    rcases List.mem_cons.mp hu with rfl | hu'
    · rcases List.mem_cons.mp hv with rfl | hv'
      · rfl
      · exact absurd he (Int.ne_of_lt (hfs.1 v hv'))
    · rcases List.mem_cons.mp hv with rfl | hv'
      · exact absurd he.symm (Int.ne_of_lt (hfs.1 u hu'))
      · exact eq_of_changeNumber_eq hfs.2 hu' hv' he

theorem mem_versionsOf :
    v ∈ ((h.versions.filter fun f => f.changeNumber ≤ n).filter fun f => Rule.name f = name) ↔
      v ∈ h.versions ∧ v.name = name ∧ v.changeNumber ≤ n := by
  have hn : Rule.name v = v.name := rfl
  simp only [List.mem_filter, decide_eq_true_eq, hn]
  tauto

/-- The latest version is the newest that is not too new. -/
theorem latest_eq_some_iff :
    h.latest n name = some v ↔
      (v ∈ h.versions ∧ v.name = name ∧ v.changeNumber ≤ n) ∧
        ∀ u ∈ h.versions, u.name = name → u.changeNumber ≤ n →
          u.changeNumber ≤ v.changeNumber := by
  have hasc := (h.ascending.filter fun f => f.changeNumber ≤ n).filter fun f => Rule.name f = name
  unfold latest Rule.lastNamed
  constructor
  · intro hv
    refine ⟨mem_versionsOf.mp (List.mem_of_getLast? hv), fun u hu hun hle => ?_⟩
    exact le_of_getLast? hasc hv (mem_versionsOf.mpr ⟨hu, hun, hle⟩)
  · rintro ⟨hv, hmax⟩
    have hmem := mem_versionsOf.mpr hv
    cases hg : ((h.versions.filter fun f => f.changeNumber ≤ n).filter
        fun f => Rule.name f = name).getLast? with
    | none =>
      rw [List.getLast?_eq_none_iff.mp hg] at hmem
      cases hmem
    | some g =>
      obtain ⟨hgm, hgn, hgle⟩ := mem_versionsOf.mp (List.mem_of_getLast? hg)
      have hle := le_of_getLast? hasc hg hmem
      have hge := hmax g hgm hgn hgle
      rw [eq_of_changeNumber_eq h.ascending hgm hv.1 (Int.le_antisymm hge hle)]

theorem latest_eq_none_iff :
    h.latest n name = none ↔ ∀ u ∈ h.versions, u.name = name → n < u.changeNumber := by
  unfold latest
  rw [Rule.lastNamed_eq_none]
  constructor
  · intro hn u hu hun
    refine Int.not_le.mp fun hle => hn u ?_ hun
    exact List.mem_filter.mpr ⟨hu, by simpa using hle⟩
  · intro hn u hu hun
    obtain ⟨hu, hle⟩ := List.mem_filter.mp hu
    exact absurd (hn u hu hun) (Int.not_lt.mpr (by simpa using hle))

theorem latest_unsynced : h.latest unsynced name = none := by
  rw [latest_eq_none_iff]
  intro u hu _
  exact Int.lt_of_lt_of_le (by decide) (h.nonneg u hu)

theorem latest_changeNumber (hv : v ∈ h.versions) : h.latest v.changeNumber v.name = some v :=
  latest_eq_some_iff.mpr ⟨⟨hv, rfl, Int.le_refl _⟩, fun _ _ _ hle => hle⟩

theorem latest_eq_of_unchanged (hmn : m ≤ n)
    (hu : ∀ v, h.latest n name = some v → v.changeNumber ≤ m) :
    h.latest n name = h.latest m name := by
  cases hv : h.latest n name with
  | none =>
    rw [eq_comm, latest_eq_none_iff]
    intro u hum hun
    exact Int.lt_of_le_of_lt hmn (latest_eq_none_iff.mp hv u hum hun)
  | some v =>
    obtain ⟨⟨hvm, hvn, -⟩, hmax⟩ := latest_eq_some_iff.mp hv
    rw [eq_comm, latest_eq_some_iff]
    exact ⟨⟨hvm, hvn, hu v hv⟩, fun u hum hun hle => hmax u hum hun (Int.le_trans hle hmn)⟩

theorem le_preceding (hv : v ∈ h.versions) (hlt : v.changeNumber < n) :
    v.changeNumber ≤ h.preceding n := by
  have hmem : v ∈ h.versions.filter fun f => f.changeNumber < n :=
    List.mem_filter.mpr ⟨hv, by simpa using hlt⟩
  unfold preceding
  cases hg : (h.versions.filter fun f => f.changeNumber < n).getLast? with
  | none =>
    rw [List.getLast?_eq_none_iff.mp hg] at hmem
    cases hmem
  | some g => exact le_of_getLast? (h.ascending.filter _) hg hmem

theorem name_of_cachedAt (hv : h.cachedAt filter n name = some v) : v.name = name := by
  obtain ⟨hl, -⟩ := Option.filter_eq_some_iff.mp hv
  exact (latest_eq_some_iff.mp hl).1.2.1

/-! ### Pages -/

/-- A version that is announced with the change number before it is a page of its own. -/
theorem answers_single (hv : v ∈ h.versions) (hlt : h.preceding v.changeNumber < v.changeNumber) :
    h.Answers (RulePage.single (h.preceding v.changeNumber) v) := by
  intro u
  simp only [RulePage.single, List.mem_singleton]
  constructor
  · rintro rfl
    exact ⟨hlt, latest_changeNumber hv⟩
  · rintro ⟨hu, hl⟩
    obtain ⟨⟨hum, -, hle⟩, -⟩ := latest_eq_some_iff.mp hl
    by_cases he : u.changeNumber = v.changeNumber
    · exact eq_of_changeNumber_eq h.ascending hum hv he
    · have := le_preceding hum (Int.lt_iff_le_and_ne.mpr ⟨hle, he⟩)
      exact absurd hu (Int.not_lt.mpr this)

/-- **A page brings the flags that changed in its range to the end of the range.** -/
theorem get?_advance_of_answers {s : RuleStore Flag} {p : RulePage Flag} (hp : h.Answers p)
    (hv : h.latest p.till name = some v) (hlt : p.since < v.changeNumber) :
    (s.advance (Delta.ofPage p (Flag.matchesSets filter))).get? name =
      h.cachedAt filter p.till name := by
  have hname : v.name = name := (latest_eq_some_iff.mp hv).1.2.1
  have hmem : v ∈ p.data := (hp v).mpr ⟨hlt, hname ▸ hv⟩
  have huniq : ∀ g ∈ p.data, Rule.name g = name → g = v := by
    intro g hg hgn
    have hgl := ((hp g).mp hg).2
    have hgn : g.name = name := hgn
    rw [hgn, hv] at hgl
    exact (Option.some.inj hgl).symm
  rw [RuleStore.get?_advance, cachedAt, hv]
  cases hw : Delta.wanted (Flag.matchesSets filter) v with
  | true =>
    rw [Option.filter_some_pos hw]
    cases hl : Rule.lastNamed name (Delta.ofPage p (Flag.matchesSets filter)).additions with
    | some g =>
      obtain ⟨hg, hgn⟩ := Rule.mem_of_lastNamed hl
      rw [huniq g (List.mem_filter.mp hg).1 hgn, Option.some_or]
    | none => exact absurd hname (Rule.lastNamed_eq_none.mp hl v (List.mem_filter.mpr ⟨hmem, hw⟩))
  | false =>
    have hnone :
        Rule.lastNamed name (Delta.ofPage p (Flag.matchesSets filter)).additions = none := by
      rw [Rule.lastNamed_eq_none]
      intro g hg hgn
      obtain ⟨hg, hgw⟩ := List.mem_filter.mp hg
      rw [huniq g hg hgn, hw] at hgw
      cases hgw
    have hrem : name ∈ (Delta.ofPage p (Flag.matchesSets filter)).removals :=
      List.mem_map.mpr ⟨v, List.mem_filter.mpr ⟨hmem, by rw [hw]; rfl⟩, hname⟩
    rw [Option.filter_some_neg (by simp [hw]), hnone, Option.none_or, if_pos hrem]

/-- A page leaves the flags that did not change in its range as they are. -/
theorem get?_advance_of_unchanged (filter : Names) {s : RuleStore Flag} {p : RulePage Flag}
    (hp : h.Answers p)
    (hu : ∀ v, h.latest p.till name = some v → v.changeNumber ≤ p.since) :
    (s.advance (Delta.ofPage p (Flag.matchesSets filter))).get? name = s.get? name := by
  have hno : ∀ g ∈ p.data, Rule.name g ≠ name := by
    intro g hg hgn
    obtain ⟨hlt, hgl⟩ := (hp g).mp hg
    have hgn : g.name = name := hgn
    rw [hgn] at hgl
    exact absurd hlt (Int.not_lt.mpr (hu g hgl))
  have hnone : Rule.lastNamed name (Delta.ofPage p (Flag.matchesSets filter)).additions = none :=
    Rule.lastNamed_eq_none.mpr fun g hg => hno g (List.mem_filter.mp hg).1
  have hrem : name ∉ (Delta.ofPage p (Flag.matchesSets filter)).removals := by
    intro hmem
    obtain ⟨g, hg, hgn⟩ := List.mem_map.mp hmem
    exact hno g (List.mem_filter.mp hg).1 hgn
  rw [RuleStore.get?_advance, hnone, Option.none_or, if_neg hrem]

/-! ### The invariant -/

/-- Whether a flag is stored as a kill among some deliveries left it, and the kill is ahead of
the watermark. -/
def KilledAhead (h : History) (filter : Names) (ds : List Delivery) (s : RuleStore Flag)
    (name : String) : Prop :=
  ∃ busy n treatment v, .notification busy (.kill n name treatment) ∈ ds ∧
    h.Kills n name treatment ∧ s.watermark < n ∧ h.cachedAt filter s.watermark name = some v ∧
    s.get? name = some (RuleStore.killed v treatment n)

/-- Whether every flag is stored as the history has it at the watermark, or is killed ahead
of the watermark. -/
def Mirrors (h : History) (filter : Names) (ds : List Delivery) (s : RuleStore Flag) : Prop :=
  ∀ name, s.get? name = h.cachedAt filter s.watermark name ∨ h.KilledAhead filter ds s name

namespace Mirrors

variable {ds : List Delivery} {s : RuleStore Flag}

theorem empty : h.Mirrors filter ds RuleStore.empty := by
  intro name
  refine .inl ?_
  rw [cachedAt, show RuleStore.empty.watermark = unsynced from rfl, latest_unsynced]
  rfl

theorem named (hs : h.Mirrors filter ds s) (hv : s.get? name = some v) : v.name = name := by
  rcases hs name with hc | ⟨-, n, treatment, u, -, -, -, hc, hk⟩
  · exact name_of_cachedAt (hc.symm.trans hv)
  · rw [hv, Option.some.injEq] at hk
    have hu : u.name = name := name_of_cachedAt hc
    subst hk
    exact hu

/-- Pages keep the invariant: a flag that changed is brought up to date, and one that did not
may stay killed only if the kill is ahead of the page. -/
theorem advance (hs : h.Mirrors filter ds s) {p : RulePage Flag} (hp : h.Answers p)
    (hw : p.since = s.watermark) (ht : p.since ≤ p.till) :
    h.Mirrors filter ds (s.advance (Delta.ofPage p (Flag.matchesSets filter))) := by
  intro name
  have htill : (s.advance (Delta.ofPage p (Flag.matchesSets filter))).watermark = p.till := rfl
  by_cases hc : ∃ v, h.latest p.till name = some v ∧ p.since < v.changeNumber
  · obtain ⟨v, hv, hlt⟩ := hc
    exact .inl (get?_advance_of_answers hp hv hlt)
  have hu : ∀ v, h.latest p.till name = some v → v.changeNumber ≤ p.since :=
    fun v hv => Int.not_lt.mp fun hlt => hc ⟨v, hv, hlt⟩
  have hcached : h.cachedAt filter p.till name = h.cachedAt filter s.watermark name := by
    rw [cachedAt, cachedAt, latest_eq_of_unchanged ht hu, hw]
  have hsame := get?_advance_of_unchanged filter (s := s) hp hu
  rcases hs name with heq | ⟨busy, n, treatment, v, hmem, hkill, hn, hv, hk⟩
  · refine .inl ?_
    rw [hsame, htill, hcached]
    exact heq
  · refine .inr ⟨busy, n, treatment, v, hmem, hkill, ?_, ?_, hsame.trans hk⟩
    · rw [htill]
      refine Int.not_le.mp fun hle => ?_
      obtain ⟨u, hum, hun, hcn, -, -⟩ := hkill
      -- the version that kills would have been in the range of the page
      cases hl : h.latest p.till name with
      | none =>
        have := latest_eq_none_iff.mp hl u hum hun
        exact absurd hle (Int.not_le.mpr (hcn ▸ this))
      | some g =>
        have hge := (latest_eq_some_iff.mp hl).2 u hum hun (hcn ▸ hle)
        have hgle := hu g hl
        rw [hcn] at hge
        rw [hw] at hgle
        exact absurd hn (Int.not_lt.mpr (Int.le_trans hge hgle))
    · rw [htill, hcached]
      exact hv

/-- Kills keep the invariant: one that is not ahead of the watermark finds the flag as new as
itself. -/
theorem kill (hs : h.Mirrors filter ds s) {busy : Bool} {treatment : String}
    (hmem : .notification busy (.kill n name treatment) ∈ ds) (hkill : h.Kills n name treatment)
    (hv : s.get? name = some v) (hlt : v.changeNumber < n) :
    h.Mirrors filter ds (s.insert (RuleStore.killed v treatment n)) := by
  intro m
  rw [KilledAhead, RuleStore.get?_insert, RuleStore.name_killed, RuleStore.watermark_insert,
    hs.named hv]
  by_cases hm : m = name
  · subst hm
    rw [if_pos rfl]
    refine .inr ?_
    rcases hs m with heq | ⟨-, n', treatment', u, -, -, hn', hu, hk⟩
    · have hcached : h.cachedAt filter s.watermark m = some v := heq.symm.trans hv
      refine ⟨busy, n, treatment, v, hmem, hkill, ?_, hcached, rfl⟩
      refine Int.not_le.mp fun hle => ?_
      obtain ⟨g, hgm, hgn, hcn, -, -⟩ := hkill
      obtain ⟨hl, -⟩ := Option.filter_eq_some_iff.mp hcached
      have hge := (latest_eq_some_iff.mp hl).2 g hgm hgn (hcn ▸ hle)
      rw [hcn] at hge
      exact absurd hlt (Int.not_lt.mpr hge)
    · rw [hv, Option.some.injEq] at hk
      subst hk
      exact ⟨busy, n, treatment, u, hmem, hkill, Int.lt_trans hn' hlt, hu, rfl⟩
  · rw [if_neg hm]
    exact hs m

end Mirrors

end History

/-! ### Runs -/

/-- Whether the backend may make a delivery to a replica: an answer brings a page of the
history, a version is announced with the change number before it, and a kill is from the
history. A definition that was not computed against the watermark may be any. -/
def Delivery.Faithful (h : History) (r : Replica) : Delivery → Prop
  | .answer c => h.Answers c.flags
  | .notification _ (.flagUpdate u) =>
    ∀ f, u.inlined.toOption = some f →
      (f ∈ h.versions ∧ u.previous = some (h.preceding f.changeNumber)) ∨
        u.previous ≠ some r.stores.flags.watermark
  | .notification _ (.kill n name treatment) => h.Kills n name treatment
  | .notification _ _ => True

/-- Whether the backend may make some deliveries one after another. -/
def Replica.Hears (h : History) (filter : Names) : Replica → List Delivery → Prop
  | _, [] => True
  | r, d :: ds => d.Faithful h r ∧ Hears h filter (d.apply filter r) ds

namespace History

variable {h : History} {filter : Names} {r : Replica}

/-- The page that takes effect is one of the history. -/
theorem answers_of_accepted? {d : Delivery} (hd : d.Faithful h r) {p : RulePage Flag}
    (hp : d.accepted? filter r = some p) : h.Answers p := by
  cases d with
  | answer c =>
    rw [Delivery.of_accepted?_answer hp]
    exact hd
  | notification busy n =>
    cases n with
    | flagUpdate u =>
      obtain ⟨f, hf, rfl, hlt, hprev⟩ := Delivery.of_accepted?_flagUpdate hp
      rcases hd f hf with ⟨hmem, hpre⟩ | hne
      · rw [hprev, Option.some.injEq] at hpre
        rw [hpre] at hlt ⊢
        exact answers_single hmem hlt
      · exact absurd hprev hne
    | _ => cases hp

theorem mirrors_apply {ds : List Delivery} {d : Delivery} (hmem : d ∈ ds) (hd : d.Faithful h r)
    (hr : h.Mirrors filter ds r.stores.flags) :
    h.Mirrors filter ds (d.apply filter r).stores.flags := by
  have he := Delivery.flagEffect filter r d
  revert he
  generalize (d.apply filter r).stores.flags = t
  intro he
  cases he with
  | same _ => exact hr
  | page hp hs ht => exact hr.advance (answers_of_accepted? hd hp) hs ht
  | kill hv hlt => exact hr.kill hmem hd hv hlt

theorem mirrors_receive {all : List Delivery} : ∀ (ds : List Delivery) {r : Replica},
    (∀ d ∈ ds, d ∈ all) → r.Hears h filter ds → h.Mirrors filter all r.stores.flags →
    h.Mirrors filter all (r.receive filter ds).stores.flags
  | [], _, _, _, hr => hr
  | d :: ds, _, hall, hds, hr =>
    mirrors_receive ds (fun e he => hall e (List.mem_cons_of_mem _ he)) hds.2
      (mirrors_apply (hall d List.mem_cons_self) hds.1 hr)

end History

/-- **The store of flags refines the history of the backend.** Whatever the order of the
deliveries, each flag is stored as the latest version at or before the watermark if that
version is in use and in the filter, and not at all otherwise, unless a kill is ahead of the
watermark. Once the watermark is at or past every kill the store is the history. -/
theorem Replica.flags_refine_history {h : History} {filter : Names} {ds : List Delivery}
    (hds : Replica.initial.Hears h filter ds) :
    let s := (Replica.initial.receive filter ds).stores.flags
    (∀ name, s.get? name = h.cachedAt filter s.watermark name ∨ h.KilledAhead filter ds s name) ∧
    ((∀ busy n name treatment, .notification busy (.kill n name treatment) ∈ ds →
        n ≤ s.watermark) →
      ∀ name, s.get? name = h.cachedAt filter s.watermark name) := by
  intro s
  have hs : h.Mirrors filter ds s := History.mirrors_receive ds (fun d hd => hd) hds .empty
  refine ⟨hs, fun hkills name => ?_⟩
  rcases hs name with heq | ⟨busy, n, treatment, -, hmem, -, hn, -, -⟩
  · exact heq
  · exact absurd hn (Int.not_lt.mpr (hkills busy n name treatment hmem))

/-- A flag that is defined at 10 and killed at 20. -/
def History.killedLater : History where
  versions := [.asking "a" [] 10, RuleStore.killed (.asking "a" [] 10) "off" 20]
  ascending := by simp [Flag.asking]
  nonneg := by simp [Flag.asking]

/-- The flag is fetched, killed, and fetched again. -/
def fetchKillFetch : List Delivery :=
  [.answer (.ofFlags unsynced 10 [.asking "a" [] 10]),
    .notification false (.kill 20 "a" "off"),
    .answer (.ofFlags 10 20 [RuleStore.killed (.asking "a" [] 10) "off" 20])]

theorem hears_fetchKillFetch :
    Replica.initial.Hears History.killedLater Names.empty fetchKillFetch := by
  have hmem : Flag.asking "a" [] 10 ∈ History.killedLater.versions := List.mem_cons_self
  have hmem' : RuleStore.killed (Flag.asking "a" [] 10) "off" 20 ∈ History.killedLater.versions :=
    List.mem_cons_of_mem _ List.mem_cons_self
  refine ⟨History.answers_single hmem (by decide), ⟨_, hmem', rfl, rfl, rfl, rfl⟩,
    History.answers_single hmem' (by decide), trivial⟩

/-- At the watermark 20 the flag is stored as it was killed at 20. -/
theorem refines_after_fetchKillFetch :
    let s := (Replica.initial.receive Names.empty fetchKillFetch).stores.flags
    s.watermark = 20 ∧ s.get? "a" = History.killedLater.cachedAt Names.empty 20 "a" := by
  refine ⟨rfl, (Replica.flags_refine_history hears_fetchKillFetch).2 ?_ "a"⟩
  intro busy n name treatment hmem
  simp only [fetchKillFetch, List.mem_cons, reduceCtorEq, List.not_mem_nil, or_false, false_or,
    Delivery.notification.injEq, Notification.kill.injEq] at hmem
  obtain ⟨-, rfl, -, -⟩ := hmem
  exact Int.le_refl _

end Halyard

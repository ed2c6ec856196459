/-
# What deliveries do to the flags

A replica hears of changes in two ways: an answer to a fetch brings pages, and
a notification is pushed. Either is a delivery. Whatever a delivery brings, the
store of flags ends up in one of three ways: as it was, advanced by a page that
begins at its watermark, or with one older flag replaced by its killed form
(`Delivery.flagEffect`).

Key definitions: `Delivery`, `Delivery.apply`, `Delivery.accepted?`,
`Delivery.FlagEffect`, `Replica.Dispatched`, `Replica.receive`.
Key theorems: `Replica.dispatched`, `Delivery.flagEffect`,
`Delivery.of_accepted?_answer`, `Delivery.of_accepted?_flagUpdate`.
-/
import Halyard.Proofs.Store.Pages

namespace Halyard

open Push

/-- What a replica hears: the answer to a fetch of rules, or a notification, which may
come while a fetch is under way. -/
inductive Delivery where
  | answer (c : RuleChanges)
  | notification (busy : Bool) (n : Notification)

namespace Delivery

variable {filter : Names} {r : Replica}

/-- The replica after a delivery. -/
def apply (filter : Names) (r : Replica) : Delivery → Replica
  | .answer c => { r with stores := (r.stores.applyChanges filter c).1 }
  | .notification busy n => (r.dispatch filter busy n).1

/-- The page of flags that takes effect, if the replica accepts one: that of an answer,
or the one that holds an inline definition. -/
def accepted? (filter : Names) (r : Replica) : Delivery → Option (RulePage Flag)
  | .answer c =>
    match (r.stores.applyChanges filter c).2 with
    | .ok _ => some c.flags
    | .error _ => none
  | .notification busy (.flagUpdate u) =>
    match u.inlined.toOption with
    | none => none
    | some f =>
      match r.stores.applyPushedFlag filter busy f u.previous with
      | .ok (_, .applied _) => some (RulePage.single r.stores.flags.watermark f)
      | _ => none
  | _ => none

/-- What a delivery may make of the store of flags. -/
inductive FlagEffect (filter : Names) (r : Replica) : Delivery → RuleStore Flag → Prop
  | same {d : Delivery} : d.accepted? filter r = none → FlagEffect filter r d r.stores.flags
  | page {d : Delivery} {p : RulePage Flag} :
      d.accepted? filter r = some p → p.since = r.stores.flags.watermark → p.since ≤ p.till →
      FlagEffect filter r d
        (r.stores.flags.advance (Delta.ofPage p (Flag.matchesSets filter)))
  | kill {busy : Bool} {n : ChangeNumber} {name treatment : String} {f : Flag} :
      r.stores.flags.get? name = some f → f.changeNumber < n →
      FlagEffect filter r (.notification busy (.kill n name treatment))
        (r.stores.flags.insert (RuleStore.killed f treatment n))

end Delivery

/-! ### What a notification does -/

namespace Replica

variable {filter : Names} {busy : Bool} {r : Replica}

/-- What may become of a replica that takes in a notification. -/
inductive Dispatched (filter : Names) (busy : Bool) (r : Replica) : Notification → Replica → Prop
  | same {n : Notification} {r' : Replica} :
      (Delivery.notification busy n).accepted? filter r = none → r'.stores = r.stores →
      (∀ name, r.registry.contains name = true → r'.registry.contains name = true) →
      Dispatched filter busy r n r'
  | flag {u : RuleUpdate Flag} {f : Flag} {s : Stores} {names : Names} :
      u.inlined.toOption = some f →
      r.stores.applyPushedFlag filter busy f u.previous = .ok (s, .applied names) →
      Dispatched filter busy r (.flagUpdate u) ({ r with stores := s }.track names).1
  | ruleSegment {u : RuleUpdate RuleBasedSegment} {g : RuleBasedSegment} {s : Stores}
      {names : Names} : u.inlined.toOption = some g →
      r.stores.applyPushedSegment busy g u.previous = .ok (s, .applied names) →
      Dispatched filter busy r (.segmentRuleUpdate u) ({ r with stores := s }.track names).1
  | kill {n : ChangeNumber} {name treatment : String} {f : Flag} :
      r.stores.flags.get? name = some f → f.changeNumber < n →
      Dispatched filter busy r (.kill n name treatment)
        { r with stores :=
            { r.stores with flags := r.stores.flags.insert (RuleStore.killed f treatment n) } }

theorem dispatched_flagUpdate (u : RuleUpdate Flag) :
    Dispatched filter busy r (.flagUpdate u) (r.dispatch filter busy (.flagUpdate u)).1 := by
  simp only [dispatch]
  cases hi : u.inlined.toOption with
  | none => exact .same (by simp only [Delivery.accepted?, hi]) rfl fun _ h => h
  | some f =>
    cases hp : r.stores.applyPushedFlag filter busy f u.previous with
    | error e =>
      simp only [hp]
      exact .same (by simp only [Delivery.accepted?, hi, hp]) rfl fun _ h => h
    | ok x =>
      obtain ⟨s, o⟩ := x
      simp only [hp]
      cases o with
      | applied names => exact .flag hi hp
      | _ =>
        rcases Stores.applyPushedFlag_cases hp with ⟨rfl, -⟩ | ⟨-, -, -, -, ho⟩
        · exact .same (by simp only [Delivery.accepted?, hi, hp]) rfl fun _ h => h
        · cases ho

theorem dispatched_segmentRuleUpdate (u : RuleUpdate RuleBasedSegment) :
    Dispatched filter busy r (.segmentRuleUpdate u)
      (r.dispatch filter busy (.segmentRuleUpdate u)).1 := by
  simp only [dispatch]
  cases hi : u.inlined.toOption with
  | none => exact .same rfl rfl fun _ h => h
  | some g =>
    cases hp : r.stores.applyPushedSegment busy g u.previous with
    | error e =>
      simp only [hp]
      exact .same rfl rfl fun _ h => h
    | ok x =>
      obtain ⟨s, o⟩ := x
      simp only [hp]
      cases o with
      | applied names => exact .ruleSegment hi hp
      | _ =>
        rcases Stores.applyPushedSegment_cases hp with ⟨rfl, -⟩ | ⟨-, -, ho⟩
        · exact .same rfl rfl fun _ h => h
        · cases ho

theorem dispatched_kill (n : ChangeNumber) (name treatment : String) :
    Dispatched filter busy r (.kill n name treatment)
      (r.dispatch filter busy (.kill n name treatment)).1 := by
  simp only [dispatch]
  cases hk : r.stores.flags.kill name treatment n with
  | error e => exact .same rfl rfl fun _ h => h
  | ok x =>
    obtain ⟨flags, b⟩ := x
    rcases RuleStore.kill_cases hk with ⟨rfl, -⟩ | ⟨f, hf, hlt, rfl, -⟩
    · exact .same rfl rfl fun _ h => h
    · exact .kill hf hlt

/-- **A notification applies one definition and registers what it refers to, kills a flag,
or leaves the stores as they are.** -/
theorem dispatched (filter : Names) (busy : Bool) (r : Replica) (n : Notification) :
    Dispatched filter busy r n (r.dispatch filter busy n).1 := by
  cases n with
  | flagUpdate u => exact dispatched_flagUpdate u
  | segmentRuleUpdate u => exact dispatched_segmentRuleUpdate u
  | kill n name treatment => exact dispatched_kill n name treatment
  | segmentUpdate n name =>
    simp only [dispatch]
    split
    · exact .same rfl rfl fun _ h => h
    · exact .same rfl rfl fun m h => (Registry.contains_register _).mpr (.inl h)
  | _ => exact .same rfl rfl fun _ h => h

end Replica

/-! ### What a delivery does to the flags -/

namespace Delivery

variable {filter : Names} {r : Replica}

theorem flagEffect_answer (c : RuleChanges) :
    FlagEffect filter r (.answer c) ((Delivery.answer c).apply filter r).stores.flags := by
  have ha : ∀ x, r.stores.applyChanges filter c = x →
      ((Delivery.answer c).apply filter r).stores.flags = x.1.flags := by
    rintro _ rfl
    rfl
  rcases Stores.applyChanges_cases filter r.stores c with
    ⟨e, -, h⟩ | ⟨s₁, names, e, h₁, -, h⟩ | ⟨s₁, names, s₂, names', h₁, h₂, h⟩
  · rw [ha _ h]
    exact .same (by simp only [accepted?, h])
  · obtain ⟨-, -, -, rfl, -⟩ := Stores.applyRuleSegments_eq_ok_iff.mp h₁
    rw [ha _ h]
    exact .same (by simp only [accepted?, h])
  · obtain ⟨-, -, -, rfl, -⟩ := Stores.applyRuleSegments_eq_ok_iff.mp h₁
    obtain ⟨-, hs, ht, rfl, -⟩ := Stores.applyFlags_eq_ok_iff.mp h₂
    rw [ha _ h]
    exact .page (by simp only [accepted?, h]) hs ht

/-- **A delivery leaves the flags as they are, advances them by a page that begins at
their watermark, or kills one of them.** -/
theorem flagEffect (filter : Names) (r : Replica) (d : Delivery) :
    FlagEffect filter r d (d.apply filter r).stores.flags := by
  cases d with
  | answer c => exact flagEffect_answer c
  | notification busy n =>
    have hd := r.dispatched filter busy n
    show FlagEffect filter r (.notification busy n) (r.dispatch filter busy n).1.stores.flags
    revert hd
    generalize (r.dispatch filter busy n).1 = r'
    intro hd
    cases hd with
    | same hn hs _ =>
      rw [hs]
      exact .same hn
    | @flag u f s names hi hp =>
      rcases Stores.applyPushedFlag_cases hp with ⟨-, ho⟩ | ⟨hw, -, -, rfl, -⟩
      · exact absurd rfl (ho names)
      · have hacc : (Delivery.notification busy (.flagUpdate u)).accepted? filter r =
            some (RulePage.single r.stores.flags.watermark f) := by
          simp only [accepted?, hi, hp]
        exact .page hacc rfl (Int.le_of_lt hw)
    | @ruleSegment u g s names _ hp =>
      rcases Stores.applyPushedSegment_cases hp with ⟨rfl, -⟩ | ⟨-, rfl, -⟩
      · exact .same rfl
      · exact .same rfl
    | kill hf hlt => exact .kill hf hlt

/-! ### The page that takes effect -/

theorem of_accepted?_answer {c : RuleChanges} {p : RulePage Flag}
    (h : (Delivery.answer c).accepted? filter r = some p) : p = c.flags := by
  simp only [accepted?] at h
  split at h
  · exact (Option.some.inj h).symm
  · cases h

/-- An inline definition takes effect only if it was computed against the watermark. -/
theorem of_accepted?_flagUpdate {busy : Bool} {u : RuleUpdate Flag} {p : RulePage Flag}
    (h : (Delivery.notification busy (.flagUpdate u)).accepted? filter r = some p) :
    ∃ f, u.inlined.toOption = some f ∧ p = RulePage.single r.stores.flags.watermark f ∧
      r.stores.flags.watermark < f.changeNumber ∧
      u.previous = some r.stores.flags.watermark := by
  simp only [accepted?] at h
  cases hi : u.inlined.toOption with
  | none => simp [hi] at h
  | some f =>
    simp only [hi] at h
    cases hp : r.stores.applyPushedFlag filter busy f u.previous with
    | error e => simp [hp] at h
    | ok x =>
      obtain ⟨s, o⟩ := x
      simp only [hp] at h
      rcases Stores.applyPushedFlag_cases hp with ⟨-, ho⟩ | ⟨hw, -, hprev, -, rfl⟩
      · cases o with
        | applied names => exact absurd rfl (ho names)
        | stale => cases h
        | needsFetch => cases h
      · exact ⟨f, rfl, (Option.some.inj h).symm, hw, hprev⟩

/-! ### The definition that is stored -/

/-- The definition of a flag that a delivery stores, if it stores one. -/
def stored? (filter : Names) (r : Replica) (d : Delivery) (name : String) : Option Flag :=
  (d.accepted? filter r).bind fun p =>
    Rule.lastNamed name (Delta.ofPage p (Flag.matchesSets filter)).additions

theorem get?_of_stored? {d : Delivery} {name : String} {g : Flag}
    (h : d.stored? filter r name = some g) :
    (d.apply filter r).stores.flags.get? name = some g := by
  have he := flagEffect filter r d
  unfold stored? at h
  revert he
  generalize (d.apply filter r).stores.flags = t
  intro he
  cases he with
  | same hn => simp [hn] at h
  | page hp _ _ =>
    rw [hp, Option.bind_some] at h
    rw [RuleStore.get?_advance, h, Option.some_or]
  | kill _ _ => simp [accepted?] at h

theorem mem_of_stored? {d : Delivery} {p : RulePage Flag} {name : String} {g : Flag}
    (hp : d.accepted? filter r = some p) (h : d.stored? filter r name = some g) : g ∈ p.data := by
  rw [stored?, hp, Option.bind_some] at h
  exact (List.mem_filter.mp (Rule.mem_of_lastNamed h).1).1

/-- A delivery stores a definition of a flag, leaves it or removes it, or kills it. -/
theorem get?_apply_cases (filter : Names)
    (hr : ∀ {n f}, r.stores.flags.get? n = some f → f.name = n) (d : Delivery) (name : String) :
    (∃ p g, d.accepted? filter r = some p ∧ p.since = r.stores.flags.watermark ∧
      d.stored? filter r name = some g ∧ (d.apply filter r).stores.flags.get? name = some g) ∨
    (d.stored? filter r name = none ∧
      ((d.apply filter r).stores.flags.get? name = none ∨
        (d.apply filter r).stores.flags.get? name = r.stores.flags.get? name)) ∨
    ∃ f busy n treatment, d = .notification busy (.kill n name treatment) ∧
      r.stores.flags.get? name = some f ∧ f.changeNumber < n ∧
      (d.apply filter r).stores.flags.get? name = some (RuleStore.killed f treatment n) := by
  have he := flagEffect filter r d
  revert he
  generalize (d.apply filter r).stores.flags = t
  intro he
  cases he with
  | same hn => exact .inr (.inl ⟨by rw [stored?, hn, Option.bind_none], .inr rfl⟩)
  | @page _ p hp hs _ =>
    have hst : d.stored? filter r name =
        Rule.lastNamed name (Delta.ofPage p (Flag.matchesSets filter)).additions := by
      rw [stored?, hp, Option.bind_some]
    rw [RuleStore.get?_advance, ← hst]
    cases hg : d.stored? filter r name with
    | some g => exact .inl ⟨p, g, hp, hs, rfl, rfl⟩
    | none =>
      rw [Option.none_or]
      split
      · exact .inr (.inl ⟨rfl, .inl rfl⟩)
      · exact .inr (.inl ⟨rfl, .inr rfl⟩)
  | @kill busy n killedName treatment f hf hn =>
    rw [RuleStore.get?_insert, RuleStore.name_killed, hr hf]
    by_cases h : name = killedName
    · subst h
      rw [if_pos rfl]
      exact .inr (.inr ⟨f, busy, n, treatment, rfl, hf, hn, rfl⟩)
    · rw [if_neg h]
      exact .inr (.inl ⟨rfl, .inr rfl⟩)

end Delivery

/-- The replica after some deliveries. -/
def Replica.receive (filter : Names) (r : Replica) (ds : List Delivery) : Replica :=
  ds.foldl (fun r d => d.apply filter r) r

/-- A flag that asks of a key whether it belongs to some segments. -/
def Flag.asking (name : String) (segments : List String) (n : ChangeNumber) : Flag where
  name := name
  trafficType := none
  changeNumber := n
  status := .active
  killed := false
  defaultTreatment := "off"
  trafficAllocation := none
  trafficAllocationSeed := none
  seed := none
  algo := none
  conditions := segments.map fun s =>
    ⟨none, ⟨none, [⟨inSegmentKind, false, some s, Dict.empty⟩]⟩, [], none⟩
  configurations := none
  sets := none
  prerequisites := none
  impressionsDisabled := false

/-- The answer to a fetch that brings flags only. -/
def RuleChanges.ofFlags (since till : ChangeNumber) (fs : List Flag) : RuleChanges :=
  ⟨⟨since, till, fs⟩, ⟨unsynced, unsynced, []⟩⟩

end Halyard

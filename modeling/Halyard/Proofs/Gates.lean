/-
# Gates that are opened by several at once

Opening a gate takes two steps. Under the lock the gate is opened and what is ready
now is noted; after the lock was given back, the note is published for those who wait
without blocking. Those who block look at the state itself. Here any number of calls
take their steps in any order, and the question is when the two views agree once all
calls have returned.

Each gate is opened by one call, and nothing is published that is not so
(`Gates.Sound`). But two notes can be published in the other order than they were
taken, and then the older one stays. Unless that happens, what is published is the
state, or somebody is about to publish the state (`Gates.Fresh`); once it has
happened, nobody is left who would repair it (`Gates.Stuck`). So the views agree
exactly if no publication took something back (`Gates.views_agree_iff`).

Key definitions: `Call`, `Gates`, `Gates.step`, `Gates.run`, `Gates.overwritten`.
Key theorems: `Gates.step_cases`, `Gates.Sound.step`, `Gates.Fresh.step`,
`Gates.Sound.stuck`, `Gates.views_agree_iff`, `Gates.late_note_hides_readiness`.
-/
import Halyard.Readiness
import Mathlib.Logic.ExistsUnique

namespace Halyard

theorem Resource.eq_of_ne {q r s : Resource} (hq : q ≠ r) (hs : s ≠ r) : s = q := by
  cases q <;> cases r <;> cases s <;> first | rfl | contradiction

namespace Readiness

variable {a b : Readiness}

/-- Whether all that is ready in `a` is ready in `b`. -/
def Within (a b : Readiness) : Prop :=
  (a.flags = true → b.flags = true) ∧ (a.segments = true → b.segments = true)

instance : Decidable (Within a b) := inferInstanceAs (Decidable (_ ∧ _))

theorem within_iff : a.Within b ↔ ∀ r, a.ready r = true → b.ready r = true := by
  constructor
  · rintro ⟨hflags, hsegments⟩ r
    cases r with
    | flags => exact hflags
    | segments => exact hsegments
  · intro h
    exact ⟨h .flags, h .segments⟩

theorem ext_ready (h : ∀ r, a.ready r = b.ready r) : a = b := by
  obtain ⟨aflags, asegments⟩ := a
  obtain ⟨bflags, bsegments⟩ := b
  have hflags : aflags = bflags := h .flags
  have hsegments : asegments = bsegments := h .segments
  rw [hflags, hsegments]

theorem Within.antisymm (hab : a.Within b) (hba : b.Within a) : a = b := by
  refine ext_ready fun r => ?_
  rw [Bool.eq_iff_iff]
  exact ⟨within_iff.mp hab r, within_iff.mp hba r⟩

theorem Within.refl : a.Within a := ⟨id, id⟩

theorem Within.trans {c : Readiness} (hab : a.Within b) (hbc : b.Within c) : a.Within c :=
  ⟨hbc.1 ∘ hab.1, hbc.2 ∘ hab.2⟩

theorem allReady_iff : a.allReady = true ↔ ∀ r, a.ready r = true := by
  unfold allReady
  rw [Bool.and_eq_true]
  constructor
  · rintro ⟨hflags, hsegments⟩ r
    cases r with
    | flags => exact hflags
    | segments => exact hsegments
  · intro h
    exact ⟨h .flags, h .segments⟩

theorem mark_snd {r : Resource} : (a.mark r).2 = !a.ready r := by
  unfold mark
  cases r <;> split <;> simp_all

theorem ready_mark {r s : Resource} :
    (a.mark r).1.ready s = true ↔ s = r ∨ a.ready s = true := by
  unfold mark
  split
  · rename_i h
    constructor
    · exact .inr
    · rintro (rfl | hs)
      · exact h
      · exact hs
  · cases r <;> cases s <;> simp [ready]

theorem within_mark {r : Resource} : a.Within (a.mark r).1 :=
  within_iff.mpr fun _ h => ready_mark.mpr (.inr h)

end Readiness

/-! ### Calls and their steps -/

/-- How far a call is: it waits for the lock, it has given the lock back and is about to publish
what it noted, or it has returned and told whether it opened the gate. -/
inductive Stage where
  | waiting
  | publishing (note : Readiness)
  | returned (opened : Bool)
deriving DecidableEq

/-- A call that marks a resource as ready. -/
structure Call where
  resource : Resource
  stage : Stage
deriving DecidableEq

/-- Whether a call opened its gate. -/
def Call.opens (c : Call) : Bool :=
  match c.stage with
  | .publishing _ | .returned true => true
  | _ => false

/-- Whether a call has returned. -/
def Call.over (c : Call) : Bool :=
  match c.stage with
  | .returned _ => true
  | _ => false

theorem Call.ne_waiting_of_opens {c : Call} {r : Resource} (h : c.opens = true) :
    c ≠ ⟨r, .waiting⟩ := by
  rintro rfl
  cases h

/-- The state behind the lock, what was published last, and the calls. -/
structure Gates where
  state : Readiness
  published : Readiness
  calls : List Call

namespace Gates

/-- Closed gates, and a call for each of the given resources. -/
def start (rs : List Resource) : Gates := ⟨.closed, .closed, rs.map fun r => ⟨r, .waiting⟩⟩

/-- The next step of a call. -/
def step (g : Gates) (i : Nat) : Gates :=
  match g.calls[i]? with
  | some ⟨r, .waiting⟩ =>
    if (g.state.mark r).2 then
      { g with
        state := (g.state.mark r).1
        calls := g.calls.set i ⟨r, .publishing (g.state.mark r).1⟩ }
    else { g with calls := g.calls.set i ⟨r, .returned false⟩ }
  | some ⟨r, .publishing note⟩ =>
    { g with published := note, calls := g.calls.set i ⟨r, .returned true⟩ }
  | _ => g

/-- The gates after the calls took steps in the given order. -/
def run (g : Gates) (order : List Nat) : Gates :=
  order.foldl step g

/-- Whether every call has returned. -/
def Over (g : Gates) : Prop := ∀ c ∈ g.calls, c.over = true

instance {g : Gates} : Decidable g.Over := inferInstanceAs (Decidable (∀ c ∈ g.calls, _))

/-- What those who block go by. -/
def blockingReady (g : Gates) : Bool := g.state.allReady

/-- What those who wait without blocking go by. -/
def asyncReady (g : Gates) : Bool := g.published.allReady

/-- Whether the next step of a call publishes a note that lacks something that was published. -/
def overwrites (g : Gates) (i : Nat) : Bool :=
  match g.calls[i]? with
  | some ⟨_, .publishing note⟩ => !decide (g.published.Within note)
  | _ => false

/-- Whether that happens in some order of steps. -/
def overwritten : Gates → List Nat → Bool
  | _, [] => false
  | g, i :: is => g.overwrites i || overwritten (g.step i) is

variable {g : Gates} {i j : Nat} {r s : Resource} {c d : Call} {note : Readiness}

theorem getElem?_set_of_some (h : g.calls[i]? = some c) :
    (g.calls.set i d)[j]? = if j = i then some d else g.calls[j]? := by
  have hlt : i < g.calls.length := (List.getElem?_eq_some_iff.mp h).1
  rw [List.getElem?_set]
  by_cases hij : i = j
  · rw [if_pos hij, if_pos hlt, if_pos hij.symm]
  · rw [if_neg hij, if_neg (Ne.symm hij)]

theorem getElem?_set_self (h : g.calls[i]? = some c) : (g.calls.set i d)[i]? = some d :=
  (getElem?_set_of_some h).trans (if_pos rfl)

theorem getElem?_set_ne (h : g.calls[i]? = some c) (hij : j ≠ i) :
    (g.calls.set i d)[j]? = g.calls[j]? :=
  (getElem?_set_of_some h).trans (if_neg hij)

theorem getElem?_set_of_ne {e : Call} (hi : g.calls[i]? = some c) (hj : g.calls[j]? = some e)
    (hne : e ≠ c) : (g.calls.set i d)[j]? = some e := by
  have hij : j ≠ i := by
    rintro rfl
    exact hne (Option.some.inj (hj.symm.trans hi))
  exact (getElem?_set_ne hi hij).trans hj

theorem of_getElem?_set {e : Call} (h : g.calls[i]? = some c)
    (he : (g.calls.set i d)[j]? = some e) : (j = i ∧ e = d) ∨ (j ≠ i ∧ g.calls[j]? = some e) := by
  by_cases hij : j = i
  · subst hij
    rw [getElem?_set_self h] at he
    exact .inl ⟨rfl, (Option.some.inj he).symm⟩
  · rw [getElem?_set_ne h hij] at he
    exact .inr ⟨hij, he⟩

theorem step_found (hi : g.calls[i]? = some ⟨r, .waiting⟩) (hready : g.state.ready r = true) :
    g.step i = { g with calls := g.calls.set i ⟨r, .returned false⟩ } := by
  have hmark : ¬ (g.state.mark r).2 = true := by
    rw [Readiness.mark_snd, hready]
    exact Bool.false_ne_true
  simp only [step, hi, if_neg hmark]

theorem step_opens (hi : g.calls[i]? = some ⟨r, .waiting⟩) (hclosed : g.state.ready r = false) :
    g.step i = { g with
      state := (g.state.mark r).1
      calls := g.calls.set i ⟨r, .publishing (g.state.mark r).1⟩ } := by
  have hmark : (g.state.mark r).2 = true := by
    rw [Readiness.mark_snd, hclosed]
    rfl
  simp only [step, hi, if_pos hmark]

theorem step_publishes (hi : g.calls[i]? = some ⟨r, .publishing note⟩) :
    g.step i = { g with published := note, calls := g.calls.set i ⟨r, .returned true⟩ } := by
  simp only [step, hi]

theorem step_returned {opened : Bool} (hi : g.calls[i]? = some ⟨r, .returned opened⟩) :
    g.step i = g := by
  simp only [step, hi]

/-- What the step of a call does: nothing, it finds the gate open, it opens the gate, or it
publishes what it noted. -/
theorem step_cases (g : Gates) (i : Nat) :
    (g.step i = g ∧ ∀ r note, g.calls[i]? ≠ some ⟨r, .publishing note⟩) ∨
    (∃ r, g.calls[i]? = some ⟨r, .waiting⟩ ∧ g.state.ready r = true ∧
      g.step i = { g with calls := g.calls.set i ⟨r, .returned false⟩ }) ∨
    (∃ r, g.calls[i]? = some ⟨r, .waiting⟩ ∧ g.state.ready r = false ∧
      g.step i = { g with
        state := (g.state.mark r).1
        calls := g.calls.set i ⟨r, .publishing (g.state.mark r).1⟩ }) ∨
    ∃ r note, g.calls[i]? = some ⟨r, .publishing note⟩ ∧
      g.step i = { g with published := note, calls := g.calls.set i ⟨r, .returned true⟩ } := by
  cases hi : g.calls[i]? with
  | none =>
    refine .inl ⟨?_, fun _ _ h => by cases h⟩
    simp only [step, hi]
  | some c =>
    obtain ⟨r, stage⟩ := c
    cases stage with
    | waiting =>
      by_cases hready : g.state.ready r = true
      · exact .inr (.inl ⟨r, rfl, hready, step_found hi hready⟩)
      · have hclosed : g.state.ready r = false := Bool.eq_false_iff.mpr hready
        exact .inr (.inr (.inl ⟨r, rfl, hclosed, step_opens hi hclosed⟩))
    | publishing note => exact .inr (.inr (.inr ⟨r, note, rfl, step_publishes hi⟩))
    | returned opened => exact .inl ⟨step_returned hi, fun _ _ h => by cases h⟩

/-! ### What holds whatever the order -/

/-- What holds at every time: a gate is open if a call opened it, which no second call does; calls
that are past the lock find their gate open; a note tells of its own gate and of nothing that is
not so, and the same goes for what is published; and only what was published by a call that has
returned is there to be seen. -/
structure Sound (g : Gates) : Prop where
  opener_unique : ∀ {i j : Nat} {c d : Call}, g.calls[i]? = some c → g.calls[j]? = some d →
    c.opens = true → d.opens = true → c.resource = d.resource → i = j
  opener_of_ready : ∀ {r : Resource}, g.state.ready r = true →
    ∃ (i : Nat) (c : Call), g.calls[i]? = some c ∧ c.opens = true ∧ c.resource = r
  ready_of_started : ∀ {i : Nat} {c : Call}, g.calls[i]? = some c → c.stage ≠ .waiting →
    g.state.ready c.resource = true
  note_own : ∀ {i : Nat} {r : Resource} {note : Readiness},
    g.calls[i]? = some ⟨r, .publishing note⟩ → note.ready r = true
  note_within : ∀ {i : Nat} {r : Resource} {note : Readiness},
    g.calls[i]? = some ⟨r, .publishing note⟩ → note.Within g.state
  published_within : g.published.Within g.state
  publisher : g.published = .closed ∨
    ∃ (i : Nat) (r : Resource), g.calls[i]? = some ⟨r, .returned true⟩

theorem sound_start (rs : List Resource) : (start rs).Sound := by
  have hwaiting : ∀ {i : Nat} {c : Call}, (start rs).calls[i]? = some c → c.stage = .waiting := by
    intro i c hc
    have hmap : (rs.map fun r => (⟨r, .waiting⟩ : Call))[i]? = some c := hc
    rw [List.getElem?_map, Option.map_eq_some_iff] at hmap
    obtain ⟨r, -, rfl⟩ := hmap
    rfl
  constructor
  · intro i j c d hc _ hopens _ _
    unfold Call.opens at hopens
    rw [hwaiting hc] at hopens
    cases hopens
  · intro r hr
    cases r <;> cases hr
  · intro i c hc hstage
    exact absurd (hwaiting hc) hstage
  · intro i r note hc
    cases hwaiting hc
  · intro i r note hc
    cases hwaiting hc
  · exact Readiness.within_iff.mpr fun _ h => h
  · exact .inl rfl

theorem Sound.started_of_opens (h : g.Sound) (hc : g.calls[i]? = some c) (hopens : c.opens = true) :
    g.state.ready c.resource = true := by
  refine h.ready_of_started hc fun hwaiting => ?_
  unfold Call.opens at hopens
  rw [hwaiting] at hopens
  cases hopens

/-- A gate still has one opener when a call becomes its opener that was, or when it was closed. -/
theorem Sound.opener_unique_set (h : g.Sound) (hi : g.calls[i]? = some c)
    (hresource : d.resource = c.resource)
    (hd : d.opens = true → c.opens = true ∨ g.state.ready c.resource = false) {j k : Nat}
    {a b : Call} (ha : (g.calls.set i d)[j]? = some a) (hb : (g.calls.set i d)[k]? = some b)
    (hao : a.opens = true) (hbo : b.opens = true) (hab : a.resource = b.resource) : j = k := by
  have honly : ∀ {m : Nat} {e : Call}, g.calls[m]? = some e → d.opens = true → e.opens = true →
      e.resource = d.resource → m = i := by
    intro m e he hdo heo hed
    rcases hd hdo with hco | hclosed
    · exact h.opener_unique he hi heo hco (hed.trans hresource)
    · have hready := h.started_of_opens he heo
      rw [hed, hresource, hclosed] at hready
      cases hready
  rcases of_getElem?_set hi ha with ⟨rfl, rfl⟩ | ⟨-, ha'⟩
  · rcases of_getElem?_set hi hb with ⟨rfl, rfl⟩ | ⟨-, hb'⟩
    · rfl
    · exact (honly hb' hao hbo hab.symm).symm
  · rcases of_getElem?_set hi hb with ⟨rfl, rfl⟩ | ⟨-, hb'⟩
    · exact honly ha' hbo hao hab
    · exact h.opener_unique ha' hb' hao hbo hab

theorem Sound.found (h : g.Sound) (hi : g.calls[i]? = some ⟨r, .waiting⟩)
    (hready : g.state.ready r = true) :
    { g with calls := g.calls.set i ⟨r, .returned false⟩ : Gates }.Sound where
  opener_unique := h.opener_unique_set (d := ⟨r, .returned false⟩) hi rfl fun hopens => by
    cases hopens
  opener_of_ready := by
    intro s hs
    obtain ⟨j, c, hc, hopens, hresource⟩ := h.opener_of_ready hs
    exact ⟨j, c, getElem?_set_of_ne hi hc (Call.ne_waiting_of_opens hopens), hopens, hresource⟩
  ready_of_started := by
    intro j c hc hstage
    rcases of_getElem?_set hi hc with ⟨rfl, rfl⟩ | ⟨-, hc'⟩
    · exact hready
    · exact h.ready_of_started hc' hstage
  note_own := by
    intro j s note hc
    rcases of_getElem?_set hi hc with ⟨rfl, he⟩ | ⟨-, hc'⟩
    · cases he
    · exact h.note_own hc'
  note_within := by
    intro j s note hc
    rcases of_getElem?_set hi hc with ⟨rfl, he⟩ | ⟨-, hc'⟩
    · cases he
    · exact h.note_within hc'
  published_within := h.published_within
  publisher := h.publisher.imp_right fun ⟨j, s, hj⟩ => ⟨j, s, getElem?_set_of_ne hi hj (by simp)⟩

theorem Sound.opened (h : g.Sound) (hi : g.calls[i]? = some ⟨r, .waiting⟩)
    (hclosed : g.state.ready r = false) :
    { g with
      state := (g.state.mark r).1
      calls := g.calls.set i ⟨r, .publishing (g.state.mark r).1⟩ : Gates }.Sound where
  opener_unique :=
    h.opener_unique_set (d := ⟨r, .publishing (g.state.mark r).1⟩) hi rfl fun _ => .inr hclosed
  opener_of_ready := by
    intro s hs
    rcases Readiness.ready_mark.mp hs with rfl | hs'
    · exact ⟨i, _, getElem?_set_self hi, rfl, rfl⟩
    · obtain ⟨j, c, hc, hopens, hresource⟩ := h.opener_of_ready hs'
      exact ⟨j, c, getElem?_set_of_ne hi hc (Call.ne_waiting_of_opens hopens), hopens, hresource⟩
  ready_of_started := by
    intro j c hc hstage
    rcases of_getElem?_set hi hc with ⟨rfl, rfl⟩ | ⟨-, hc'⟩
    · exact Readiness.ready_mark.mpr (.inl rfl)
    · exact Readiness.ready_mark.mpr (.inr (h.ready_of_started hc' hstage))
  note_own := by
    intro j s note hc
    rcases of_getElem?_set hi hc with ⟨rfl, he⟩ | ⟨-, hc'⟩
    · cases he
      exact Readiness.ready_mark.mpr (.inl rfl)
    · exact h.note_own hc'
  note_within := by
    intro j s note hc
    rcases of_getElem?_set hi hc with ⟨rfl, he⟩ | ⟨-, hc'⟩
    · cases he
      exact .refl
    · exact (h.note_within hc').trans Readiness.within_mark
  published_within := h.published_within.trans Readiness.within_mark
  publisher := h.publisher.imp_right fun ⟨j, s, hj⟩ => ⟨j, s, getElem?_set_of_ne hi hj (by simp)⟩

theorem Sound.publishes (h : g.Sound) (hi : g.calls[i]? = some ⟨r, .publishing note⟩) :
    { g with published := note, calls := g.calls.set i ⟨r, .returned true⟩ : Gates }.Sound where
  opener_unique := h.opener_unique_set (d := ⟨r, .returned true⟩) hi rfl fun _ => .inl rfl
  opener_of_ready := by
    intro s hs
    obtain ⟨j, c, hc, hopens, hresource⟩ := h.opener_of_ready hs
    by_cases hij : j = i
    · subst hij
      cases hc.symm.trans hi
      exact ⟨j, _, getElem?_set_self hi, rfl, hresource⟩
    · exact ⟨j, c, (getElem?_set_ne hi hij).trans hc, hopens, hresource⟩
  ready_of_started := by
    intro j c hc hstage
    rcases of_getElem?_set hi hc with ⟨rfl, rfl⟩ | ⟨-, hc'⟩
    · have hready : g.state.ready r = true :=
        h.ready_of_started hi fun hwaiting => by cases hwaiting
      exact hready
    · exact h.ready_of_started hc' hstage
  note_own := by
    intro j s note hc
    rcases of_getElem?_set hi hc with ⟨rfl, he⟩ | ⟨-, hc'⟩
    · cases he
    · exact h.note_own hc'
  note_within := by
    intro j s note hc
    rcases of_getElem?_set hi hc with ⟨rfl, he⟩ | ⟨-, hc'⟩
    · cases he
    · exact h.note_within hc'
  published_within := h.note_within hi
  publisher := .inr ⟨i, r, getElem?_set_self hi⟩

theorem Sound.step (h : g.Sound) (i : Nat) : (g.step i).Sound := by
  rcases g.step_cases i with
    ⟨hs, -⟩ | ⟨r, hi, hready, hs⟩ | ⟨r, hi, hclosed, hs⟩ | ⟨r, note, hi, hs⟩
  · rw [hs]
    exact h
  · rw [hs]
    exact h.found hi hready
  · rw [hs]
    exact h.opened hi hclosed
  · rw [hs]
    exact h.publishes hi

theorem Sound.run (h : g.Sound) (order : List Nat) : (g.run order).Sound :=
  List.foldlRecOn (motive := Sound) order _ h fun _ hg i _ => hg.step i

/-! ### Whether the latest note is seen -/

/-- Whether what is published is the state, or somebody is about to publish the state. -/
def Fresh (g : Gates) : Prop :=
  g.published = g.state ∨ ∃ (i : Nat) (r : Resource), g.calls[i]? = some ⟨r, .publishing g.state⟩

/-- Whether everything is ready, what is published does not say so, and nobody is about to publish
anything. -/
def Stuck (g : Gates) : Prop :=
  g.state.allReady = true ∧ g.published ≠ g.state ∧
    ∀ (i : Nat) (r : Resource) (note : Readiness), g.calls[i]? ≠ some ⟨r, .publishing note⟩

theorem overwrites_iff : g.overwrites i = true ↔
    ∃ r note, g.calls[i]? = some ⟨r, .publishing note⟩ ∧ ¬ g.published.Within note := by
  unfold overwrites
  cases hi : g.calls[i]? with
  | none => simp
  | some c =>
    obtain ⟨r, stage⟩ := c
    cases stage with
    | publishing note =>
      simp only [Bool.not_eq_true', decide_eq_false_iff_not]
      constructor
      · intro hlacks
        exact ⟨r, note, rfl, hlacks⟩
      · rintro ⟨s, m, heq, hlacks⟩
        cases heq
        exact hlacks
    | _ => simp

/-- **A step that takes nothing back keeps the latest note in sight.** -/
theorem Fresh.step (h : g.Fresh) (hsound : g.Sound) (hkeeps : g.overwrites i = false) :
    (g.step i).Fresh := by
  rcases g.step_cases i with
    ⟨hs, -⟩ | ⟨r, hi, hready, hs⟩ | ⟨r, hi, hclosed, hs⟩ | ⟨r, note, hi, hs⟩
  · rw [hs]
    exact h
  · rw [hs]
    exact h.imp_right fun ⟨j, s, hj⟩ => ⟨j, s, getElem?_set_of_ne hi hj (by simp)⟩
  · rw [hs]
    exact .inr ⟨i, r, getElem?_set_self hi⟩
  · rw [hs]
    have hnote : g.published.Within note := Decidable.byContradiction fun hlacks => by
      have hover := overwrites_iff.mpr ⟨r, note, hi, hlacks⟩
      rw [hkeeps] at hover
      cases hover
    rcases h with hsame | ⟨j, s, hj⟩
    · rw [hsame] at hnote
      exact .inl ((hsound.note_within hi).antisymm hnote)
    · by_cases hij : j = i
      · subst hij
        cases hj.symm.trans hi
        exact .inl rfl
      · exact .inr ⟨j, s, (getElem?_set_ne hi hij).trans hj⟩

/-- **A note that takes something back is the last one.** Each gate had its opener, and both have
published. -/
theorem Sound.stuck (h : g.Sound) (hover : g.overwrites i = true) : (g.step i).Stuck := by
  obtain ⟨r, note, hi, hlacks⟩ := overwrites_iff.mp hover
  rw [Readiness.within_iff, Classical.not_forall] at hlacks
  obtain ⟨s, hs⟩ := hlacks
  obtain ⟨hseen, hmissing⟩ := Classical.not_imp.mp hs
  have hsr : s ≠ r := by
    rintro rfl
    exact hmissing (h.note_own hi)
  have hr : g.state.ready r = true := h.ready_of_started hi fun hwaiting => by cases hwaiting
  have hs : g.state.ready s = true := Readiness.within_iff.mp h.published_within s hseen
  -- whatever was seen of `s`, the opener of `r` has not published it
  obtain ⟨j, hj⟩ : ∃ j : Nat, g.calls[j]? = some ⟨s, .returned true⟩ := by
    rcases h.publisher with hclosed | ⟨j, q, hj⟩
    · rw [hclosed] at hseen
      cases s <;> cases hseen
    · have hqr : q ≠ r := by
        rintro rfl
        obtain rfl := h.opener_unique hj hi rfl rfl rfl
        cases hj.symm.trans hi
      exact ⟨j, Resource.eq_of_ne hqr hsr ▸ hj⟩
  rw [step_publishes hi]
  refine ⟨Readiness.allReady_iff.mpr fun q => ?_, fun hsame => ?_, fun k q m hk => ?_⟩
  · by_cases hqr : q = r
    · exact hqr ▸ hr
    · exact Resource.eq_of_ne hqr hsr ▸ hs
  · have hnote : note.ready s = g.state.ready s := congrArg (Readiness.ready · s) hsame
    exact hmissing (hnote.trans hs)
  · rcases of_getElem?_set hi hk with ⟨-, he⟩ | ⟨hki, hk'⟩
    · cases he
    · by_cases hqr : q = r
      · exact hki (h.opener_unique hk' hi rfl rfl hqr)
      · have hqs : q = s := Resource.eq_of_ne hsr hqr
        obtain rfl := h.opener_unique hk' hj rfl rfl hqs
        cases hk'.symm.trans hj

/-- Nothing that a call does then changes what is seen. -/
theorem Stuck.step (h : g.Stuck) (i : Nat) : (g.step i).Stuck := by
  obtain ⟨hall, hne, hnone⟩ := h
  rcases g.step_cases i with
    ⟨hs, -⟩ | ⟨r, hi, hready, hs⟩ | ⟨r, hi, hclosed, hs⟩ | ⟨r, note, hi, hs⟩
  · rw [hs]
    exact ⟨hall, hne, hnone⟩
  · rw [hs]
    refine ⟨hall, hne, fun k q m hk => ?_⟩
    rcases of_getElem?_set hi hk with ⟨-, he⟩ | ⟨-, hk'⟩
    · cases he
    · exact hnone k q m hk'
  · have hopen := Readiness.allReady_iff.mp hall r
    rw [hclosed] at hopen
    cases hopen
  · exact absurd hi (hnone i r note)

theorem Stuck.run (h : g.Stuck) (order : List Nat) : (g.run order).Stuck :=
  List.foldlRecOn (motive := Stuck) order _ h fun _ hg i _ => hg.step i

/-- Whether something was taken back decides what a run leads to. -/
theorem fresh_or_stuck : ∀ (order : List Nat) {g : Gates}, g.Sound → g.Fresh →
    (g.overwritten order = false ∧ (g.run order).Fresh) ∨
      (g.overwritten order = true ∧ (g.run order).Stuck)
  | [], _, _, hfresh => .inl ⟨rfl, hfresh⟩
  | i :: order, g, hsound, hfresh => by
    have hrun : g.run (i :: order) = (g.step i).run order := rfl
    by_cases hover : g.overwrites i = true
    · refine .inr ⟨?_, ?_⟩
      · rw [overwritten, hover, Bool.true_or]
      · rw [hrun]
        exact (hsound.stuck hover).run order
    · have hkeeps : g.overwrites i = false := Bool.eq_false_iff.mpr hover
      have hrest : g.overwritten (i :: order) = (g.step i).overwritten order := by
        rw [overwritten, hkeeps, Bool.false_or]
      rw [hrest, hrun]
      exact fresh_or_stuck order (hsound.step i) (hfresh.step hsound hkeeps)

/-! ### When all calls have returned -/

theorem resources_set (hi : g.calls[i]? = some c) (hresource : d.resource = c.resource) :
    (g.calls.set i d).map Call.resource = g.calls.map Call.resource := by
  refine List.ext_getElem? fun j => ?_
  rw [List.getElem?_map, List.getElem?_map, getElem?_set_of_some hi]
  by_cases hij : j = i
  · rw [if_pos hij, hij, hi, Option.map_some, Option.map_some, hresource]
  · rw [if_neg hij]

theorem resources_step (g : Gates) (i : Nat) :
    (g.step i).calls.map Call.resource = g.calls.map Call.resource := by
  rcases g.step_cases i with ⟨hs, -⟩ | ⟨r, hi, -, hs⟩ | ⟨r, hi, -, hs⟩ | ⟨r, note, hi, hs⟩
  · rw [hs]
  · rw [hs]
    exact resources_set hi rfl
  · rw [hs]
    exact resources_set hi rfl
  · rw [hs]
    exact resources_set hi rfl

theorem resources_run (rs : List Resource) (order : List Nat) :
    ((start rs).run order).calls.map Call.resource = rs := by
  have hrun : ((start rs).run order).calls.map Call.resource =
      (start rs).calls.map Call.resource :=
    List.foldlRecOn (motive := fun g : Gates =>
        g.calls.map Call.resource = (start rs).calls.map Call.resource) order _ rfl
      fun g hg i _ => (g.resources_step i).trans hg
  rw [hrun]
  simp [start, Function.comp_def]

theorem Over.returned (h : g.Over) (hi : g.calls[i]? = some c) :
    ∃ opened, c.stage = .returned opened := by
  have hover := h c (List.mem_of_getElem? hi)
  unfold Call.over at hover
  cases hstage : c.stage with
  | returned opened => exact ⟨opened, rfl⟩
  | _ =>
    rw [hstage] at hover
    cases hover

theorem Over.fresh_iff (h : g.Over) : g.Fresh ↔ g.published = g.state := by
  refine ⟨fun hfresh => hfresh.resolve_right ?_, .inl⟩
  rintro ⟨i, r, hi⟩
  obtain ⟨opened, hstage⟩ := h.returned hi
  cases hstage

/-- When all calls have returned, one of them has opened the gate of each resource that is ready. -/
theorem Sound.existsUnique_opener (h : g.Sound) (hover : g.Over) (hr : g.state.ready r = true) :
    ∃! i : Nat, g.calls[i]? = some ⟨r, .returned true⟩ := by
  obtain ⟨i, ⟨q, stage⟩, hi, hopens, rfl⟩ := h.opener_of_ready hr
  obtain ⟨opened, hstage⟩ := hover.returned hi
  obtain rfl : stage = .returned opened := hstage
  cases opened with
  | false => cases hopens
  | true => exact ⟨i, hi, fun j hj => h.opener_unique hj hi rfl rfl rfl⟩

/-- **Both views of the gates agree exactly if no publication took something back.** Let any calls
take their steps in any order until all have returned. Then for each resource that was marked
exactly one call tells that it opened the gate, and the state tells which were marked. Who waits
without blocking is never told of more than there is. What was published last is the state, and
they are told that everything is ready exactly when those who block are, if and only if no note
was published over one that tells of more. -/
theorem views_agree_iff (rs : List Resource) (order : List Nat)
    (hover : ((start rs).run order).Over) :
    let g := (start rs).run order
    (∀ r ∈ rs, ∃! i : Nat, g.calls[i]? = some ⟨r, .returned true⟩) ∧
    (∀ r, g.state.ready r = true ↔ r ∈ rs) ∧
    (g.asyncReady = true → g.blockingReady = true) ∧
    (g.published = g.state ↔ (start rs).overwritten order = false) ∧
    (g.asyncReady = g.blockingReady ↔ (start rs).overwritten order = false) := by
  intro g
  have hsound : g.Sound := (sound_start rs).run order
  have hresources : g.calls.map Call.resource = rs := resources_run rs order
  have hready : ∀ r, g.state.ready r = true ↔ r ∈ rs := by
    intro r
    rw [← hresources, List.mem_map]
    constructor
    · intro hr
      obtain ⟨i, c, hi, -, hresource⟩ := hsound.opener_of_ready hr
      exact ⟨c, List.mem_of_getElem? hi, hresource⟩
    · rintro ⟨c, hc, rfl⟩
      obtain ⟨i, hi⟩ := List.mem_iff_getElem?.mp hc
      obtain ⟨opened, hstage⟩ := hover.returned hi
      refine hsound.ready_of_started hi fun hwaiting => ?_
      cases hstage.symm.trans hwaiting
  have hearly : g.asyncReady = true → g.blockingReady = true := by
    intro hasync
    have hall := Readiness.allReady_iff.mp hasync
    exact Readiness.allReady_iff.mpr fun r =>
      Readiness.within_iff.mp hsound.published_within r (hall r)
  refine ⟨fun r hr => hsound.existsUnique_opener hover ((hready r).mpr hr), hready, hearly, ?_⟩
  rcases fresh_or_stuck order (sound_start rs) (.inl rfl) with ⟨hkept, hfresh⟩ | ⟨hlost, hstuck⟩
  · have hsame : g.published = g.state := hover.fresh_iff.mp hfresh
    have hviews : g.asyncReady = g.blockingReady := congrArg Readiness.allReady hsame
    exact ⟨iff_of_true hsame hkept, iff_of_true hviews hkept⟩
  · obtain ⟨hall, hne, -⟩ := hstuck
    have hnot : ¬ (start rs).overwritten order = false := fun hkept =>
      Bool.false_ne_true (hkept.symm.trans hlost)
    have hviews : g.asyncReady ≠ g.blockingReady := by
      intro hviews
      have hasync : g.published.allReady = true := hviews.trans hall
      have hfull : g.published = g.state := Readiness.ext_ready fun r =>
        (Readiness.allReady_iff.mp hasync r).trans (Readiness.allReady_iff.mp hall r).symm
      exact hne hfull
    exact ⟨iff_of_false hne hnot, iff_of_false hviews hnot⟩

/-- Two calls open the gate of flags and the gate of segments, and a third comes late; whatever is
published tells of more than what was published before. -/
theorem views_agree_in_turn :
    let g := (start [.flags, .segments, .flags]).run [0, 0, 1, 2, 1]
    g.Over ∧ g.published = g.state ∧ ∃! i : Nat, g.calls[i]? = some ⟨.flags, .returned true⟩ := by
  intro g
  have hover : g.Over := by decide
  obtain ⟨hunique, -, -, hagree, -⟩ := views_agree_iff [.flags, .segments, .flags] _ hover
  exact ⟨hover, hagree.mpr (by decide), hunique .flags (by decide)⟩

/-- **A note that is published late hides that everything is ready.** The gate of flags is opened,
and before that is published the gate of segments is opened, as a sweep may do that finds flags
ready, and published. Then all calls have returned, those who block are told that everything is
ready, and those who wait without blocking are not. -/
theorem late_note_hides_readiness :
    let g := (start [.flags, .segments]).run [0, 1, 1, 0]
    g.Over ∧ g.published ≠ g.state ∧ g.blockingReady = true ∧ g.asyncReady = false := by
  decide

end Gates

end Halyard

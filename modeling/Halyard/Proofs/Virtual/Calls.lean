/-
# Calls are chases

A call from outside pursues something at the front and waits for what comes of it, while
the other tasks go on. They leave the front alone, so the work at the front gets its
turns in worlds in which the settings are the same: a call is a chase through the worlds
in which the front had its turns (`Chase.exists_course`), and what it returns is what
that chase came to (`Quest.exists_course_of_call`).

Key definitions: `Quest.call`, `Chase.AtFront`.
Key theorems: `World.awaitWithin_plays`, `Chase.atFront_move`, `Chase.exists_course`,
`Quest.exists_course_of_call`.
-/
import Halyard.Proofs.Virtual.Chases
import Halyard.Proofs.Virtual.Surroundings

namespace Halyard.Virtual

variable {β : Type} {f : World.Interject Empty β} {w w' : World Empty β}

/-- Waiting for an answer is a play, and the answer is that of the world it leads to. -/
theorem World.awaitWithin_plays {γ : Type} {ready : World Empty β → Option γ} {others : List Nat}
    {g : γ} : ∀ {n : Nat} {w : World Empty β}, w.awaitWithin f ready others n = (w', some g) →
      Plays f w w' ∧ ready w' = some g
  | 0, w, h => by cases h
  | n + 1, w, h => by
    have hs := settle_plays (f := f) maxRounds w
    unfold awaitWithin at h
    simp only at h
    cases hready : ready (w.settle f maxRounds) with
    | some g' =>
      simp only [hready] at h
      cases h
      exact ⟨hs, hready⟩
    | none =>
      simp only [hready] at h
      cases ht : (w.settle f maxRounds).nextTime others with
      | none =>
        simp only [ht] at h
        cases h
      | some t =>
        simp only [ht] at h
        obtain ⟨hplays, hg⟩ := awaitWithin_plays h
        exact ⟨(hs.trans (plays_until (le_of_nextTime ht))).trans hplays, hg⟩

namespace Chase

/-- Whether a chase is what is done at the front of a world, or was and came to its end. -/
def AtFront (c : Chase) (w : World Empty β) : Prop :=
  w.front = some c.work ∧ w.frontResult = none ∨
    w.front = none ∧ ∃ r, c.work = .settled r ∧ w.frontResult = some r

variable {c : Chase} {stage : Stage}

theorem AtFront.of_surroundings {p : Option (Polling Empty)} (h : c.AtFront w)
    (hw : w'.surroundings = { w.surroundings with polling := p }) : c.AtFront w' := by
  have hfront : w'.front = w.front := congrArg Surroundings.front hw
  have hresult : w'.frontResult = w.frontResult := congrArg Surroundings.frontResult hw
  unfold AtFront
  rw [hfront, hresult]
  exact h

theorem onDemand_of_surroundings {p : Option (Polling Empty)}
    (hw : w'.surroundings = { w.surroundings with polling := p }) : w'.onDemand = w.onDemand :=
  congrArg Surroundings.onDemand hw

theorem atFront_turn (hshows : c.quest.Shows c.work stage) (hresult : w.frontResult = none)
    {w₁ : World Empty β} {x : Work Empty ⊕ Except SyncError Names}
    (hs : w.stepWork f c.work = some (w₁, x))
    (hw' : w'.surroundings = w.surroundings.afterStep x) :
    w'.onDemand = w.onDemand ∧ (c.AtFront w' ∨ (c.turn f w).AtFront w') := by
  cases x with
  | inl work =>
    have hwork : (c.turn f w).work = work := by
      unfold turn
      rw [hs]
      rfl
    refine ⟨congrArg Surroundings.onDemand hw', .inr (.inl ⟨?_, ?_⟩)⟩
    · rw [hwork]
      exact congrArg Surroundings.front hw'
    · exact (congrArg Surroundings.frontResult hw').trans hresult
  | inr r =>
    refine ⟨congrArg Surroundings.onDemand hw', .inl (.inr ⟨congrArg Surroundings.front hw', r, ?_,
      congrArg Surroundings.frontResult hw'⟩)⟩
    obtain ⟨r', hover⟩ | ⟨work', stage', hx, -⟩ := hshows.turn hs
    · rw [hover] at hshows
      obtain ⟨r'', hsettled⟩ := hshows.settled_of_ended
      rw [hsettled] at hs ⊢
      cases hs
      rfl
    · cases hx

/-- **A move leaves the chase at the front as it is, or is a turn of it.** -/
theorem atFront_move (hshows : c.quest.Shows c.work stage) (hc : c.AtFront w) (m : Move) :
    (w.move f m).onDemand = w.onDemand ∧
      (c.AtFront (w.move f m) ∨ (c.turn f w).AtFront (w.move f m)) := by
  have hkept : ∀ p, (w.move f m).surroundings = { w.surroundings with polling := p } →
      (w.move f m).onDemand = w.onDemand ∧
        (c.AtFront (w.move f m) ∨ (c.turn f w).AtFront (w.move f m)) :=
    fun p hp => ⟨onDemand_of_surroundings hp, .inl (hc.of_surroundings hp)⟩
  cases m with
  | wait ms => exact hkept _ rfl
  | notify n => exact hkept _ (World.surroundings_dispatch n)
  | target t => exact hkept _ (World.surroundings_enqueueRules t)
  | job j => exact hkept _ (World.surroundings_enqueueSegment j)
  | turn woken a =>
    cases ha : w.act f woken a with
    | none =>
      have hmove : w.move f (.turn woken a) = w := by rw [World.move, ha]; rfl
      exact hkept _ (congrArg World.surroundings hmove)
    | some w' =>
      have hmove : w.move f (.turn woken a) = w' := by rw [World.move, ha]; rfl
      rw [hmove] at hkept ⊢
      by_cases hfront : a = .front
      · subst hfront
        obtain ⟨work, w₁, x, hwork, hs, hw'⟩ := World.surroundings_actFront ha
        obtain ⟨hbusy, hresult⟩ | ⟨hidle, -⟩ := hc
        · obtain rfl := Option.some.inj (hbusy.symm.trans hwork)
          exact atFront_turn hshows hresult hs hw'
        · cases hidle.symm.trans hwork
      · obtain ⟨p, hp⟩ := World.surroundings_act hfront ha
        exact hkept p hp

/-- **What is done at the front is a chase.** -/
theorem exists_course (f : World.Interject Empty β) (ms : List Move) :
    ∀ {w : World Empty β} {c : Chase} {stage : Stage},
      c.quest.Shows c.work stage → c.AtFront w →
      ∃ ws : List (World Empty β), (∀ v ∈ ws, v.onDemand = w.onDemand) ∧
        (c.course f ws).AtFront (w.play f ms) := by
  induction ms with
  | nil => exact fun _ hc => ⟨[], List.forall_mem_nil _, hc⟩
  | cons m ms ih =>
    intro w c stage hshows hc
    have hplay : w.play f (m :: ms) = (w.move f m).play f ms := rfl
    rw [hplay]
    obtain ⟨hsettings, hleft | hturned⟩ := atFront_move (f := f) hshows hc m
    · obtain ⟨ws, hws, hcourse⟩ := ih hshows hleft
      exact ⟨ws, fun v hv => (hws v hv).trans hsettings, hcourse⟩
    · obtain ⟨stage', hshown⟩ := exists_shows_turn (f := f) hshows w
      obtain ⟨ws, hws, hcourse⟩ := ih hshown hturned
      refine ⟨w :: ws, List.forall_mem_cons.mpr ⟨rfl, ?_⟩, ?_⟩
      · exact fun v hv => (hws v hv).trans hsettings
      · rw [course_cons]
        exact hcourse

end Chase

/-- A call from outside that pursues something. -/
def Quest.call (f : World.Interject Empty β) (w : World Empty β) :
    Quest → World Empty β × Option (Except SyncError Names)
  | rules t => w.synchronizeWithTarget f t
  | segment name target => w.synchronizeSegmentWithTarget f name target

theorem Quest.call_eq (f : World.Interject Empty β) (w : World Empty β) (q : Quest) :
    q.call f w = w.finish f (q.work w) := by
  cases q with
  | segment name target => rfl
  | rules t =>
    show (w.pursueRules t).1.finish f (w.pursueRules t).2 = w.finish f (w.pursueRules t).2
    rw [show (w.pursueRules t).1 = w from World.moveRules_fst _ _]

/-- **What a call returns is what a chase comes to**, through worlds with the same settings. -/
theorem Quest.exists_course_of_call {q : Quest} {r : Except SyncError Names}
    (h : q.call f w = (w', some r)) :
    ∃ ws : List (World Empty β), (∀ v ∈ ws, v.onDemand = w.onDemand) ∧
      ((Chase.begin q w).course f ws).work = .settled r := by
  rw [call_eq] at h
  obtain ⟨⟨ms, rfl⟩, hresult⟩ := World.awaitWithin_plays h
  obtain ⟨ws, hws, hcourse⟩ := Chase.exists_course f ms (c := Chase.begin q w)
    (w := { w with front := some (q.work w), frontResult := none }) (q.shows_begin w)
    (.inl ⟨rfl, rfl⟩)
  obtain ⟨-, hnone⟩ | ⟨-, r', hsettled, hr'⟩ := hcourse
  · cases hnone.symm.trans hresult
  · obtain rfl := Option.some.inj (hr'.symm.trans hresult)
    exact ⟨ws, hws, hsettled⟩

end Halyard.Virtual

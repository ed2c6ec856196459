/-
# Pursuits follow their plan

A pursuit makes its attempts by number: the first ones ask as usual, the others for the
change number that is pursued. It ends with the first attempt that decides it, or with
the last one there is, and between two attempts it waits for as long as the plan says.
This holds of the pursuit of rules and that of a segment alike, whatever their attempts
result in and whatever happens to the world meanwhile (`Quest.pursued_as_planned`).

What carries the proof is the stage of the pursuit: before attempt `k`, and while it is
under way, the pursuit is `Pursuit.before settings k`, so that `Pursuit.next_before` says
what comes after it (`Chase.Accords`). Every turn keeps the stage in accord with the
attempts that were made (`Chase.kept_record`), and a chase whose stage accords with them
follows the plan (`Chase.follows_of_kept`).

Key definitions: `Attempt.decided?`, `Attempt.due`, `Permits`, `Planned`,
`Chase.Follows`, `Chase.Kept`.
Key theorems: `Chase.kept_record`, `Chase.follows_course`, `Quest.pursued_as_planned`.
-/
import Halyard.Proofs.Fetch.Plan
import Halyard.Proofs.Virtual.Calls

namespace Halyard.Virtual

variable {β : Type} {settings : OnDemandSettings} {till : Option ChangeNumber} {start : Nat}
  {past : List Attempt}

/-- The result of the pursuit that an attempt decides, if it decides it. -/
def Attempt.decided? (a : Attempt) : Option (Except SyncError Unit) :=
  Pursuit.decided? a.result a.reached

/-- When the next attempt of a pursuit is due that began at `start`. -/
def Attempt.due (settings : OnDemandSettings) (start : Nat) (past : List Attempt) : Nat :=
  match past.getLast? with
  | none => start
  | some a => a.ended + settings.pauseAfter (past.length - 1)

/-- Whether, after some attempts, another one is in order that begins at some moment and asks in
some way. -/
structure Permits (settings : OnDemandSettings) (till : Option ChangeNumber) (start : Nat)
    (past : List Attempt) (begun : Nat) (options : FetchOptions) : Prop where
  undecided : ∀ a ∈ past, a.decided? = none
  isLeft : past.length < settings.attempts
  options : options = settings.optionsAt till past.length
  due : Attempt.due settings start past ≤ begun

/-- Attempts as they are planned: each one is in order after those before it. -/
inductive Planned (settings : OnDemandSettings) (till : Option ChangeNumber) (start : Nat) :
    List Attempt → Prop
  | nil : Planned settings till start []
  | snoc {past : List Attempt} {a : Attempt} : Planned settings till start past →
      Permits settings till start past a.begun a.options →
      Planned settings till start (past ++ [a])

@[simp] theorem Attempt.due_append (a : Attempt) :
    Attempt.due settings start (past ++ [a]) = a.ended + settings.pauseAfter past.length := by
  simp [Attempt.due]

namespace Chase

/-- How many attempts were begun. -/
def attempts (c : Chase) : Nat :=
  c.past.length + c.current.toList.length

/-- When the next attempt is due. -/
def due (settings : OnDemandSettings) (c : Chase) : Nat :=
  Attempt.due settings c.begun c.past

/-- Whether a chase has come to an end, with a result: its last attempt decided that, or decided
nothing, and there are no more. -/
def Ends (settings : OnDemandSettings) (c : Chase) (r : Except SyncError Unit) : Prop :=
  ∃ a, c.past.getLast? = some a ∧
    (a.decided? = some r ∨ a.decided? = none ∧ c.past.length = settings.attempts ∧ r = .ok ())

/-- What the plan says of a chase. -/
structure Follows (β : Type) (settings : OnDemandSettings) (c : Chase) : Prop where
  past : Planned settings c.quest.till c.begun c.past
  current : ∀ x, c.current = some x → Permits settings c.quest.till c.begun c.past x.1 x.2
  /-- Requests are made in attempts, and ask in the way of them. -/
  requests : ∀ r ∈ c.requests,
    r.attempt < c.attempts ∧ r.options = settings.optionsAt c.quest.till r.attempt
  result : ∀ r, c.result? = some r ↔ c.current = none ∧ c.Ends settings r
  /-- While no attempt is under way, the next one begins as soon as it is due. -/
  waits : c.current = none → c.result? = none →
    ∀ (f : World.Interject Empty β) (w : World Empty β),
      (c.turn f w).current.isSome = true ↔ c.due settings ≤ w.now

/-- What the plan says of the stage of a chase. -/
def Accords (settings : OnDemandSettings) (c : Chase) : Stage → Prop
  | .idle p wake => c.current = none ∧ p = .before settings c.past.length ∧
      Permits settings c.quest.till c.begun c.past wake (p.options c.quest.till) ∧
      wake = c.due settings
  | .busy p o _ => p = .before settings c.past.length ∧
      ∃ begun, c.current = some (begun, o) ∧
        Permits settings c.quest.till c.begun c.past begun o
  | .ended r => c.current = none ∧ c.Ends settings r

/-- What holds of the books of a chase at a stage. -/
structure Kept (settings : OnDemandSettings) (c : Chase) (stage : Stage) : Prop where
  past : Planned settings c.quest.till c.begun c.past
  requests : ∀ r ∈ c.requests,
    r.attempt < c.attempts ∧ r.options = settings.optionsAt c.quest.till r.attempt
  stage : c.Accords settings stage

variable {c : Chase} {stage stage' : Stage}

theorem accords_ended (h : settings.InRange) {d : Chase} {a : Attempt} {past : List Attempt}
    (hcurrent : d.current = none) (hpast : d.past = past ++ [a])
    (hundecided : ∀ b ∈ past, b.decided? = none) (hless : past.length < settings.attempts) :
    d.Accords settings (.after a.ended
      ((Pursuit.before settings past.length).next settings a.result a.reached)) := by
  have hlast : d.past.getLast? = some a := by simp [hpast]
  have hlength : d.past.length = past.length + 1 := by simp [hpast]
  have hdue : d.due settings = a.ended + settings.pauseAfter past.length := by
    rw [due, hpast, Attempt.due_append]
  rw [Pursuit.next_before h hless]
  cases hdecided : Pursuit.decided? a.result a.reached with
  | some r => exact ⟨hcurrent, a, hlast, .inl hdecided⟩
  | none =>
    have hall : ∀ b ∈ d.past, b.decided? = none := by
      rw [hpast]
      exact List.forall_mem_append.mpr ⟨hundecided, List.forall_mem_singleton.mpr hdecided⟩
    have hpermits : d.past.length < settings.attempts → ∀ wake, d.due settings ≤ wake →
        Permits settings d.quest.till d.begun d.past wake
          ((Pursuit.before settings d.past.length).options d.quest.till) :=
      fun hleft wake hwake => ⟨hall, hleft, Pursuit.options_before _, hwake⟩
    simp only [Pursuit.afterUndecided]
    by_cases hend : past.length + 1 = settings.attempts
    · rw [if_pos hend]
      exact ⟨hcurrent, a, hlast, .inr ⟨hdecided, hlength.trans hend, rfl⟩⟩
    have hleft : d.past.length < settings.attempts := by omega
    by_cases hphase : past.length = settings.retries
    · have hnow : a.ended = d.due settings := by
        rw [hdue, OnDemandSettings.pauseAfter, if_pos hphase, Nat.add_zero]
      rw [if_neg hend, if_pos hphase, ← hlength]
      exact ⟨hcurrent, rfl, hpermits hleft _ (Nat.le_of_eq hnow.symm), hnow⟩
    · rw [if_neg hend, if_neg hphase, ← hlength]
      exact ⟨hcurrent, rfl, hpermits hleft _ (Nat.le_of_eq hdue), hdue.symm⟩

/-- **Entering a turn keeps to the plan.** -/
theorem kept_record (h : settings.InRange) (fails : FetchError → Prop) {now : Nat}
    {work : Work Empty} {asked : List FetchOptions}
    {ending : Option (Except SyncError Unit × Bool)}
    (hc : c.Kept settings stage) (hshown : c.quest.Shows work stage')
    (hturn : stage.Turn settings fails c.quest.till now asked ending stage') :
    (c.record now work asked ending).Kept settings stage' := by
  obtain ⟨hpast, hrequests, hstage⟩ := hc
  have hfetching := hshown.fetching?_eq
  cases hturn with
  | begins hwake =>
    obtain ⟨hcurrent, hp, hpermits, -⟩ := hstage
    rw [record_begins hcurrent hfetching]
    refine ⟨hpast, fun r hr => ⟨?_, (hrequests r hr).2⟩, hp, now, rfl,
      { hpermits with due := Nat.le_trans hpermits.due hwake }⟩
    have hlt : r.attempt < c.past.length + c.current.toList.length := (hrequests r hr).1
    rw [hcurrent] at hlt
    exact Nat.lt_succ_of_lt hlt
  | fetches hstep =>
    obtain ⟨hp, begun, hcurrent, hpermits⟩ := hstage
    cases hstep with
    | asks hfails =>
      rw [record_asks hcurrent hfetching]
      refine ⟨hpast, List.forall_mem_append.mpr ⟨hrequests, ?_⟩, hp, begun, hcurrent, hpermits⟩
      refine List.forall_mem_singleton.mpr ⟨?_, hpermits.options⟩
      show c.past.length < c.past.length + c.current.toList.length
      rw [hcurrent]
      exact Nat.lt_succ_self _
    | goesOn hdue =>
      rw [record_goesOn hcurrent hfetching]
      exact ⟨hpast, hrequests, hp, begun, hcurrent, hpermits⟩
  | @ends _ o _ _ r reached hstep =>
    obtain ⟨hp, begun, hcurrent, hpermits⟩ := hstage
    cases hstep
    rw [record_ends hcurrent (hfetching.trans (Stage.fetching?_after _ _)), hp]
    refine ⟨.snoc (a := ⟨begun, o, now, r, reached⟩) hpast hpermits,
      fun r hr => ⟨?_, (hrequests r hr).2⟩,
      accords_ended h (a := ⟨begun, o, now, r, reached⟩) rfl rfl hpermits.undecided hpermits.isLeft⟩
    have hlt : r.attempt < c.past.length + c.current.toList.length := (hrequests r hr).1
    rw [hcurrent] at hlt
    show r.attempt < (c.past ++ [_]).length + 0
    rw [List.length_append]
    exact hlt

theorem not_ends_of_permits {begun : Nat} {o : FetchOptions} {r : Except SyncError Unit}
    (h : Permits settings c.quest.till c.begun c.past begun o) : ¬ c.Ends settings r := by
  rintro ⟨a, ha, hdecided | ⟨-, hlength, -⟩⟩
  · have hnone := h.undecided a (List.mem_of_getLast? ha)
    cases hnone.symm.trans hdecided
  · exact Nat.ne_of_lt h.isLeft hlength

theorem Ends.unique {r r' : Except SyncError Unit} (h : c.Ends settings r)
    (h' : c.Ends settings r') : r = r' := by
  obtain ⟨a, ha, hr⟩ := h
  obtain ⟨a', ha', hr'⟩ := h'
  obtain rfl := Option.some.inj (ha.symm.trans ha')
  rcases hr with hr | ⟨hr, -, rfl⟩
  · rcases hr' with hr' | ⟨hr', -, rfl⟩
    · exact Option.some.inj (hr.symm.trans hr')
    · cases hr.symm.trans hr'
  · rcases hr' with hr' | ⟨-, -, rfl⟩
    · cases hr.symm.trans hr'
    · rfl

theorem isSome_current_turn {p : Pursuit} {wake : Nat}
    (hshows : c.quest.Shows c.work (.idle p wake)) (hcurrent : c.current = none)
    (f : World.Interject Empty β) (w : World Empty β) :
    (c.turn f w).current.isSome = true ↔ wake ≤ w.now := by
  rw [← hshows.isSome_idle (f := f)]
  rcases turn_cases (f := f) (w := w) hshows with ⟨hsame, hnone | ⟨r, hover⟩⟩ |
    ⟨work, asked, ending, stage', hrec, hshown, hturn⟩
  · rw [hsame, hcurrent, hnone]
    exact Iff.rfl
  · cases hover
  · cases hturn with
    | begins hwake =>
      rw [hrec, record_begins hcurrent hshown.fetching?_eq, hshows.isSome_idle]
      exact ⟨fun _ => hwake, fun _ => rfl⟩

/-- **A chase follows its plan if its stage accords with it.** -/
theorem follows_of_kept (hshows : c.quest.Shows c.work stage) (hc : c.Kept settings stage) :
    c.Follows β settings := by
  obtain ⟨hpast, hrequests, hstage⟩ := hc
  have hresult : c.result? = stage.result? := hshows.result?_eq
  cases stage with
  | idle p wake =>
    obtain ⟨hcurrent, -, hpermits, hdue⟩ := hstage
    refine ⟨hpast, fun x hx => ?_, hrequests, fun r => ?_, fun _ _ f w => ?_⟩
    · cases hcurrent.symm.trans hx
    · rw [hresult]
      exact ⟨nofun, fun hends => absurd hends.2 (not_ends_of_permits hpermits)⟩
    · rw [isSome_current_turn hshows hcurrent, hdue]
  | busy p o arrival =>
    obtain ⟨-, begun, hcurrent, hpermits⟩ := hstage
    refine ⟨hpast, fun x hx => ?_, hrequests, fun r => ?_, fun hnone => ?_⟩
    · obtain rfl := Option.some.inj (hcurrent.symm.trans hx)
      exact hpermits
    · rw [hresult]
      exact ⟨nofun, fun hends => absurd hends.2 (not_ends_of_permits hpermits)⟩
    · cases hcurrent.symm.trans hnone
  | ended r =>
    obtain ⟨hcurrent, hends⟩ := hstage
    refine ⟨hpast, fun x hx => ?_, hrequests, fun r' => ?_, fun _ hnone => ?_⟩
    · cases hcurrent.symm.trans hx
    · rw [hresult]
      refine ⟨fun hr => ⟨hcurrent, Option.some.inj hr ▸ hends⟩, fun hr' => ?_⟩
      exact congrArg some (hends.unique hr'.2)
    · cases hresult.symm.trans hnone

/-- A chase whose quest is not done yet begins as planned. -/
theorem kept_begin (h : settings.InRange) {q : Quest} {w : World Empty β}
    (hw : w.onDemand = settings) (hreached : q.reached w.replica.stores = false) :
    ∃ stage, q.Shows (q.work w) stage ∧ (begin q w).Kept settings stage := by
  refine ⟨_, Quest.shows_begin q w, .nil, nofun, ?_⟩
  rw [hw, hreached, Pursuit.start_before h]
  refine ⟨rfl, rfl, ⟨nofun, ?_, Pursuit.options_before _, Nat.le_refl _⟩, rfl⟩
  show 0 < settings.attempts
  unfold OnDemandSettings.attempts
  omega

/-- **Whatever happens, a chase follows its plan.** -/
theorem follows_course (h : settings.InRange) (f : World.Interject Empty β) {q : Quest}
    {w : World Empty β} (hw : w.onDemand = settings)
    (hreached : q.reached w.replica.stores = false) (ws : List (World Empty β))
    (hws : ∀ v ∈ ws, v.onDemand = settings) :
    ((begin q w).course f ws).Follows β settings := by
  obtain ⟨stage, hshows, hkept⟩ := kept_begin h hw hreached
  obtain ⟨stage', hshown, hkept'⟩ := course_induction (f := f)
    (P := fun c stage => c.Kept settings stage)
    (fun _ _ _ _ _ _ _ => kept_record h fun _ => True) ws
    (fun v hv => ⟨hws v hv, fun _ _ => trivial⟩) (c := begin q w) hshows hkept
  exact follows_of_kept hshown hkept'

/-- A chase whose quest is done at the beginning does nothing. -/
theorem course_of_reached {q : Quest} {w : World Empty β}
    (hreached : q.reached w.replica.stores = true) (f : World.Interject Empty β)
    (ws : List (World Empty β)) :
    (begin q w).course f ws = begin q w ∧ (begin q w).result? = some (.ok ()) := by
  have hshows := Quest.shows_begin q w
  rw [hreached, Pursuit.start, if_pos rfl] at hshows
  obtain ⟨r, hsettled⟩ := hshows.settled_of_ended
  exact ⟨course_of_settled hsettled ws, hshows.result?_eq⟩

theorem Follows.reached_or_spent {c : Chase} (h : c.Follows β settings)
    (hresult : c.result? = some (.ok ())) :
    c.past.length = settings.attempts ∨ ∃ a, c.past.getLast? = some a ∧ a.reached = true := by
  obtain ⟨-, a, ha, hdecided | ⟨-, hlength, -⟩⟩ := (h.result _).mp hresult
  · exact .inr ⟨a, ha, Pursuit.reached_of_decided? hdecided⟩
  · exact .inl hlength

end Chase

/-- **Pursuits follow their plan.** What a call comes to is what a chase comes to, through worlds
with the settings of its own. And through whatever worlds with these settings a chase goes: if
there is nothing to pursue, it is over at once without a request; else it follows the plan, and if
all went well though the quest is not done, all attempts were made. -/
theorem Quest.pursued_as_planned (h : settings.InRange) (f : World.Interject Empty β) (q : Quest)
    (w : World Empty β) (hw : w.onDemand = settings) :
    (∀ w' r, q.call f w = (w', some r) →
      ∃ ws : List (World Empty β), (∀ v ∈ ws, v.onDemand = settings) ∧
        ((Chase.begin q w).course f ws).work = .settled r) ∧
    ∀ ws : List (World Empty β), (∀ v ∈ ws, v.onDemand = settings) →
      let c := (Chase.begin q w).course f ws
      c.quest = q ∧ c.begun = w.now ∧
        (q.reached w.replica.stores = true →
          c.requests = [] ∧ c.past = [] ∧ c.current = none ∧ c.result? = some (.ok ())) ∧
        (q.reached w.replica.stores = false →
          c.Follows β settings ∧
            (c.result? = some (.ok ()) → c.past.length = settings.attempts ∨
              ∃ a, c.past.getLast? = some a ∧ a.reached = true)) := by
  refine ⟨fun w' r hcall => ?_, fun ws hws => ⟨Chase.quest_course _ ws, Chase.begun_course _ ws,
    fun hreached => ?_, fun hreached => ?_⟩⟩
  · rw [← hw]
    exact exists_course_of_call hcall
  · obtain ⟨hsame, hresult⟩ := Chase.course_of_reached hreached f ws
    rw [hsame]
    exact ⟨rfl, rfl, rfl, hresult⟩
  · have hfollows := Chase.follows_course h f hw hreached ws hws
    exact ⟨hfollows, hfollows.reached_or_spent⟩

/-- A segment that no answer brings any further: two attempts with a delay in between, and at once
one more that asks for the change number. -/
theorem Quest.staff_pursued_in_vain :
    let settings : OnDemandSettings := ⟨1, 100, 0⟩
    let w : World Empty Unit := .initial Names.empty settings
    let ws := [0, 0, 0, 99, 100, 100, 100, 100, 100, 100].map fun t => { w with now := t }
    let c := (Chase.begin (.segment "staff" 5) w).course (fun i w => (w, i.elim)) ws
    settings.InRange ∧ (∀ v ∈ ws, v.onDemand = settings) ∧ c.Follows Unit settings ∧
      (c.past.map fun a => (a.begun, a.options)) =
        [(0, .onDemand), (100, .onDemand), (100, .bypass 5)] ∧
      (c.requests.map fun r => (r.attempt, r.options)) =
        [(0, .onDemand), (1, .onDemand), (2, .bypass 5)] ∧
      c.result?.bind Except.toOption = some () := by
  intro settings w ws c
  have hrange : settings.InRange := ⟨by decide, by decide⟩
  have hws : ∀ v ∈ ws, v.onDemand = settings := by simp [ws, w, World.initial]
  have hfollows := (((Quest.pursued_as_planned hrange (fun i w => (w, i.elim))
    (.segment "staff" 5) w rfl).2 ws hws).2.2.2 (by decide)).1
  exact ⟨hrange, hws, hfollows, by decide +kernel, by decide +kernel, by decide +kernel⟩

end Halyard.Virtual

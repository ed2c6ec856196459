/-
# Chases

A pursuit is followed here from its beginning through any course of events. Its work
gets turns in a list of worlds; between two turns anything may happen to the world, so
the worlds are whatever they are. A chase keeps the books: the requests that were made,
the attempts that are over, and the one that is under way.

The pursuit of rules and that of a segment are written apart. What they have in common
is the stage that they are at (`Quest.Shows`), and a turn takes both from stage to stage
in the same way (`Stage.Turn`): `Quest.Shows.turn` is all that the plan of a pursuit needs
to know of them.

Key definitions: `Quest`, `Attempt`, `Chase`, `Chase.turn`, `Chase.course`, `Stage`,
`FetchStep`, `Stage.Turn`, `Quest.Shows`.
Key theorems: `Quest.shows_begin`, `Quest.Shows.turn`, `Chase.course_induction`.
-/
import Halyard.Proofs.Virtual.Core

namespace Halyard.Virtual

variable {β : Type}

/-- What is pursued: that the rules reach a target, or a segment a change number. -/
inductive Quest where
  | rules (t : FetchTarget)
  | segment (name : String) (target : ChangeNumber)

namespace Quest

/-- Whether there is nothing left to pursue. -/
def reached : Quest → Stores → Bool
  | rules t, s => t.reached s
  | segment name target, s => target ≤ s.segments.watermark name

/-- The change number that is asked for by name, past the caches. -/
def till : Quest → Option ChangeNumber
  | rules t => t.till
  | segment _ target => some target

/-- The work that begins. -/
def work (w : World Empty β) : Quest → Work Empty
  | rules t => (w.pursueRules t).2
  | segment name target => w.pursueSegment name target

end Quest

/-- A request, the number of the attempt that it is made in, and the failure that it is
answered with, if it fails. -/
structure Asked where
  attempt : Nat
  options : FetchOptions
  failure : Option FetchError
deriving DecidableEq

/-- An attempt that is over, and whether there was nothing left to pursue after it. -/
structure Attempt where
  begun : Nat
  options : FetchOptions
  ended : Nat
  result : Except SyncError Unit
  reached : Bool

/-- The failure that a request is answered with, if it fails. -/
def Pending.failure? {α : Type} (a : Pending Empty α) : Option FetchError :=
  match a.answer with
  | .ok _ => none
  | .error e => some e

theorem Pending.answer_of_failure? {α : Type} {a : Pending Empty α} {e : FetchError}
    (h : a.failure? = some e) : a.answer = .error e := by
  unfold failure? at h
  split at h
  · cases h
  · rename_i e' he
    rw [he, Option.some.inj h]

/-- When a request is answered, and with which failure, if it fails. -/
def Pending.arrival {α : Type} (a : Pending Empty α) : Nat × Option FetchError :=
  (a.due, a.failure?)

namespace Work

/-- How the fetch of a pursuit that is under way asks. -/
def fetching? : Work Empty → Option FetchOptions
  | pursueRules p => p.call.map (·.options)
  | pursueSegment p => p.call.map (·.options)
  | _ => none

/-- The failure that the request of a pursuit will be answered with, if there is a request
under way that fails. -/
def failure? : Work Empty → Option FetchError
  | pursueRules p => (p.call.bind (·.pending)).bind (·.failure?)
  | pursueSegment p => (p.call.bind (·.pending)).bind (·.failure?)
  | _ => none

/-- The result of work that is settled. -/
def result? : Work Empty → Option (Except SyncError Unit)
  | settled r => some (r.map fun _ => ())
  | _ => none

end Work

namespace World

/-- How the requests asked that were logged between two worlds. -/
def askedSince (w w' : World Empty β) : List FetchOptions :=
  (w'.ruleLog.drop w.ruleLog.length).map (·.options) ++
    (w'.segmentLog.drop w.segmentLog.length).map (·.options)

/-- Whether a reply to come has a failure. -/
def Fails (w : World Empty β) (e : FetchError) : Prop :=
  (∃ r ∈ w.ruleReplies, ∃ since ruleSince, r.answer since ruleSince = .error e) ∨
    ∃ name, ∃ r ∈ (w.segmentReplies.get? name).getD [], ∃ since, r.answer since = .error e

/-- How the fetch of a pursuit ends at its next step, if it does. -/
def ending? (f : Interject Empty β) (w : World Empty β) :
    Work Empty → Option (Except SyncError Unit)
  | .pursueRules p => p.call.bind fun c =>
    match w.stepRules f c with
    | some (_, .inr r) => some (r.map fun _ => ())
    | _ => none
  | .pursueSegment p => p.call.bind fun c =>
    match w.stepSegment f c with
    | some (_, .inr r) => some r
    | _ => none
  | _ => none

end World

/-- A pursuit and its books. -/
structure Chase where
  quest : Quest
  begun : Nat
  work : Work Empty
  requests : List Asked
  /-- When the attempt that is under way began, and how it asks. -/
  current : Option (Nat × FetchOptions)
  past : List Attempt

namespace Chase

/-- A chase that begins. -/
def begin (q : Quest) (w : World Empty β) : Chase :=
  ⟨q, w.now, q.work w, [], none, []⟩

/-- What the pursuit came to, if it is over. -/
def result? (c : Chase) : Option (Except SyncError Unit) :=
  c.work.result?

/-- Enters a turn in the books: the work after it, how the requests asked that were made in it,
and the result of the attempt that ended in it, with whether there was nothing left to pursue. -/
def record (c : Chase) (now : Nat) (work : Work Empty) (asked : List FetchOptions)
    (ending : Option (Except SyncError Unit × Bool)) : Chase :=
  { c with
    work := work
    requests := c.requests ++ asked.map fun o => ⟨c.past.length, o, work.failure?⟩
    current := work.fetching?.map fun o => c.current.getD (now, o)
    past := c.past ++ (ending.bind fun x => c.current.map fun y =>
      ⟨y.1, y.2, now, x.1, x.2⟩).toList }

/-- The chase after a turn in a world. A turn in which the work waits changes nothing, and
neither does one after its end. -/
def turn (f : World.Interject Empty β) (c : Chase) (w : World Empty β) : Chase :=
  match w.stepWork f c.work with
  | some (w', .inl work) =>
    c.record w.now work (w.askedSince w')
      ((w.ending? f c.work).map (·, c.quest.reached w'.replica.stores))
  | _ => c

/-- The chase after turns in some worlds. -/
def course (f : World.Interject Empty β) (c : Chase) (ws : List (World Empty β)) : Chase :=
  ws.foldl (turn f) c

end Chase

/-! ### Steps of a fetch -/

/-- What a step at some moment does with a fetch that asks in some way and may wait for an answer,
where requests may have the failures in `fails`: how it asked in the step, and what it waits for
then or ended in. -/
inductive FetchStep (fails : FetchError → Prop) (now : Nat) (o : FetchOptions) :
    Option (Nat × Option FetchError) → List FetchOptions →
    (FetchOptions × Option (Nat × Option FetchError)) ⊕ Except SyncError Unit → Prop
  | asks {arrival : Nat × Option FetchError} : (∀ e, arrival.2 = some e → fails e) →
      FetchStep fails now o none [o] (.inl (o, some arrival))
  | goesOn {due : Nat} : due ≤ now → FetchStep fails now o (some (due, none)) [] (.inl (o, none))
  | ends {due : Nat} {failure : Option FetchError} {r : Except SyncError Unit} : due ≤ now →
      (∀ e, failure = some e → r = .error e.toSync) →
      FetchStep fails now o (some (due, failure)) [] (.inr r)

theorem FetchStep.mono {fails fails' : FetchError → Prop} {now : Nat} {o : FetchOptions}
    {arrival : Option (Nat × Option FetchError)} {asked : List FetchOptions}
    {y : (FetchOptions × Option (Nat × Option FetchError)) ⊕ Except SyncError Unit}
    (h : FetchStep fails now o arrival asked y) (hfails : ∀ e, fails e → fails' e) :
    FetchStep fails' now o arrival asked y := by
  cases h with
  | asks hfailure => exact .asks fun e he => hfails e (hfailure e he)
  | goesOn hdue => exact .goesOn hdue
  | ends hdue hfailure => exact .ends hdue hfailure

namespace World

variable {f : Interject Empty β} {w w' : World Empty β}

theorem askedSince_of_logs (hrules : w'.ruleLog = w.ruleLog)
    (hsegments : w'.segmentLog = w.segmentLog) : w.askedSince w' = [] := by
  simp [askedSince, hrules, hsegments]

/-- A step of a fetch of rules takes no time, and asks in the way of the fetch. -/
theorem stepRules_aside {c : RuleCall Empty} {x : RuleCall Empty ⊕ Except SyncError Names}
    (h : w.stepRules f c = some (w', x)) :
    w'.now = w.now ∧ w'.onDemand = w.onDemand ∧
      w.askedSince w' = if c.pending.isNone then [c.options] else [] := by
  unfold stepRules at h
  cases hp : c.pending with
  | none =>
    simp only [hp] at h
    split at h
    · cases h
      unfold requestRules
      cases w.ruleReplies <;> simp [askedSince]
    · cases h
  | some a =>
    simp only [hp] at h
    split at h
    · cases h
    rw [interjectAll_empty] at h
    split at h
    · cases h
      exact ⟨rfl, rfl, askedSince_of_logs rfl rfl⟩
    · rename_i r _
      cases h
      cases r <;> exact ⟨rfl, rfl, askedSince_of_logs rfl rfl⟩

theorem stepSegment_aside {c : SegmentCall Empty} {x : SegmentCall Empty ⊕ Except SyncError Unit}
    (h : w.stepSegment f c = some (w', x)) :
    w'.now = w.now ∧ w'.onDemand = w.onDemand ∧
      w.askedSince w' = if c.pending.isNone then [c.options] else [] := by
  unfold stepSegment at h
  cases hp : c.pending with
  | none =>
    simp only [hp] at h
    cases h
    unfold requestSegment
    simp only
    split <;> simp [askedSince]
  | some a =>
    simp only [hp] at h
    split at h
    · cases h
    rw [interjectAll_empty] at h
    cases hr : c.fetch.receive c.name w.replica.stores.segments a.answer with
    | mk s rest =>
      obtain ⟨keys, reception⟩ := rest
      simp only [hr] at h
      rcases reception with fetch | r
      · cases h
        cases keys <;> exact ⟨rfl, rfl, askedSince_of_logs rfl rfl⟩
      · cases h
        cases keys <;> cases r <;> exact ⟨rfl, rfl, askedSince_of_logs rfl rfl⟩

theorem failure_of_requestRules {o : FetchOptions} {a : Pending Empty RuleChanges}
    (h : w.requestRules o = (w', a)) : ∀ e, a.failure? = some e → w.Fails e := by
  intro e he
  have hanswer := Pending.answer_of_failure? he
  unfold requestRules at h
  cases hr : w.ruleReplies with
  | nil =>
    simp only [hr] at h
    cases h
    cases hanswer
  | cons r rest =>
    simp only [hr] at h
    cases h
    exact .inl ⟨r, by simp [hr], _, _, hanswer⟩

theorem exists_requestRules {c : RuleCall Empty} {x : RuleCall Empty ⊕ Except SyncError Names}
    (h : w.stepRules f c = some (w', x)) (hp : c.pending = none) :
    ∃ a, w.requestRules c.options = (w', a) ∧ x = .inl { c with pending := some a } := by
  unfold stepRules at h
  simp only [hp] at h
  split at h
  · cases h
    exact ⟨_, rfl, rfl⟩
  · cases h

theorem failure_of_requestSegment {name : String} {o : FetchOptions}
    {a : Pending Empty SegmentChanges} (h : w.requestSegment name o = (w', a)) :
    ∀ e, a.failure? = some e → w.Fails e := by
  intro e he
  have hanswer := Pending.answer_of_failure? he
  rcases requestSegment_cases h with ⟨-, -, hok⟩ | ⟨r, rest, hr, -, hr'⟩
  · cases hok.symm.trans hanswer
  · exact .inr ⟨name, r, by simp [hr], _, hr'.symm.trans hanswer⟩

/-- **A step of a fetch of rules asks, or takes in an answer.** If the request failed the fetch
ends with that failure. -/
theorem fetchStep_stepRules {c : RuleCall Empty} {x : RuleCall Empty ⊕ Except SyncError Names}
    (h : w.stepRules f c = some (w', x)) :
    FetchStep w.Fails w.now c.options (c.pending.map (·.arrival)) (w.askedSince w')
      (x.map (fun c' => (c'.options, c'.pending.map (·.arrival))) (·.map fun _ => ())) := by
  rw [(stepRules_aside h).2.2]
  rcases stepRules_cases h with ⟨hp, -, -⟩ | ⟨a, s, reception, hp, hdue, hr, -, rfl⟩
  · obtain ⟨a, hreq, rfl⟩ := exists_requestRules h hp
    rw [hp]
    exact .asks (failure_of_requestRules hreq)
  · rw [hp, Option.map_some, Pending.arrival, Pending.failure?]
    cases hanswer : a.answer with
    | error e =>
      rw [hanswer] at hr
      cases hr
      exact .ends hdue fun e' he => by cases he; rfl
    | ok changes =>
      rcases reception with fetch | r
      · exact .goesOn hdue
      · exact .ends hdue nofun

/-- **So does a step of a fetch of a segment.** -/
theorem fetchStep_stepSegment {c : SegmentCall Empty}
    {x : SegmentCall Empty ⊕ Except SyncError Unit} (h : w.stepSegment f c = some (w', x)) :
    FetchStep w.Fails w.now c.options (c.pending.map (·.arrival)) (w.askedSince w')
      (x.map (fun c' => (c'.options, c'.pending.map (·.arrival))) id) := by
  rw [(stepSegment_aside h).2.2]
  rcases stepSegment_cases h with
    ⟨hp, a, hreq, rfl⟩ | ⟨a, s, keys, reception, hp, hdue, hr, -, rfl⟩
  · rw [hp]
    exact .asks (failure_of_requestSegment hreq)
  · rw [hp, Option.map_some, Pending.arrival, Pending.failure?]
    cases hanswer : a.answer with
    | error e =>
      rw [hanswer] at hr
      cases hr
      exact .ends hdue fun e' he => by cases he; rfl
    | ok changes =>
      rcases reception with fetch | r
      · exact .goesOn hdue
      · exact .ends hdue nofun

/-- A fetch that waits for an answer goes on as soon as the answer is there. -/
theorem isSome_stepRules {c : RuleCall Empty} {a : Pending Empty RuleChanges}
    (hp : c.pending = some a) : (w.stepRules f c).isSome = true ↔ a.due ≤ w.now := by
  unfold stepRules
  simp only [hp]
  by_cases hdue : w.now < a.due
  · simp [hdue]
  · rw [if_neg hdue]
    split <;> simp [Nat.not_lt.mp hdue]

theorem isSome_stepSegment {c : SegmentCall Empty} {a : Pending Empty SegmentChanges}
    (hp : c.pending = some a) : (w.stepSegment f c).isSome = true ↔ a.due ≤ w.now := by
  unfold stepSegment
  simp only [hp]
  by_cases hdue : w.now < a.due
  · simp [hdue]
  · rw [if_neg hdue]
    split <;> simp [Nat.not_lt.mp hdue]

end World

/-! ### Stages -/

/-- Where a pursuit stands, of whichever kind it is. -/
inductive Stage where
  /-- The next attempt begins at some moment. -/
  | idle (p : Pursuit) (wake : Nat)
  /-- An attempt is under way, and maybe a request with an answer that will arrive. -/
  | busy (p : Pursuit) (options : FetchOptions) (arrival : Option (Nat × Option FetchError))
  | ended (r : Except SyncError Unit)

namespace Stage

/-- The stage after a move. -/
def after (now : Nat) : Pursuit.Move → Stage
  | .fetch p => idle p now
  | .wait ms p => idle p (now + ms)
  | .stop r => ended r

/-- How the attempt that is under way asks. -/
def fetching? : Stage → Option FetchOptions
  | busy _ o _ => some o
  | _ => none

@[simp] theorem fetching?_after (now : Nat) (m : Pursuit.Move) :
    (after now m).fetching? = none := by
  cases m <;> rfl

/-- The failure that the request under way will be answered with. -/
def failure? : Stage → Option FetchError
  | busy _ _ (some arrival) => arrival.2
  | _ => none

/-- When a turn is due. -/
def due : Stage → List Nat
  | idle _ wake => [wake]
  | busy _ _ arrival => arrival.toList.map (·.1)
  | ended _ => []

/-- The result of a pursuit that is over. -/
def result? : Stage → Option (Except SyncError Unit)
  | ended r => some r
  | _ => none

theorem eq_ended_of_result? {stage : Stage} {r : Except SyncError Unit}
    (h : stage.result? = some r) : stage = ended r := by
  cases stage with
  | ended r' => rw [Option.some.inj h]
  | _ => cases h

/-- What a turn at some moment makes of a stage, where requests may have the failures in
`fails`. The options are those of the requests that are made in the turn; with them stands the
result of the attempt that ends in it, and whether there is nothing left to pursue then. -/
inductive Turn (settings : OnDemandSettings) (fails : FetchError → Prop)
    (till : Option ChangeNumber) (now : Nat) :
    Stage → List FetchOptions → Option (Except SyncError Unit × Bool) → Stage → Prop
  | begins {p : Pursuit} {wake : Nat} : wake ≤ now →
      Turn settings fails till now (idle p wake) [] none (busy p (p.options till) none)
  | fetches {p : Pursuit} {o o' : FetchOptions}
      {arrival arrival' : Option (Nat × Option FetchError)}
      {asked : List FetchOptions} : FetchStep fails now o arrival asked (.inl (o', arrival')) →
      Turn settings fails till now (busy p o arrival) asked none (busy p o' arrival')
  | ends {p : Pursuit} {o : FetchOptions} {arrival : Option (Nat × Option FetchError)}
      {asked : List FetchOptions} {r : Except SyncError Unit} {reached : Bool} :
      FetchStep fails now o arrival asked (.inr r) →
      Turn settings fails till now (busy p o arrival) asked (some (r, reached))
        (after now (p.next settings r reached))

theorem Turn.mono {settings : OnDemandSettings} {fails fails' : FetchError → Prop}
    {till : Option ChangeNumber} {now : Nat} {stage stage' : Stage} {asked : List FetchOptions}
    {ending : Option (Except SyncError Unit × Bool)}
    (h : Turn settings fails till now stage asked ending stage')
    (hfails : ∀ e, fails e → fails' e) :
    Turn settings fails' till now stage asked ending stage' := by
  cases h with
  | begins hwake => exact .begins hwake
  | fetches hstep => exact .fetches (hstep.mono hfails)
  | ends hstep => exact .ends (hstep.mono hfails)

end Stage

/-- Whether work that pursues something is at a stage. -/
inductive Quest.Shows : Quest → Work Empty → Stage → Prop
  | rulesIdle {p : RulePursuit Empty} : p.call = none →
      Shows (.rules p.target) (.pursueRules p) (.idle p.pursuit p.wake)
  | rulesBusy {p : RulePursuit Empty} {c : RuleCall Empty} : p.call = some c →
      Shows (.rules p.target) (.pursueRules p)
        (.busy p.pursuit c.options (c.pending.map (·.arrival)))
  | segmentIdle {p : SegmentPursuit Empty} : p.call = none →
      Shows (.segment p.name p.target) (.pursueSegment p) (.idle p.pursuit p.wake)
  | segmentBusy {p : SegmentPursuit Empty} {c : SegmentCall Empty} : p.call = some c →
      Shows (.segment p.name p.target) (.pursueSegment p)
        (.busy p.pursuit c.options (c.pending.map (·.arrival)))
  | ended {q : Quest} {r : Except SyncError Names} :
      Shows q (.settled r) (.ended (r.map fun _ => ()))

namespace Quest

variable {q : Quest} {work : Work Empty} {stage : Stage} {w w' : World Empty β}
  {f : World.Interject Empty β}

theorem Shows.fetching?_eq (h : q.Shows work stage) : work.fetching? = stage.fetching? := by
  cases h with
  | ended => rfl
  | _ hc =>
    simp only [Work.fetching?, hc]
    rfl

theorem Shows.failure?_eq (h : q.Shows work stage) : work.failure? = stage.failure? := by
  cases h with
  | ended => rfl
  | rulesIdle hc => simp only [Work.failure?, hc]; rfl
  | segmentIdle hc => simp only [Work.failure?, hc]; rfl
  | @rulesBusy p c hc =>
    simp only [Work.failure?, hc]
    cases hp : c.pending <;> simp [hp, Stage.failure?, Pending.arrival]
  | @segmentBusy p c hc =>
    simp only [Work.failure?, hc]
    cases hp : c.pending <;> simp [hp, Stage.failure?, Pending.arrival]

theorem Shows.due_eq (h : q.Shows work stage) : work.due = stage.due := by
  cases h with
  | ended => rfl
  | rulesIdle hc => simp only [Work.due, hc]; rfl
  | segmentIdle hc => simp only [Work.due, hc]; rfl
  | @rulesBusy p c hc =>
    simp only [Work.due, hc]
    cases c.pending <;> rfl
  | @segmentBusy p c hc =>
    simp only [Work.due, hc]
    cases c.pending <;> rfl

theorem Shows.settled_of_ended {r : Except SyncError Unit} (h : q.Shows work (.ended r)) :
    ∃ r', work = .settled r' := by
  generalize hstage : Stage.ended r = stage at h
  cases h with
  | ended => exact ⟨_, rfl⟩
  | _ => cases hstage

theorem Shows.result?_eq (h : q.Shows work stage) : work.result? = stage.result? := by
  cases h <;> rfl

theorem shows_moveRules (p : RulePursuit Empty) (m : Pursuit.Move) :
    Shows (.rules p.target) (w.moveRules p m).2 (.after w.now m) := by
  cases m with
  | fetch pursuit =>
    exact .rulesIdle (p := { p with pursuit := pursuit, call := none, wake := w.now }) rfl
  | wait ms pursuit =>
    exact .rulesIdle (p := { p with pursuit := pursuit, call := none, wake := w.now + ms }) rfl
  | stop r =>
    cases r with
    | ok u => exact .ended (r := .ok p.referenced)
    | error e => exact .ended (r := .error e)

theorem shows_moveSegment (p : SegmentPursuit Empty) (m : Pursuit.Move) :
    Shows (.segment p.name p.target) (w.moveSegment p m) (.after w.now m) := by
  cases m with
  | fetch pursuit =>
    exact .segmentIdle (p := { p with pursuit := pursuit, call := none, wake := w.now }) rfl
  | wait ms pursuit =>
    exact .segmentIdle (p := { p with pursuit := pursuit, call := none, wake := w.now + ms }) rfl
  | stop r =>
    cases r with
    | ok u => exact .ended (r := .ok Names.empty)
    | error e => exact .ended (r := .error e)

/-- **A pursuit begins with the first move of the plan.** -/
theorem shows_begin (q : Quest) (w : World Empty β) :
    q.Shows (q.work w) (.after w.now (Pursuit.start w.onDemand (q.reached w.replica.stores))) := by
  cases q with
  | rules t => exact shows_moveRules ⟨t, Names.empty, .atPhase w.onDemand false, none, w.now⟩ _
  | segment name target =>
    exact shows_moveSegment ⟨name, target, .atPhase w.onDemand false, none, w.now⟩ _

/-- A step of the pursuit of rules is a turn of its stage. -/
theorem turn_stepRulePursuit {p : RulePursuit Empty} (hshows : q.Shows (.pursueRules p) stage)
    (h : w.stepRulePursuit f p = some (w', work)) :
    ∃ stage', q.Shows work stage' ∧ stage.Turn w.onDemand w.Fails q.till w.now (w.askedSince w')
      ((w.ending? f (.pursueRules p)).map (·, q.reached w'.replica.stores)) stage' := by
  cases hshows with
  | rulesIdle hp =>
    unfold World.stepRulePursuit at h
    simp only [hp] at h
    split at h
    · cases h
    · rename_i hwake
      cases h
      have hasked : w.askedSince (w.startRules (p.pursuit.options p.target.till)).1 = [] :=
        World.askedSince_of_logs rfl rfl
      have hending : w.ending? f (.pursueRules p) = none := by
        rw [World.ending?, hp]
        rfl
      rw [hasked, hending]
      exact ⟨_, .rulesBusy (p := { p with call := some _ }) rfl, .begins (Nat.not_lt.mp hwake)⟩
  | @rulesBusy _ c hp =>
    rcases World.stepRulePursuit_cases h with ⟨hnone, -⟩ | ⟨c₁, c', hc₁, hs, rfl⟩ |
      ⟨c₁, r, hc₁, hs, rfl⟩
    · cases hnone.symm.trans hp
    · cases hc₁.symm.trans hp
      have hending : w.ending? f (.pursueRules p) = none := by
        rw [World.ending?, hp, Option.bind_some, hs]
      rw [hending]
      exact ⟨_, .rulesBusy (p := { p with call := some c' }) rfl,
        .fetches (World.fetchStep_stepRules hs)⟩
    · cases hc₁.symm.trans hp
      have hending : w.ending? f (.pursueRules p) = some (r.map fun _ => ()) := by
        rw [World.ending?, hp, Option.bind_some, hs]
      obtain ⟨hnow, hsettings, -⟩ := World.stepRules_aside hs
      have hstep := World.fetchStep_stepRules hs
      rw [hending, ← hsettings]
      rw [← hnow] at hstep ⊢
      refine ⟨_, ?_, .ends hstep⟩
      cases r with
      | ok names => exact shows_moveRules { p with referenced := p.referenced.union names } _
      | error e => exact shows_moveRules p _

theorem turn_stepSegmentPursuit {p : SegmentPursuit Empty}
    (hshows : q.Shows (.pursueSegment p) stage) (h : w.stepSegmentPursuit f p = some (w', work)) :
    ∃ stage', q.Shows work stage' ∧ stage.Turn w.onDemand w.Fails q.till w.now (w.askedSince w')
      ((w.ending? f (.pursueSegment p)).map (·, q.reached w'.replica.stores)) stage' := by
  cases hshows with
  | segmentIdle hp =>
    unfold World.stepSegmentPursuit at h
    simp only [hp] at h
    split at h
    · cases h
    · rename_i hwake
      cases h
      have hasked : w.askedSince w = [] := World.askedSince_of_logs rfl rfl
      have hending : w.ending? f (.pursueSegment p) = none := by
        rw [World.ending?, hp]
        rfl
      rw [hasked, hending]
      exact ⟨_, .segmentBusy (p := { p with call := some _ }) rfl, .begins (Nat.not_lt.mp hwake)⟩
  | @segmentBusy _ c hp =>
    rcases World.stepSegmentPursuit_cases h with ⟨hnone, -⟩ | ⟨c₁, c', hc₁, hs, rfl⟩ |
      ⟨c₁, r, hc₁, hs, rfl⟩
    · cases hnone.symm.trans hp
    · cases hc₁.symm.trans hp
      have hending : w.ending? f (.pursueSegment p) = none := by
        rw [World.ending?, hp, Option.bind_some, hs]
      rw [hending]
      exact ⟨_, .segmentBusy (p := { p with call := some c' }) rfl,
        .fetches (World.fetchStep_stepSegment hs)⟩
    · cases hc₁.symm.trans hp
      have hending : w.ending? f (.pursueSegment p) = some r := by
        rw [World.ending?, hp, Option.bind_some, hs]
      obtain ⟨hnow, hsettings, -⟩ := World.stepSegment_aside hs
      have hstep := World.fetchStep_stepSegment hs
      rw [hending, ← hsettings]
      rw [← hnow] at hstep ⊢
      exact ⟨_, shows_moveSegment p _, .ends hstep⟩

/-- **Both pursuits take their turns in the same way.** -/
theorem Shows.turn (hshows : q.Shows work stage) {x : Work Empty ⊕ Except SyncError Names}
    (h : w.stepWork f work = some (w', x)) :
    (∃ r, stage = .ended r) ∨ ∃ work' stage', x = .inl work' ∧ q.Shows work' stage' ∧
      stage.Turn w.onDemand w.Fails q.till w.now (w.askedSince w')
        ((w.ending? f work).map (·, q.reached w'.replica.stores)) stage' := by
  cases World.workStep_of_stepWork h with
  | settled =>
    cases hshows
    exact .inl ⟨_, rfl⟩
  | rules _ => cases hshows
  | rulesOver _ => cases hshows
  | segment _ => cases hshows
  | segmentOver _ => cases hshows
  | pursueRules hp =>
    obtain ⟨stage', hshown, hturn⟩ := turn_stepRulePursuit hshows hp
    exact .inr ⟨_, stage', rfl, hshown, hturn⟩
  | pursueSegment hp =>
    obtain ⟨stage', hshown, hturn⟩ := turn_stepSegmentPursuit hshows hp
    exact .inr ⟨_, stage', rfl, hshown, hturn⟩

/-- While no attempt is under way a pursuit waits for its time, and for nothing else. -/
theorem Shows.isSome_idle {p : Pursuit} {wake : Nat} (hshows : q.Shows work (.idle p wake)) :
    (w.stepWork f work).isSome = true ↔ wake ≤ w.now := by
  rw [← Nat.not_lt]
  cases hshows with
  | @rulesIdle p hp =>
    simp only [World.stepWork, World.stepRulePursuit, hp, Option.isSome_map]
    by_cases hwake : w.now < p.wake <;> simp [hwake]
  | @segmentIdle p hp =>
    simp only [World.stepWork, World.stepSegmentPursuit, hp, Option.isSome_map]
    by_cases hwake : w.now < p.wake <;> simp [hwake]

/-- While a request is under way it waits for the answer, and for nothing else. -/
theorem Shows.isSome_waiting {p : Pursuit} {o : FetchOptions} {due : Nat}
    {failure : Option FetchError} (hshows : q.Shows work (.busy p o (some (due, failure)))) :
    (w.stepWork f work).isSome = true ↔ due ≤ w.now := by
  generalize hstage : Stage.busy p o (some (due, failure)) = stage at hshows
  cases hshows with
  | rulesIdle => cases hstage
  | segmentIdle => cases hstage
  | ended => cases hstage
  | @rulesBusy p c hp =>
    obtain ⟨a, ha, harrival⟩ := Option.map_eq_some_iff.mp (Stage.busy.inj hstage).2.2.symm
    obtain rfl : a.due = due := congrArg Prod.fst harrival
    rw [← World.isSome_stepRules (f := f) ha]
    simp only [World.stepWork, World.stepRulePursuit, hp, Option.isSome_map]
    cases w.stepRules f c with
    | none => rfl
    | some y => rcases y with ⟨w', c' | r⟩ <;> rfl
  | @segmentBusy p c hp =>
    obtain ⟨a, ha, harrival⟩ := Option.map_eq_some_iff.mp (Stage.busy.inj hstage).2.2.symm
    obtain rfl : a.due = due := congrArg Prod.fst harrival
    rw [← World.isSome_stepSegment (f := f) ha]
    simp only [World.stepWork, World.stepSegmentPursuit, hp, Option.isSome_map]
    cases w.stepSegment f c with
    | none => rfl
    | some y => rcases y with ⟨w', c' | r⟩ <;> rfl

end Quest

/-! ### Turns of a chase -/

namespace Chase

variable {c : Chase} {stage : Stage} {w : World Empty β} {f : World.Interject Empty β}

theorem record_begins {now : Nat} {work : Work Empty} {o : FetchOptions}
    (hcurrent : c.current = none) (hwork : work.fetching? = some o) :
    c.record now work [] none = { c with work := work, current := some (now, o) } := by
  simp [record, hcurrent, hwork]

theorem record_asks {now begun : Nat} {work : Work Empty} {o : FetchOptions}
    (hcurrent : c.current = some (begun, o)) (hwork : work.fetching? = some o) :
    c.record now work [o] none =
      { c with
        work := work
        requests := c.requests ++ [⟨c.past.length, o, work.failure?⟩] } := by
  simp [record, hcurrent, hwork]

theorem record_goesOn {now begun : Nat} {work : Work Empty} {o : FetchOptions}
    (hcurrent : c.current = some (begun, o)) (hwork : work.fetching? = some o) :
    c.record now work [] none = { c with work := work } := by
  simp [record, hcurrent, hwork]

theorem record_ends {now begun : Nat} {work : Work Empty} {o : FetchOptions}
    {r : Except SyncError Unit} {reached : Bool} (hcurrent : c.current = some (begun, o))
    (hwork : work.fetching? = none) :
    c.record now work [] (some (r, reached)) =
      { c with
        work := work
        current := none
        past := c.past ++ [⟨begun, o, now, r, reached⟩] } := by
  simp [record, hcurrent, hwork]

/-- A turn leaves a chase as it is, or it is entered as a turn of the stage. -/
theorem turn_cases (hshows : c.quest.Shows c.work stage) :
    (c.turn f w = c ∧ (w.stepWork f c.work = none ∨ ∃ r, stage = .ended r)) ∨
    ∃ work asked ending stage', c.turn f w = c.record w.now work asked ending ∧
      c.quest.Shows work stage' ∧
      stage.Turn w.onDemand w.Fails c.quest.till w.now asked ending stage' := by
  unfold turn
  cases hs : w.stepWork f c.work with
  | none => exact .inl ⟨rfl, .inl rfl⟩
  | some y =>
    obtain ⟨w', x⟩ := y
    rcases hshows.turn hs with ⟨r, hover⟩ | ⟨work', stage', rfl, hshown, hturn⟩
    · rw [hover] at hshows
      obtain ⟨r', hsettled⟩ := hshows.settled_of_ended
      rw [hsettled] at hs
      cases hs
      exact .inl ⟨rfl, .inr ⟨r, hover⟩⟩
    · exact .inr ⟨work', _, _, stage', rfl, hshown, hturn⟩

theorem exists_shows_turn (hshows : c.quest.Shows c.work stage) (w : World Empty β) :
    ∃ stage', (c.turn f w).quest.Shows (c.turn f w).work stage' := by
  rcases turn_cases (f := f) (w := w) hshows with ⟨hsame, -⟩ |
    ⟨work, asked, ending, stage', hrec, hshown, -⟩
  · rw [hsame]
    exact ⟨stage, hshows⟩
  · rw [hrec]
    exact ⟨stage', hshown⟩

theorem course_cons (c : Chase) (w : World Empty β) (ws : List (World Empty β)) :
    c.course f (w :: ws) = (c.turn f w).course f ws := rfl

/-- **What entering a turn of a stage keeps holds after every course of events.** -/
theorem course_induction {settings : OnDemandSettings} {fails : FetchError → Prop}
    {P : Chase → Stage → Prop}
    (hrecord : ∀ (c : Chase) (stage stage' : Stage) (now : Nat) (work : Work Empty)
      (asked : List FetchOptions) (ending : Option (Except SyncError Unit × Bool)),
      P c stage → c.quest.Shows work stage' →
      stage.Turn settings fails c.quest.till now asked ending stage' →
      P (c.record now work asked ending) stage') :
    ∀ (ws : List (World Empty β)),
      (∀ v ∈ ws, v.onDemand = settings ∧ ∀ e, v.Fails e → fails e) →
      ∀ {c : Chase} {stage : Stage}, c.quest.Shows c.work stage → P c stage →
      ∃ stage', (c.course f ws).quest.Shows (c.course f ws).work stage' ∧
        P (c.course f ws) stage'
  | [], _, _, stage, hshows, hP => ⟨stage, hshows, hP⟩
  | w :: ws, hws, c, stage, hshows, hP => by
    obtain ⟨hw, hrest⟩ := List.forall_mem_cons.mp hws
    rw [course_cons]
    rcases turn_cases (f := f) (w := w) hshows with ⟨hsame, -⟩ |
      ⟨work, asked, ending, stage', hrec, hshown, hturn⟩
    · rw [hsame]
      exact course_induction hrecord ws hrest hshows hP
    · have hturn' := hturn.mono hw.2
      rw [hw.1] at hturn'
      rw [hrec]
      exact course_induction hrecord ws hrest hshown (hrecord _ _ _ _ _ _ _ hP hshown hturn')

theorem quest_turn (c : Chase) (w : World Empty β) : (c.turn f w).quest = c.quest := by
  unfold turn
  split <;> rfl

theorem begun_turn (c : Chase) (w : World Empty β) : (c.turn f w).begun = c.begun := by
  unfold turn
  split <;> rfl

@[simp] theorem quest_course (c : Chase) (ws : List (World Empty β)) :
    (c.course f ws).quest = c.quest :=
  List.foldlRecOn (motive := fun d : Chase => d.quest = c.quest) ws _ rfl
    fun d hd w _ => (quest_turn d w).trans hd

@[simp] theorem begun_course (c : Chase) (ws : List (World Empty β)) :
    (c.course f ws).begun = c.begun :=
  List.foldlRecOn (motive := fun d : Chase => d.begun = c.begun) ws _ rfl
    fun d hd w _ => (begun_turn d w).trans hd

theorem course_of_settled {r : Except SyncError Names} (h : c.work = .settled r)
    (ws : List (World Empty β)) : c.course f ws = c := by
  refine List.foldlRecOn (motive := fun d : Chase => d = c) ws _ rfl ?_
  intro d hd w _
  rw [hd]
  unfold turn
  rw [h]
  rfl

end Chase

end Halyard.Virtual

/-
# The core of a world

Of all that a world consists of, what synchronisation does to the stores
depends on a few parts only: the stores, the registered segments, the filter,
the replies to come, and the work under way in each seat. This core is what
invariants are stated about. Logs, telemetry, timers, tickets and queues are
outside of it, so most of what a task does leaves the core as it is.

Nothing interjects here: with `Empty` as the type of interjections a world
changes by the turns of its tasks alone.

Key definitions: `Seat`, `Core`, `World.core`, `Core.seat`, `World.WorkStep`.
Key theorems: `World.stepRules_cases`, `World.stepSegment_cases`,
`World.workStep_of_stepWork`, `World.core_stepWork`.
-/
import Halyard.Virtual.Clock

namespace Halyard.Virtual

open Push

variable {ρ β : Type}

/-- Where work is done: at the front, by a segment worker, by the poll of flags, or by
the worker for rules. -/
inductive Seat where
  | front
  | worker (i : Nat)
  | poll
  | rules
deriving DecidableEq

/-- What a worker is busy with. -/
def Worker.work? : Worker ρ → Option (Work ρ)
  | .busy _ work => some work
  | _ => none

/-- What the worker for rules is busy with. -/
def RuleWorker.work? : RuleWorker ρ → Option (Work ρ)
  | .busy work => some work
  | _ => none

/-- The part of a world that invariants are about. -/
structure Core (ρ : Type) where
  stores : Stores
  registry : Registry
  filter : Names
  shutdown : Bool
  replies : Dict (List (SegmentReply ρ))
  work : Seat → Option (Work ρ)

/-- The core with other work in a seat. -/
def Core.seat (c : Core ρ) (s : Seat) (work : Option (Work ρ)) : Core ρ :=
  { c with work := fun t => if t = s then work else c.work t }

@[simp] theorem Core.work_seat_self (c : Core ρ) (s : Seat) (work : Option (Work ρ)) :
    (c.seat s work).work s = work := by
  simp only [seat, if_true]

theorem Core.work_seat_ne (c : Core ρ) {s t : Seat} (work : Option (Work ρ)) (h : t ≠ s) :
    (c.seat s work).work t = c.work t := by
  simp only [seat, if_neg h]

namespace World

variable {w : World ρ β}

/-- What is done in a seat. -/
def workAt (w : World ρ β) : Seat → Option (Work ρ)
  | .front => w.front
  | .worker i => w.workers[i]?.bind Worker.work?
  | .poll => w.polling.bind fun p => p.flags.body
  | .rules => w.ruleWorker.work?

/-- The core of a world. -/
def core (w : World ρ β) : Core ρ where
  stores := w.replica.stores
  registry := w.replica.registry
  filter := w.filter
  shutdown := w.shutdown
  replies := w.segmentReplies
  work := w.workAt

/-! ### What is outside of the core -/

@[simp] theorem core_startRules (options : FetchOptions) : (w.startRules options).1.core = w.core :=
  rfl

@[simp] theorem core_mark (r : Resource) : (w.mark r).1.core = w.core := rfl

@[simp] theorem core_enqueueSegment (job : SegmentJob) :
    (w.enqueueSegment job).1.core = w.core := by
  unfold enqueueSegment
  split <;> rfl

@[simp] theorem core_enqueueRules (t : FetchTarget) : (w.enqueueRules t).1.core = w.core := by
  unfold enqueueRules
  split <;> rfl

@[simp] theorem core_enqueue : ∀ (jobs : List FetchJob) (w : World ρ β),
    (w.enqueue jobs).core = w.core
  | [], _ => rfl
  | job :: jobs, w => by
    rw [enqueue, List.foldl_cons]
    refine (core_enqueue jobs _).trans ?_
    cases job with
    | rules t => exact core_enqueueRules t
    | segment name till => exact core_enqueueSegment _

@[simp] theorem core_enqueueAwaited (name : String) : (w.enqueueAwaited name).1.core = w.core := by
  rw [enqueueAwaited]
  exact core_enqueueSegment _

@[simp] theorem core_enqueueSweep : w.enqueueSweep.1.core = w.core := by
  refine List.foldlRecOn (motive := fun x : World ρ β × List Nat => x.1.core = w.core)
    _ _ rfl ?_
  intro x hx name _
  exact (core_enqueueAwaited name).trans hx

@[simp] theorem core_release (ticket : Option Nat) : (w.release ticket).core = w.core := by
  cases ticket <;> rfl

@[simp] theorem core_recordFetch {α : Type} (resource : String) (r : Except SyncError α) :
    (w.recordFetch resource r).core = w.core := by
  cases r <;> rfl

@[simp] theorem core_resolve (job : SegmentJob) (r : Except SyncError Unit) :
    (w.resolve job r).core = w.core := by
  unfold resolve
  split <;> rfl

@[simp] theorem core_publish (s : PushStatus) : (w.publish s).core = w.core := by
  unfold publish
  split <;> rfl

@[simp] theorem core_countLost (n : Notification) : (w.countLost n).core = w.core := by
  unfold countLost
  split <;> rfl

@[simp] theorem core_requestRules (options : FetchOptions) :
    (w.requestRules options).1.core = w.core := by
  unfold requestRules
  simp only
  split <;> rfl

/-! ### Writes to the core -/

@[simp] theorem core_setStores (s : Stores) :
    (w.setStores s).core = { w.core with stores := s } := rfl

@[simp] theorem core_track (names : Names) :
    (w.track names).core =
      { w.core with registry := (w.core.registry.register names.toList).1 } := by
  rw [track]
  exact core_enqueue _ _

theorem core_dispatch (n : Notification) :
    (w.dispatch n).core =
      { w.core with
        stores := (w.replica.dispatch w.filter w.rulesBusy n).1.stores
        registry := (w.replica.dispatch w.filter w.rulesBusy n).1.registry } := by
  rw [dispatch]
  exact core_enqueue _ _

theorem core_front (work : Option (Work ρ)) :
    { w with front := work }.core = w.core.seat .front work := by
  have h : { w with front := work }.workAt =
      fun t => if t = .front then work else w.workAt t := by
    funext t
    cases t <;> rfl
  simp only [core, Core.seat, h]

theorem core_ruleWorker (x : RuleWorker ρ) :
    { w with ruleWorker := x }.core = w.core.seat .rules x.work? := by
  have h : { w with ruleWorker := x }.workAt =
      fun t => if t = .rules then x.work? else w.workAt t := by
    funext t
    cases t <;> rfl
  simp only [core, Core.seat, h]

theorem core_polling (p : Polling ρ) :
    { w with polling := some p }.core = w.core.seat .poll p.flags.body := by
  have h : { w with polling := some p }.workAt =
      fun t => if t = .poll then p.flags.body else w.workAt t := by
    funext t
    cases t <;> rfl
  simp only [core, Core.seat, h]

theorem core_setWorker {i : Nat} (hlt : i < w.workers.length) (y : Worker ρ) :
    (w.setWorker i y).core = w.core.seat (.worker i) y.work? := by
  have h : (w.setWorker i y).workAt = fun t => if t = .worker i then y.work? else w.workAt t := by
    funext t
    cases t with
    | worker j =>
      simp only [workAt, setWorker, List.getElem?_set, Seat.worker.injEq]
      by_cases hij : i = j
      · subst hij
        simp [hlt]
      · simp [hij, Ne.symm hij]
    | _ => rfl
  simp only [core, Core.seat, ← h]
  rfl

/-- There is a worker where work is done. -/
theorem lt_of_work {i : Nat} {work : Work ρ} (h : w.core.work (.worker i) = some work) :
    i < w.workers.length := by
  have hb : w.workers[i]?.bind Worker.work? = some work := h
  cases hi : w.workers[i]? with
  | none => simp [hi] at hb
  | some x => exact (List.getElem?_eq_some_iff.mp hi).1

/-- A seat that keeps its work. -/
theorem seat_self (c : Core ρ) (s : Seat) : c.seat s (c.work s) = c := by
  have h : (fun t => if t = s then c.work s else c.work t) = c.work := by
    funext t
    by_cases ht : t = s
    · rw [if_pos ht, ht]
    · rw [if_neg ht]
  rw [Core.seat, h]

end World

/-! ### One step of work -/

namespace World

variable {f : Interject Empty β} {w w' : World Empty β}

theorem interjectAll_empty (is : List Empty) : w.interjectAll f is = w := by
  cases is with
  | nil => rfl
  | cons i _ => exact i.elim

/-- A step of a fetch of rules makes a request, or takes in the answer. -/
theorem stepRules_cases {c : RuleCall Empty} {x : RuleCall Empty ⊕ Except SyncError Names}
    (h : w.stepRules f c = some (w', x)) :
    (c.pending = none ∧ w'.core = w.core ∧ ∃ a, x = .inl { c with pending := some a }) ∨
    ∃ a s reception, c.pending = some a ∧ a.due ≤ w.now ∧
      c.fetch.receive w.filter w.replica.stores a.answer = (s, reception) ∧
      w'.core = { w.core with stores := s } ∧
      x = match reception with
        | .again fetch => .inl { c with fetch := fetch, pending := none }
        | .over r => .inr r := by
  unfold stepRules at h
  cases hp : c.pending with
  | none =>
    simp only [hp] at h
    split at h
    · cases h
      exact .inl ⟨rfl, core_requestRules _, _, rfl⟩
    · cases h
  | some a =>
    simp only [hp] at h
    split at h
    · cases h
    rename_i hdue
    rw [interjectAll_empty] at h
    cases hr : c.fetch.receive w.filter w.replica.stores a.answer with
    | mk s reception =>
      simp only [hr] at h
      refine .inr ⟨a, s, reception, rfl, Nat.not_lt.mp hdue, hr, ?_⟩
      rcases reception with fetch | r
      · cases h
        exact ⟨core_setStores s, rfl⟩
      · cases h
        rw [core_recordFetch, core_release]
        exact ⟨core_setStores s, rfl⟩

/-- A step of a fetch of a segment makes a request, or takes in the answer. -/
theorem stepSegment_cases {c : SegmentCall Empty} {x : SegmentCall Empty ⊕ Except SyncError Unit}
    (h : w.stepSegment f c = some (w', x)) :
    (c.pending = none ∧ ∃ a, w.requestSegment c.name c.options = (w', a) ∧
      x = .inl { c with pending := some a }) ∨
    ∃ a s keys reception, c.pending = some a ∧ a.due ≤ w.now ∧
      c.fetch.receive c.name w.replica.stores.segments a.answer = (s, keys, reception) ∧
      w'.core = { w.core with stores := { w.replica.stores with segments := s } } ∧
      x = match reception with
        | .again fetch => .inl { c with fetch := fetch, pending := none }
        | .over r => .inr r := by
  unfold stepSegment at h
  cases hp : c.pending with
  | none =>
    simp only [hp] at h
    cases h
    exact .inl ⟨rfl, _, rfl, rfl⟩
  | some a =>
    simp only [hp] at h
    split at h
    · cases h
    rename_i hdue
    rw [interjectAll_empty] at h
    cases hr : c.fetch.receive c.name w.replica.stores.segments a.answer with
    | mk s rest =>
      obtain ⟨keys, reception⟩ := rest
      simp only [hr] at h
      refine .inr ⟨a, s, keys, reception, rfl, Nat.not_lt.mp hdue, hr, ?_⟩
      rcases reception with fetch | r
      · cases h
        refine ⟨?_, rfl⟩
        cases keys <;> rfl
      · cases h
        refine ⟨?_, rfl⟩
        rw [core_recordFetch]
        cases keys <;> rfl

/-- A request for a segment takes the next reply, or is answered that nothing is new. -/
theorem requestSegment_cases {name : String} {options : FetchOptions}
    {a : Pending Empty SegmentChanges} (h : w.requestSegment name options = (w', a)) :
    ((w.segmentReplies.get? name).getD [] = [] ∧ w'.core = w.core ∧
      a.answer = .ok (nothingNewIn name (w.replica.stores.segments.watermark name))) ∨
    ∃ r rest, (w.segmentReplies.get? name).getD [] = r :: rest ∧
      w'.core = { w.core with replies := w.segmentReplies.insert name rest } ∧
      a.answer = r.answer (w.replica.stores.segments.watermark name) := by
  unfold requestSegment at h
  simp only at h
  split at h
  · rename_i hr
    cases h
    exact .inl ⟨hr, rfl, rfl⟩
  · rename_i r rest hr
    cases h
    exact .inr ⟨r, rest, hr, rfl, rfl⟩

theorem moveRules_fst (p : RulePursuit Empty) (m : Pursuit.Move) : (w.moveRules p m).1 = w := by
  cases m with
  | stop r => cases r <;> rfl
  | _ => rfl

/-- A step of a pursuit of rules begins a fetch, goes on with it, or decides what follows it. -/
theorem stepRulePursuit_cases {p : RulePursuit Empty} {work : Work Empty}
    (h : w.stepRulePursuit f p = some (w', work)) :
    (p.call = none ∧ w'.core = w.core ∧ ∃ c : RuleCall Empty, c.fetch = .start ∧
      work = .pursueRules { p with call := some c }) ∨
    (∃ c c', p.call = some c ∧ w.stepRules f c = some (w', .inl c') ∧
      work = .pursueRules { p with call := some c' }) ∨
    ∃ c r, p.call = some c ∧ w.stepRules f c = some (w', .inr r) ∧
      work = (w'.moveRules
        (match r with
          | .ok names => { p with referenced := p.referenced.union names }
          | .error _ => p)
        (p.pursuit.next w'.onDemand (r.map fun _ => ())
          (p.target.reached w'.replica.stores))).2 := by
  unfold stepRulePursuit at h
  cases hp : p.call with
  | none =>
    simp only [hp] at h
    split at h
    · cases h
    · cases h
      exact .inl ⟨rfl, core_startRules _, _, rfl, rfl⟩
  | some c =>
    simp only [hp] at h
    cases hs : w.stepRules f c with
    | none => simp [hs] at h
    | some y =>
      obtain ⟨w₁, c' | r⟩ := y
      · simp only [hs] at h
        cases h
        exact .inr (.inl ⟨c, c', rfl, hs, rfl⟩)
      · simp only [hs, Option.some.injEq] at h
        have hw : w₁ = w' := (moveRules_fst _ _).symm.trans (congrArg Prod.fst h)
        subst hw
        refine .inr (.inr ⟨c, r, rfl, hs, ?_⟩)
        cases r <;> exact (congrArg Prod.snd h).symm

/-- A step of a pursuit of a segment begins a fetch, goes on with it, or decides what follows
it. -/
theorem stepSegmentPursuit_cases {p : SegmentPursuit Empty} {work : Work Empty}
    (h : w.stepSegmentPursuit f p = some (w', work)) :
    (p.call = none ∧ w'.core = w.core ∧ ∃ c : SegmentCall Empty, c.pending = none ∧
      work = .pursueSegment { p with call := some c }) ∨
    (∃ c c', p.call = some c ∧ w.stepSegment f c = some (w', .inl c') ∧
      work = .pursueSegment { p with call := some c' }) ∨
    ∃ c r, p.call = some c ∧ w.stepSegment f c = some (w', .inr r) ∧
      work = w'.moveSegment p (p.pursuit.next w'.onDemand r
        (p.target ≤ w'.replica.stores.segments.watermark p.name)) := by
  unfold stepSegmentPursuit at h
  cases hp : p.call with
  | none =>
    simp only [hp] at h
    split at h
    · cases h
    · cases h
      exact .inl ⟨rfl, rfl, _, rfl, rfl⟩
  | some c =>
    simp only [hp] at h
    cases hs : w.stepSegment f c with
    | none => simp [hs] at h
    | some y =>
      obtain ⟨w₁, c' | r⟩ := y
      · simp only [hs] at h
        cases h
        exact .inr (.inl ⟨c, c', rfl, hs, rfl⟩)
      · simp only [hs] at h
        cases h
        exact .inr (.inr ⟨c, r, rfl, hs, rfl⟩)

/-- Of the core, a step of work changes the stores and the replies to come. -/
theorem core_eq_of_stores {s : Stores} {replies : Dict (List (SegmentReply Empty))}
    (h : w'.core = { w.core with stores := s, replies := replies }) :
    w'.core = { w.core with stores := w'.replica.stores, replies := w'.segmentReplies } := by
  have hs : w'.replica.stores = s := congrArg Core.stores h
  have hr : w'.segmentReplies = replies := congrArg Core.replies h
  rw [hs, hr]
  exact h

theorem core_stepRules {c : RuleCall Empty} {x : RuleCall Empty ⊕ Except SyncError Names}
    (h : w.stepRules f c = some (w', x)) :
    w'.core = { w.core with stores := w'.replica.stores, replies := w'.segmentReplies } := by
  rcases stepRules_cases h with ⟨-, hc, -⟩ | ⟨a, s, reception, -, -, -, hc, -⟩
  · exact core_eq_of_stores hc
  · exact core_eq_of_stores hc

theorem core_stepSegment {c : SegmentCall Empty} {x : SegmentCall Empty ⊕ Except SyncError Unit}
    (h : w.stepSegment f c = some (w', x)) :
    w'.core = { w.core with stores := w'.replica.stores, replies := w'.segmentReplies } := by
  rcases stepSegment_cases h with ⟨-, a, hreq, -⟩ | ⟨a, s, keys, reception, -, -, -, hc, -⟩
  · rcases requestSegment_cases hreq with ⟨-, hc, -⟩ | ⟨r, rest, -, hc, -⟩
    · exact core_eq_of_stores hc
    · exact core_eq_of_stores hc
  · exact core_eq_of_stores hc

/-- What a step of work may lead to: the work goes on, or it is over. -/
inductive WorkStep (f : Interject Empty β) (w : World Empty β) :
    Work Empty → World Empty β → Work Empty ⊕ Except SyncError Names → Prop
  | settled {r : Except SyncError Names} : WorkStep f w (.settled r) w (.inr r)
  | rules {c c' : RuleCall Empty} {w' : World Empty β} :
      w.stepRules f c = some (w', .inl c') → WorkStep f w (.rules c) w' (.inl (.rules c'))
  | rulesOver {c : RuleCall Empty} {w' : World Empty β} {r : Except SyncError Names} :
      w.stepRules f c = some (w', .inr r) → WorkStep f w (.rules c) w' (.inr r)
  | segment {c c' : SegmentCall Empty} {w' : World Empty β} :
      w.stepSegment f c = some (w', .inl c') → WorkStep f w (.segment c) w' (.inl (.segment c'))
  | segmentOver {c : SegmentCall Empty} {w' : World Empty β} {r : Except SyncError Unit} :
      w.stepSegment f c = some (w', .inr r) →
      WorkStep f w (.segment c) w' (.inr (r.map fun _ => Names.empty))
  | pursueRules {p : RulePursuit Empty} {w' : World Empty β} {work : Work Empty} :
      w.stepRulePursuit f p = some (w', work) → WorkStep f w (.pursueRules p) w' (.inl work)
  | pursueSegment {p : SegmentPursuit Empty} {w' : World Empty β} {work : Work Empty} :
      w.stepSegmentPursuit f p = some (w', work) → WorkStep f w (.pursueSegment p) w' (.inl work)

theorem workStep_of_stepWork {work : Work Empty} {x : Work Empty ⊕ Except SyncError Names}
    (h : w.stepWork f work = some (w', x)) : WorkStep f w work w' x := by
  cases work with
  | settled r =>
    cases h
    exact .settled
  | rules c =>
    simp only [stepWork, Option.map_eq_some_iff] at h
    obtain ⟨⟨w₁, c' | r⟩, hs, he⟩ := h
    · cases he
      exact .rules hs
    · cases he
      exact .rulesOver hs
  | segment c =>
    simp only [stepWork, Option.map_eq_some_iff] at h
    obtain ⟨⟨w₁, c' | r⟩, hs, he⟩ := h
    · cases he
      exact .segment hs
    · cases he
      exact .segmentOver hs
  | pursueRules p =>
    simp only [stepWork, Option.map_eq_some_iff] at h
    obtain ⟨⟨w₁, work⟩, hs, he⟩ := h
    cases he
    exact .pursueRules hs
  | pursueSegment p =>
    simp only [stepWork, Option.map_eq_some_iff] at h
    obtain ⟨⟨w₁, work⟩, hs, he⟩ := h
    cases he
    exact .pursueSegment hs

/-- A step of work leaves the rest of the core as it is. -/
theorem core_stepWork {work : Work Empty} {x : Work Empty ⊕ Except SyncError Names}
    (h : w.stepWork f work = some (w', x)) :
    w'.core = { w.core with stores := w'.replica.stores, replies := w'.segmentReplies } := by
  cases workStep_of_stepWork h with
  | settled => rfl
  | rules hs => exact core_stepRules hs
  | rulesOver hs => exact core_stepRules hs
  | segment hs => exact core_stepSegment hs
  | segmentOver hs => exact core_stepSegment hs
  | pursueRules hp =>
    rcases stepRulePursuit_cases hp with ⟨-, hc, -⟩ | ⟨c, c', -, hs, -⟩ | ⟨c, r, -, hs, -⟩
    · exact core_eq_of_stores hc
    · exact core_stepRules hs
    · exact core_stepRules hs
  | pursueSegment hp =>
    rcases stepSegmentPursuit_cases hp with ⟨-, hc, -⟩ | ⟨c, c', -, hs, -⟩ | ⟨c, r, -, hs, -⟩
    · exact core_eq_of_stores hc
    · exact core_stepSegment hs
    · exact core_stepSegment hs

/-- What a step of work leaves as it is. -/
theorem frame_stepWork {work : Work Empty} {x : Work Empty ⊕ Except SyncError Names}
    (h : w.stepWork f work = some (w', x)) :
    w'.core.registry = w.core.registry ∧ w'.core.shutdown = w.core.shutdown ∧
      w'.core.work = w.core.work := by
  rw [core_stepWork h]
  exact ⟨rfl, rfl, rfl⟩

end World

end Halyard.Virtual

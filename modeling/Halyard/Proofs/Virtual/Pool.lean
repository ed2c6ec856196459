/-
# The segment pool and who waits for it

A sweep of the segments hands a job to the pool for every registered segment and
waits for the outcomes. A ticket ties a job to its outcome. Of a world, the desk is
the part that a sweep depends on: the gates, the registry, the pool with its jobs
and outcomes, and the sweep under way.

Most of what happens lets the desk only grow (`Desk.Grows`): names are registered,
jobs are handed over for which nobody waits, segments go on. Beside that a worker
takes a job, goes on with it, or resolves it (`World.WorkerTurn`). So what holds of
all jobs, of all that workers are busy with and of all outcomes needs a proof for
those three steps only (`Desk.Books.workerTurn`).

Key definitions: `Desk`, `World.desk`, `Desk.Grows`, `World.WorkerTurn`, `Desk.Books`.
Key theorems: `World.grows_stepWork`, `World.workerTurn_of_actWorker`,
`Desk.Books.workerTurn`.
-/
import Halyard.Proofs.Store.Discovery
import Halyard.Proofs.Virtual.Segments

namespace Halyard

open Push

namespace Readiness

variable {r : Readiness}

theorem mark_flags : (r.mark .flags).1 = { r with flags := true } := by
  obtain ⟨flags, segments⟩ := r
  cases flags <;> rfl

theorem mark_segments : (r.mark .segments).1 = { r with segments := true } := by
  obtain ⟨flags, segments⟩ := r
  cases segments <;> rfl

end Readiness

/-- Gates are opened by the polling tasks alone. -/
theorem Replica.readiness_dispatch (filter : Names) (busy : Bool) (r : Replica)
    (n : Notification) : (r.dispatch filter busy n).1.readiness = r.readiness := by
  have hsettle : ∀ (t : FetchTarget) (x : Except SyncError (Stores × PushOutcome)),
      (r.settle t x).1.readiness = r.readiness := by
    intro t x
    cases x with
    | error e => rfl
    | ok y =>
      obtain ⟨s, o⟩ := y
      cases o <;> rfl
  cases n with
  | flagUpdate u => exact hsettle _ _
  | segmentRuleUpdate u => exact hsettle _ _
  | segmentUpdate n name =>
    unfold dispatch
    dsimp only
    split <;> rfl
  | _ => rfl

namespace Virtual

/-- What a sweep of the segments depends on. -/
structure Desk where
  ready : Readiness
  registry : Registry
  segments : SegmentStore
  workers : List (Worker Empty)
  jobs : List SegmentJob
  outcomes : List (Nat × Except SyncError Unit)
  nextTicket : Nat
  /-- The sweep under way: whether flags were ready when it began, and its tickets. -/
  sweep : Option (Bool × List Nat)

/-- The desk of a world. -/
def World.desk {β : Type} (w : World Empty β) : Desk where
  ready := w.replica.readiness
  registry := w.replica.registry
  segments := w.replica.stores.segments
  workers := w.workers
  jobs := w.jobs
  outcomes := w.outcomes
  nextTicket := w.nextTicket
  sweep := w.polling.bind fun p => p.segments.body

/-- What is recorded when a job is resolved: an outcome, if somebody waits for it. -/
def SegmentJob.resolved (job : SegmentJob) (r : Except SyncError Unit) :
    List (Nat × Except SyncError Unit) :=
  job.ticket.toList.map fun t => (t, r)

/-! ### Desks that grow -/

/-- What is never taken back at a desk. -/
structure Desk.Precedes (d e : Desk) : Prop where
  flags : d.ready.flags = true → e.ready.flags = true
  gate : d.ready.segments = true → e.ready.segments = true
  registry : ∀ n, d.registry.contains n = true → e.registry.contains n = true
  segments : ∀ n, d.segments.Precedes n e.segments
  nextTicket : d.nextTicket ≤ e.nextTicket

/-- Whether a desk becomes the other one without the pool doing anything. -/
structure Desk.Grows (d e : Desk) : Prop where
  ready : e.ready = d.ready
  registry : ∀ n, d.registry.contains n = true → e.registry.contains n = true
  segments : ∀ n, d.segments.Precedes n e.segments
  workers : e.workers = d.workers
  /-- Nobody waits for the jobs that are new. -/
  jobs : ∃ more, e.jobs = d.jobs ++ more ∧ ∀ j ∈ more, j.ticket = none
  outcomes : e.outcomes = d.outcomes
  nextTicket : d.nextTicket ≤ e.nextTicket
  sweep : e.sweep = d.sweep

theorem Desk.Precedes.trans {d e g : Desk} (h : d.Precedes e) (h' : e.Precedes g) :
    d.Precedes g where
  flags hd := h'.flags (h.flags hd)
  gate hd := h'.gate (h.gate hd)
  registry n hn := h'.registry n (h.registry n hn)
  segments n := (h.segments n).trans (h'.segments n)
  nextTicket := Nat.le_trans h.nextTicket h'.nextTicket

namespace Desk.Grows

variable {d e g : Desk}

theorem refl : d.Grows d where
  ready := rfl
  registry _ h := h
  segments _ := .refl
  workers := rfl
  jobs := ⟨[], (List.append_nil _).symm, fun j hj => by cases hj⟩
  outcomes := rfl
  nextTicket := Nat.le_refl _
  sweep := rfl

theorem of_eq (h : e = d) : d.Grows e := h ▸ refl

theorem trans (h : d.Grows e) (h' : e.Grows g) : d.Grows g where
  ready := h'.ready.trans h.ready
  registry n hn := h'.registry n (h.registry n hn)
  segments n := (h.segments n).trans (h'.segments n)
  workers := h'.workers.trans h.workers
  jobs := by
    obtain ⟨more, he, hmore⟩ := h.jobs
    obtain ⟨more', hg, hmore'⟩ := h'.jobs
    refine ⟨more ++ more', by rw [hg, he, List.append_assoc], fun j hj => ?_⟩
    exact (List.mem_append.mp hj).elim (hmore j) (hmore' j)
  outcomes := h'.outcomes.trans h.outcomes
  nextTicket := Nat.le_trans h.nextTicket h'.nextTicket
  sweep := h'.sweep.trans h.sweep

theorem precedes (h : d.Grows e) : d.Precedes e where
  flags hd := h.ready ▸ hd
  gate hd := h.ready ▸ hd
  registry := h.registry
  segments := h.segments
  nextTicket := h.nextTicket

theorem withRegistry {r : Registry}
    (h : ∀ n, d.registry.contains n = true → r.contains n = true) :
    d.Grows { d with registry := r } :=
  { refl with registry := h }

theorem withSegments {s : SegmentStore} (h : ∀ n, d.segments.Precedes n s) :
    d.Grows { d with segments := s } :=
  { refl with segments := h }

end Desk.Grows

namespace World

variable {β : Type} {f : Interject Empty β} {w w' : World Empty β}

/-! ### What leaves the desk as it is -/

@[simp] theorem desk_enqueueRules (t : FetchTarget) : (w.enqueueRules t).1.desk = w.desk := by
  unfold enqueueRules
  split <;> rfl

@[simp] theorem desk_release (ticket : Option Nat) : (w.release ticket).desk = w.desk := by
  cases ticket <;> rfl

@[simp] theorem desk_recordFetch {α : Type} (resource : String) (r : Except SyncError α) :
    (w.recordFetch resource r).desk = w.desk := by
  cases r <;> rfl

@[simp] theorem desk_publish (s : PushStatus) : (w.publish s).desk = w.desk := by
  unfold publish
  split <;> rfl

@[simp] theorem desk_countLost (n : Notification) : (w.countLost n).desk = w.desk := by
  unfold countLost
  split <;> rfl

@[simp] theorem desk_requestRules (options : FetchOptions) :
    (w.requestRules options).1.desk = w.desk := by
  unfold requestRules
  dsimp only
  split <;> rfl

@[simp] theorem desk_requestSegment (name : String) (options : FetchOptions) :
    (w.requestSegment name options).1.desk = w.desk := by
  unfold requestSegment
  dsimp only
  split <;> rfl

theorem desk_setStores {s : Stores} (h : s.segments = w.replica.stores.segments) :
    (w.setStores s).desk = w.desk := by
  unfold desk setStores
  rw [h]

/-- A change of the polling tasks that leaves the sweep. -/
theorem desk_polling_of_body {p q : Polling Empty} (hp : w.polling = some p)
    (hq : q.segments.body = p.segments.body) : { w with polling := some q }.desk = w.desk := by
  show { w.desk with sweep := q.segments.body } = w.desk
  have hs : w.desk.sweep = p.segments.body := by
    show (w.polling.bind fun p => p.segments.body) = _
    rw [hp]
    rfl
  rw [hq, ← hs]

/-! ### What lets the desk grow -/

theorem grows_startRules (options : FetchOptions) :
    w.desk.Grows (w.startRules options).1.desk :=
  { Desk.Grows.refl with nextTicket := Nat.le_succ _ }

/-- A job for which nobody waits. -/
theorem grows_enqueueSegment (name : String) (till : Option ChangeNumber) :
    w.desk.Grows (w.enqueueSegment ⟨name, till, none⟩).1.desk := by
  unfold enqueueSegment
  split
  · exact { Desk.Grows.refl with
      jobs := ⟨[⟨name, till, none⟩], rfl, fun j hj => by rw [List.mem_singleton.mp hj]⟩ }
  · exact .refl

/-- A job whose outcome somebody waits for. -/
theorem desk_enqueueAwaited (name : String) :
    (w.enqueueAwaited name).1.desk = { w.desk with
      nextTicket := w.nextTicket + 1
      jobs := w.jobs ++ if w.poolOpen then [⟨name, none, some w.nextTicket⟩] else [] } := by
  show (({ w with nextTicket := w.nextTicket + 1 } : World Empty β).enqueueSegment _).1.desk = _
  have hopen : { w with nextTicket := w.nextTicket + 1 }.poolOpen = w.poolOpen := rfl
  unfold enqueueSegment
  rw [hopen]
  cases w.poolOpen with
  | true => rfl
  | false =>
    simp only [Bool.false_eq_true, if_false, List.append_nil]
    rfl

theorem grows_enqueue : ∀ (jobs : List FetchJob) (w : World Empty β),
    w.desk.Grows (w.enqueue jobs).desk
  | [], _ => .refl
  | job :: jobs, w => by
    rw [enqueue, List.foldl_cons]
    refine Desk.Grows.trans ?_ (grows_enqueue jobs _)
    cases job with
    | rules t => exact .of_eq (desk_enqueueRules t)
    | segment name till => exact grows_enqueueSegment name till

theorem grows_register (ns : List String) :
    w.desk.Grows { w with replica := (w.replica.register ns).1 }.desk :=
  .withRegistry fun _ hn => (Registry.contains_register ns).mpr (.inl hn)

theorem grows_track (names : Names) : w.desk.Grows (w.track names).desk :=
  (grows_register names.toList).trans (grows_enqueue _ _)

theorem grows_dispatch (n : Notification) : w.desk.Grows (w.dispatch n).desk := by
  rw [dispatch]
  refine Desk.Grows.trans ?_ (grows_enqueue _ _)
  exact { Desk.Grows.refl with
    ready := Replica.readiness_dispatch _ _ _ n
    registry := fun _ => Replica.contains_dispatch _ _ _ n
    segments := fun _ => by
      show w.replica.stores.segments.Precedes _
        (w.replica.dispatch w.filter w.rulesBusy n).1.stores.segments
      rw [Replica.segments_dispatch]
      exact .refl }

theorem grows_stepRules {c : RuleCall Empty} {x : RuleCall Empty ⊕ Except SyncError Names}
    (h : w.stepRules f c = some (w', x)) : w.desk.Grows w'.desk := by
  unfold stepRules at h
  cases hp : c.pending with
  | none =>
    simp only [hp] at h
    split at h
    · cases h
      exact .of_eq (desk_requestRules _)
    · cases h
  | some a =>
    simp only [hp] at h
    split at h
    · cases h
    rw [interjectAll_empty] at h
    have hseg := RuleFetch.segments_receive w.filter c.fetch w.replica.stores a.answer
    cases hr : c.fetch.receive w.filter w.replica.stores a.answer with
    | mk s reception =>
      simp only [hr] at h hseg
      rcases reception with fetch | r
      · cases h
        exact .of_eq (desk_setStores hseg)
      · cases h
        rw [desk_recordFetch, desk_release]
        exact .of_eq (desk_setStores hseg)

theorem grows_stepSegment {c : SegmentCall Empty} {x : SegmentCall Empty ⊕ Except SyncError Unit}
    (h : w.stepSegment f c = some (w', x)) : w.desk.Grows w'.desk := by
  unfold stepSegment at h
  cases hp : c.pending with
  | none =>
    simp only [hp] at h
    cases h
    exact .of_eq (desk_requestSegment _ _)
  | some a =>
    simp only [hp] at h
    split at h
    · cases h
    rw [interjectAll_empty] at h
    have hseg : ∀ n, w.desk.segments.Precedes n
        (c.fetch.receive c.name w.replica.stores.segments a.answer).1 :=
      fun n => SegmentStore.precedes_receive _ _ _
    cases hr : c.fetch.receive c.name w.replica.stores.segments a.answer with
    | mk s rest =>
      obtain ⟨keys, reception⟩ := rest
      simp only [hr] at h hseg
      rcases reception with fetch | r
      · cases h
        cases keys <;> exact .withSegments hseg
      · cases h
        rw [desk_recordFetch]
        cases keys <;> exact .withSegments hseg

theorem grows_stepRulePursuit {p : RulePursuit Empty} {work : Work Empty}
    (h : w.stepRulePursuit f p = some (w', work)) : w.desk.Grows w'.desk := by
  cases hc : p.call with
  | none =>
    unfold stepRulePursuit at h
    simp only [hc] at h
    split at h
    · cases h
    · cases h
      exact grows_startRules _
  | some c =>
    rcases stepRulePursuit_cases h with ⟨hnone, -⟩ | ⟨c, c', -, hs, -⟩ | ⟨c, r, -, hs, -⟩
    · cases hc.symm.trans hnone
    · exact grows_stepRules hs
    · exact grows_stepRules hs

theorem grows_stepSegmentPursuit {p : SegmentPursuit Empty} {work : Work Empty}
    (h : w.stepSegmentPursuit f p = some (w', work)) : w.desk.Grows w'.desk := by
  cases hc : p.call with
  | none =>
    unfold stepSegmentPursuit at h
    simp only [hc] at h
    split at h
    · cases h
    · cases h
      exact .refl
  | some c =>
    rcases stepSegmentPursuit_cases h with ⟨hnone, -⟩ | ⟨c, c', -, hs, -⟩ | ⟨c, r, -, hs, -⟩
    · cases hc.symm.trans hnone
    · exact grows_stepSegment hs
    · exact grows_stepSegment hs

/-- **A step of work lets the desk grow.** -/
theorem grows_stepWork {work : Work Empty} {x : Work Empty ⊕ Except SyncError Names}
    (h : w.stepWork f work = some (w', x)) : w.desk.Grows w'.desk := by
  cases workStep_of_stepWork h with
  | settled => exact .refl
  | rules hs => exact grows_stepRules hs
  | rulesOver hs => exact grows_stepRules hs
  | segment hs => exact grows_stepSegment hs
  | segmentOver hs => exact grows_stepSegment hs
  | pursueRules hs => exact grows_stepRulePursuit hs
  | pursueSegment hs => exact grows_stepSegmentPursuit hs

/-! ### Tasks outside of the pool -/

theorem grows_actFront (h : w.actFront f = some w') : w.desk.Grows w'.desk := by
  cases frontTurn_of_actFront h with
  | goesOn _ hs | ends _ hs =>
    have hstep := grows_stepWork hs
    exact hstep

theorem grows_actRuleWorker {woken : Bool} (h : w.actRuleWorker f woken = some w') :
    w.desk.Grows w'.desk := by
  cases ruleWorkerTurn_of_actRuleWorker h with
  | leaves | takes => exact .refl
  | drops => exact .of_eq (desk_release _)
  | goesOn _ _ hs | fails _ _ hs =>
    have hstep := grows_stepWork hs
    exact hstep
  | @finds work w₁ names _ _ hs =>
    have hstep := grows_stepWork hs
    have hidle : w.desk.Grows { w₁ with ruleWorker := .idle }.desk := hstep
    exact hidle.trans (grows_track names)

theorem desk_actFollower (h : w.actFollower = some w') : w'.desk = w.desk := by
  obtain ⟨p, q, hp, rfl, -, hb⟩ := actFollower_cases h
  exact desk_polling_of_body hp hb

theorem desk_actConnection (h : w.actConnection = some w') : w'.desk = w.desk := by
  obtain ⟨p, l, -, rfl | ⟨n, rfl⟩⟩ := actConnection_cases h
  · rfl
  · exact desk_countLost n

theorem grows_perform (e : Manager.Effect) : w.desk.Grows (w.perform e).desk := by
  cases e with
  | publish s => exact .of_eq (desk_publish s)
  | dispatch n => exact grows_dispatch n
  | authenticate =>
    unfold perform
    dsimp only
    split <;> exact .refl
  | connect t =>
    unfold perform
    dsimp only
    split <;> exact .refl
  | _ => exact .refl

theorem grows_actManager (h : w.actManager = some w') : w.desk.Grows w'.desk :=
  actManager_induction (P := fun v : World Empty β => w.desk.Grows v.desk) (fun _ _ hv => hv)
    (fun _ e hv => hv.trans (grows_perform e)) h .refl

/-! ### Workers -/

theorem desk_resolve (job : SegmentJob) (r : Except SyncError Unit) :
    (w.resolve job r).desk = { w.desk with outcomes := w.outcomes ++ job.resolved r } := by
  unfold resolve SegmentJob.resolved
  cases job.ticket with
  | some t => rfl
  | none =>
    show w.desk = { w.desk with outcomes := w.outcomes ++ [] }
    rw [List.append_nil]
    rfl

/-- What a turn of a worker may make of the desk. -/
inductive WorkerTurn (f : Interject Empty β) (w : World Empty β) (woken : Bool) (i : Nat) :
    Desk → Prop
  | leaves : WorkerTurn f w woken i { w.desk with workers := w.workers.set i .gone }
  | takes {job : SegmentJob} {rest : List SegmentJob} : w.jobs = job :: rest →
      WorkerTurn f w woken i { w.desk with
        jobs := rest
        workers := w.workers.set i (.busy job (w.startJob job)) }
  | cancels {job : SegmentJob} {work : Work Empty} : w.workers[i]? = some (.busy job work) →
      WorkerTurn f w woken i { w.desk with
        workers := w.workers.set i .gone
        outcomes := w.outcomes ++ job.resolved (.error .cancelled) }
  | goesOn {job : SegmentJob} {work work' : Work Empty} {w₁ : World Empty β} :
      w.workers[i]? = some (.busy job work) → w.stepWork f work = some (w₁, .inl work') →
      WorkerTurn f w woken i { w₁.desk with workers := w₁.workers.set i (.busy job work') }
  | ends {job : SegmentJob} {work : Work Empty} {w₁ : World Empty β}
      {r : Except SyncError Names} : (woken && w.aborted) = false → (woken && w.shutdown) = false →
      w.workers[i]? = some (.busy job work) → w.stepWork f work = some (w₁, .inr r) →
      WorkerTurn f w woken i { w₁.desk with
        workers := w₁.workers.set i .idle
        outcomes := w₁.outcomes ++ job.resolved (r.map fun _ => ()) }

theorem desk_setWorker (i : Nat) (x : Worker Empty) :
    (w.setWorker i x).desk = { w.desk with workers := w.desk.workers.set i x } := rfl

theorem WorkerTurn.ready {woken : Bool} {i : Nat} {e : Desk} (h : WorkerTurn f w woken i e) :
    e.ready = w.desk.ready := by
  cases h with
  | goesOn _ hs => exact (grows_stepWork hs).ready
  | ends _ _ _ hs => exact (grows_stepWork hs).ready
  | _ => rfl

theorem WorkerTurn.sweep {woken : Bool} {i : Nat} {e : Desk} (h : WorkerTurn f w woken i e) :
    e.sweep = w.desk.sweep := by
  cases h with
  | goesOn _ hs => exact (grows_stepWork hs).sweep
  | ends _ _ _ hs => exact (grows_stepWork hs).sweep
  | _ => rfl

theorem WorkerTurn.precedes {woken : Bool} {i : Nat} {e : Desk} (h : WorkerTurn f w woken i e) :
    w.desk.Precedes e := by
  have hsame : w.desk.Precedes w.desk := Desk.Grows.refl.precedes
  cases h with
  | goesOn _ hs =>
    have hw := (grows_stepWork hs).precedes
    exact ⟨hw.flags, hw.gate, hw.registry, hw.segments, hw.nextTicket⟩
  | ends _ _ _ hs =>
    have hw := (grows_stepWork hs).precedes
    exact ⟨hw.flags, hw.gate, hw.registry, hw.segments, hw.nextTicket⟩
  | _ => exact ⟨hsame.flags, hsame.gate, hsame.registry, hsame.segments, hsame.nextTicket⟩

theorem workerTurn_of_actWorker {woken : Bool} {i : Nat} (h : w.actWorker f woken i = some w') :
    WorkerTurn f w woken i w'.desk := by
  cases poolTurn_of_actWorker h with
  | leaves | aborts => exact .leaves
  | takes _ _ hjobs => exact .takes hjobs
  | cancels hi =>
    rw [desk_setWorker, desk_resolve]
    exact .cancels hi
  | goesOn hi _ _ hs => exact .goesOn hi hs
  | ends hi habort hshutdown hs =>
    rw [desk_setWorker, desk_resolve]
    exact .ends habort hshutdown hi hs

end World

/-! ### What holds of jobs, of work and of outcomes -/

/-- What holds of all jobs, of all jobs that workers are busy with and of all outcomes. -/
structure Desk.Books (J : SegmentJob → Prop) (W : SegmentJob → Work Empty → Prop)
    (O : Nat × Except SyncError Unit → Prop) (d : Desk) : Prop where
  jobs : ∀ j ∈ d.jobs, J j
  workers : ∀ j work, .busy j work ∈ d.workers → W j work
  outcomes : ∀ o ∈ d.outcomes, O o

namespace Desk.Books

variable {β : Type} {f : World.Interject Empty β} {w : World Empty β} {d e : Desk}
  {J J' : SegmentJob → Prop} {W W' : SegmentJob → Work Empty → Prop}
  {O O' : Nat × Except SyncError Unit → Prop}

theorem mono (h : d.Books J W O) (hJ : ∀ j, J j → J' j) (hW : ∀ j work, W j work → W' j work)
    (hO : ∀ o, O o → O' o) : d.Books J' W' O' where
  jobs j hj := hJ j (h.jobs j hj)
  workers j work hj := hW j work (h.workers j work hj)
  outcomes o ho := hO o (h.outcomes o ho)

theorem grows (h : d.Books J W O) (hde : d.Grows e) (hJ : ∀ j, j.ticket = none → J j) :
    e.Books J W O where
  jobs j hj := by
    obtain ⟨more, he, hmore⟩ := hde.jobs
    rw [he] at hj
    exact (List.mem_append.mp hj).elim (h.jobs j) fun hj => hJ j (hmore j hj)
  workers j work hj := h.workers j work (hde.workers ▸ hj)
  outcomes o ho := h.outcomes o (hde.outcomes ▸ ho)

theorem setWorker (h : d.Books J W O) {i : Nat} {x : Worker Empty}
    (hx : ∀ j work, x = .busy j work → W j work) :
    { d with workers := d.workers.set i x }.Books J W O where
  jobs := h.jobs
  workers j work hj := by
    rcases List.mem_or_eq_of_mem_set hj with hj | hj
    · exact h.workers j work hj
    · exact hx j work hj.symm
  outcomes := h.outcomes

theorem resolve (h : d.Books J W O) {job : SegmentJob} {r : Except SyncError Unit}
    (hr : ∀ t, job.ticket = some t → O (t, r)) :
    { d with outcomes := d.outcomes ++ job.resolved r }.Books J W O where
  jobs := h.jobs
  workers := h.workers
  outcomes o ho := by
    rcases List.mem_append.mp ho with ho | ho
    · exact h.outcomes o ho
    · obtain ⟨t, ht, rfl⟩ := List.mem_map.mp ho
      exact hr t (Option.mem_toList.mp ht)

/-- **A turn of a worker keeps what holds of jobs, of work and of outcomes**, if it passes from
jobs to the work that they are begun with, along the steps of work, and from work that ends or
is cancelled to its outcome. -/
theorem workerTurn (h : w.desk.Books J W O) {woken : Bool} {i : Nat}
    (hstart : ∀ j, J j → W j (w.startJob j))
    (hstep : ∀ j work w₁ work', W j work → w.stepWork f work = some (w₁, .inl work') → W j work')
    (hcancel : ∀ j work t, W j work → j.ticket = some t → O (t, .error .cancelled))
    (hend : ∀ j work w₁ r t, (woken && w.aborted) = false → (woken && w.shutdown) = false →
      w.workers[i]? = some (.busy j work) → W j work → w.stepWork f work = some (w₁, .inr r) →
      j.ticket = some t → O (t, r.map fun _ => ()))
    (hnew : ∀ j, j.ticket = none → J j) (ht : World.WorkerTurn f w woken i e) :
    e.Books J W O := by
  have hwork : ∀ {j work}, w.workers[i]? = some (.busy j work) → W j work :=
    fun hi => h.workers _ _ (List.mem_of_getElem? hi)
  cases ht with
  | leaves => exact h.setWorker fun j work hx => by cases hx
  | @takes job rest hjobs =>
    have hmem : ∀ j, j ∈ job :: rest → J j := fun j hj => h.jobs j (by
      rw [show w.desk.jobs = job :: rest from hjobs]
      exact hj)
    have hjob : J job := hmem job List.mem_cons_self
    have hrest : { w.desk with jobs := rest }.Books J W O :=
      ⟨fun j hj => hmem j (List.mem_cons_of_mem _ hj), h.workers, h.outcomes⟩
    refine hrest.setWorker fun j work hx => ?_
    cases hx
    exact hstart job hjob
  | @cancels job work hi =>
    have hset := h.setWorker (i := i) (x := .gone) fun j work hx => by cases hx
    exact hset.resolve fun t ht => hcancel job work t (hwork hi) ht
  | @goesOn job work work' w₁ hi hs =>
    refine (h.grows (World.grows_stepWork hs) hnew).setWorker fun j work hx => ?_
    cases hx
    exact hstep job _ _ _ (hwork hi) hs
  | @ends job work w₁ r habort hshut hi hs =>
    have hset := (h.grows (World.grows_stepWork hs) hnew).setWorker (i := i) (x := .idle)
      fun j work hx => by cases hx
    exact hset.resolve fun t ht => hend job work w₁ r t habort hshut hi (hwork hi) hs ht

end Desk.Books

end Virtual

end Halyard

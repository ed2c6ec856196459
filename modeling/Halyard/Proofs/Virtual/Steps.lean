/-
# What a small step does to the desk

Whatever happens to a staged world, its desk grows, or a worker takes its turn, or one
of the polling tasks takes a step: the gate of flags is opened, or a sweep goes from
one stage to the next (`Staged.step_move`). What is shown of moves is shown of these
cases. None of them takes anything back (`Staged.Step.precedes`), and what holds of
all jobs, of all work and of all outcomes stays so if turns of workers keep it and it
holds of the jobs that a sweep hands out (`Staged.Step.books`).

Key definitions: `Staged.Step`.
Key theorems: `World.mem_outcomes_of_sweepResult`, `Staged.step_move`,
`Staged.Step.precedes`, `Staged.Step.books`.
-/
import Halyard.Proofs.Virtual.Stages

namespace Halyard.Virtual

variable {β : Type}

/-! ### Steps of the polling tasks -/

namespace World

variable {f : Interject Empty β} {w w' : World Empty β}

theorem grows_pollFinds {woken : Bool} {v : World Empty β} {names : Names}
    (h : w.pollFinds f woken = some (v, names)) : w.desk.Grows v.desk := by
  unfold pollFinds at h
  cases hp : w.polling with
  | none => simp [hp] at h
  | some p =>
    simp only [hp] at h
    split at h
    · cases h
    split at h
    · cases h
    split at h
    · rename_i hs
      cases h
      have hv := (polling_stepWork hs).trans hp
      rw [hv]
      exact (grows_stepWork hs).trans (.of_eq (desk_polling_of_body hv rfl))
    · cases h

theorem grows_actFlagsTask {woken : Bool} (hnone : w.pollFinds f woken = none)
    (h : w.actFlagsTask f woken = some w') : w.desk.Grows w'.desk := by
  cases flagsTurn_of_actFlagsTask h with
  | @stops p hp =>
    have hsame : (w.release (p.flags.body.bind Work.ticket?)).polling = some p := by
      cases p.flags.body.bind Work.ticket? <;> exact hp
    exact .of_eq ((desk_polling_of_body hsame rfl).trans (desk_release _))
  | @begins p _ hp =>
    exact (grows_startRules .poll).trans (.of_eq (desk_polling_of_body (p := p) hp rfl))
  | goesOn hp _ _ hs =>
    have hv := (polling_stepWork hs).trans hp
    exact (grows_stepWork hs).trans (.of_eq (desk_polling_of_body hv rfl))
  | @ends p work v r hp hwoken hbody hs =>
    have hv := (polling_stepWork hs).trans hp
    cases r with
    | error e => exact (grows_stepWork hs).trans (.of_eq (desk_polling_of_body hv rfl))
    | ok names => simp [pollFinds, hp, hwoken, hbody, hs] at hnone

theorem desk_openFlags :
    w.openFlags.desk = { w.desk with ready := { w.desk.ready with flags := true } } := by
  have hmark : (w.mark .flags).1.desk =
      { w.desk with ready := { w.desk.ready with flags := true } } := by
    show { w.desk with ready := (w.replica.readiness.mark .flags).1 } = _
    rw [Readiness.mark_flags]
    rfl
  unfold openFlags
  cases hp : w.polling with
  | none => exact hmark
  | some p =>
    rw [← hmark]
    have hsame : (w.mark .flags).1.polling = some p := hp
    refine desk_polling_of_body hsame ?_
    dsimp only
    split <;> rfl

theorem desk_openSegments :
    w.openSegments.desk =
      { w.desk with ready := { w.desk.ready with segments := true }, sweep := none } := by
  unfold openSegments desk mark
  dsimp only
  rw [Readiness.mark_segments]
  cases w.polling <;> rfl

theorem desk_setSweep (body : Option (Bool × List Nat)) :
    (w.setSweep body).desk = { w.desk with sweep := w.polling.bind fun _ => body } := by
  unfold setSweep desk
  cases w.polling <;> rfl

theorem desk_beginSweep {v : World Empty β} (h : w.beginSweep = some v) : v.desk = w.desk := by
  unfold beginSweep at h
  cases hp : w.polling with
  | none => simp [hp] at h
  | some p =>
    simp only [hp] at h
    split at h
    · cases h
    rename_i hrest
    obtain ⟨task, -, rfl⟩ := Option.map_eq_some_iff.mp h
    refine desk_polling_of_body hp ?_
    have hbody : p.segments.body.isSome = false :=
      Bool.eq_false_iff.mpr fun hb => hrest (by rw [hb, Bool.or_true])
    exact (Option.not_isSome_iff_eq_none.mp (by rw [hbody]; exact Bool.false_ne_true)).symm

theorem foldl_eq_ok {g : Except SyncError Unit → Nat → Except SyncError Unit} {P : Nat → Prop}
    (hg : ∀ r t, g r t = .ok () → r = .ok () ∧ P t) : ∀ (ts : List Nat) (r : Except SyncError Unit),
    ts.foldl g r = .ok () → r = .ok () ∧ ∀ t ∈ ts, P t
  | [], r, h => ⟨h, fun t ht => by cases ht⟩
  | t :: ts, r, h => by
    obtain ⟨hfirst, hrest⟩ := foldl_eq_ok hg ts _ h
    obtain ⟨hr, ht⟩ := hg r t hfirst
    exact ⟨hr, List.forall_mem_cons.mpr ⟨ht, hrest⟩⟩

/-- A sweep is well only if every job that it waited for was. -/
theorem mem_outcomes_of_sweepResult {tickets : List Nat} (h : w.sweepResult tickets = .ok ()) :
    ∀ t ∈ tickets, (t, .ok ()) ∈ w.outcomes := by
  have hstate : ∀ t, w.ticketState t = .outcome (.ok ()) → (t, .ok ()) ∈ w.outcomes := by
    intro t ht
    unfold ticketState at ht
    split at ht
    · rename_i k r hfind
      cases ht
      obtain rfl : k = t := by simpa using List.find?_some hfind
      exact List.mem_of_find?_eq_some hfind
    · split at ht <;> cases ht
  unfold sweepResult at h
  refine (foldl_eq_ok ?_ tickets _ h).2
  intro r t hr
  cases r with
  | error e => cases hr
  | ok u =>
    refine ⟨rfl, hstate t ?_⟩
    cases hs : w.ticketState t with
    | outcome x =>
      rw [hs] at hr
      cases x with
      | ok u => rfl
      | error e => cases hr
    | discarded =>
      rw [hs] at hr
      cases hr
    | open_ =>
      rw [hs] at hr
      cases hr

theorem of_sweepSucceeds (h : w.sweepSucceeds = true) : ∃ tickets,
    w.desk.sweep = some (true, tickets) ∧ ∀ t ∈ tickets, (t, .ok ()) ∈ w.desk.outcomes := by
  unfold sweepSucceeds at h
  split at h
  · rename_i tickets hb
    refine ⟨tickets, hb, mem_outcomes_of_sweepResult ?_⟩
    cases hr : w.sweepResult tickets with
    | ok u => rfl
    | error e =>
      rw [hr] at h
      simp [Except.isOk, Except.toBool] at h
  · cases h

/-- A sweep that does not open the gate is given up, or ends. -/
theorem desk_actSegmentsTask (hends : w.sweepSucceeds = false) (hbegin : w.beginSweep = none)
    (h : w.actSegmentsTask = some w') : w'.desk = { w.desk with sweep := none } := by
  cases sweepTurn_of_actSegmentsTask h with
  | stops => rfl
  | begins hp hshutdown hbody htask => simp [beginSweep, hp, hshutdown, hbody, htask] at hbegin
  | ends complete hp hshutdown hbody hsettled hcomplete =>
    cases complete with
    | false => rfl
    | true =>
      obtain ⟨rfl, hr⟩ := hcomplete.mp rfl
      simp [sweepSucceeds, hp, hshutdown, hbody, hsettled, hr, Except.isOk, Except.toBool] at hends

end World

namespace Staged

variable {f : World.Interject Empty β} {x y : Staged β} {m : Move}

/-- What a move of a staged world may make of its desk and of its sweep. -/
inductive Step (f : World.Interject Empty β) (x : Staged β) : Move → Staged β → Prop
  | grows {m : Move} {y : Staged β} : x.world.desk.Grows y.world.desk → y.sweep = x.sweep →
      Step f x m y
  | works {woken : Bool} {i : Nat} {y : Staged β} :
      x.world.WorkerTurn f woken i y.world.desk → y.sweep = x.sweep →
      Step f x (.turn woken (.worker i)) y
  | opensFlags {m : Move} {y : Staged β} :
      y.world.desk =
        { x.world.desk with ready := { x.world.desk.ready with flags := true } } →
      y.sweep = x.sweep → Step f x m y
  | looks {m : Move} {y : Staged β} : x.sweep = .waiting → y.world.desk = x.world.desk →
      y.sweep = .looked x.world.desk.ready.flags → Step f x m y
  | lists {m : Move} {y : Staged β} {flagsReady : Bool} : x.sweep = .looked flagsReady →
      y.world.desk = x.world.desk →
      y.sweep = .handing flagsReady x.world.desk.registry.names [] → Step f x m y
  | hands {m : Move} {y : Staged β} {flagsReady : Bool} {name : String} {rest : List String}
      {tickets : List Nat} : x.sweep = .handing flagsReady (name :: rest) tickets →
      y.world = (x.world.enqueueAwaited name).1 →
      y.sweep = .handing flagsReady rest (tickets ++ [x.world.desk.nextTicket]) → Step f x m y
  | awaits {m : Move} {y : Staged β} {flagsReady : Bool} {tickets : List Nat}
      {s : Option (Bool × List Nat)} : x.sweep = .handing flagsReady [] tickets →
      y.world.desk = { x.world.desk with sweep := s } →
      (∀ body, s = some body → body = (flagsReady, tickets)) → y.sweep = .waiting → Step f x m y
  | ends {m : Move} {y : Staged β} : x.sweep = .waiting →
      y.world.desk = { x.world.desk with sweep := none } → y.sweep = .waiting → Step f x m y
  | succeeds {m : Move} {y : Staged β} {tickets : List Nat} : x.sweep = .waiting →
      x.world.desk.sweep = some (true, tickets) →
      (∀ t ∈ tickets, (t, .ok ()) ∈ x.world.desk.outcomes) →
      y.world.desk = { x.world.desk with sweep := none } → y.sweep = .succeeded → Step f x m y
  | opensSegments {m : Move} {y : Staged β} : x.sweep = .succeeded →
      y.world.desk = { x.world.desk with
        ready := { x.world.desk.ready with segments := true }
        sweep := none } → y.sweep = .waiting → Step f x m y

theorem step_pollTurn {woken : Bool} (h : x.pollTurn f woken = some y) : Step f x m y := by
  unfold pollTurn at h
  split at h
  · split at h
    · rename_i hfinds
      cases h
      exact .grows (World.grows_pollFinds hfinds) rfl
    · rename_i hnone
      obtain ⟨w, hw, rfl⟩ := Option.map_eq_some_iff.mp h
      exact .grows (World.grows_actFlagsTask hnone hw) rfl
  · cases h
    exact .grows (World.grows_track _) rfl
  · cases h
    exact .opensFlags World.desk_openFlags rfl

theorem step_sweepTurn (h : x.sweepTurn = some y) : Step f x m y := by
  unfold sweepTurn at h
  split at h
  · rename_i hsweep
    split at h
    · rename_i hends
      obtain ⟨tickets, hbody, hok⟩ := World.of_sweepSucceeds hends
      cases h
      refine .succeeds hsweep hbody hok ?_ rfl
      rw [World.desk_setSweep]
      cases x.world.polling <;> rfl
    rename_i hends
    split at h
    · rename_i hbegin
      cases h
      exact .looks hsweep (World.desk_beginSweep hbegin) rfl
    · rename_i hbegin
      obtain ⟨w, hw, rfl⟩ := Option.map_eq_some_iff.mp h
      have hdesk := World.desk_actSegmentsTask (Bool.eq_false_iff.mpr hends) hbegin hw
      exact .ends hsweep hdesk hsweep
  · rename_i hsweep
    cases h
    exact .lists hsweep rfl rfl
  · rename_i hsweep
    cases h
    exact .hands hsweep rfl rfl
  · rename_i hsweep
    cases h
    refine .awaits hsweep (World.desk_setSweep _) ?_ rfl
    intro body hbody
    obtain ⟨-, -, hb⟩ := Option.bind_eq_some_iff.mp hbody
    exact (Option.some.inj hb).symm
  · rename_i hsweep
    cases h
    exact .opensSegments hsweep World.desk_openSegments rfl

theorem step_turn {woken : Bool} {a : Actor} (h : x.turn f woken a = some y) :
    Step f x (.turn woken a) y := by
  cases a with
  | flagsTask => exact step_pollTurn h
  | segmentsTask => exact step_sweepTurn h
  | worker i =>
    obtain ⟨w, hw, rfl⟩ := Option.map_eq_some_iff.mp h
    exact .works (World.workerTurn_of_actWorker hw) rfl
  | front =>
    obtain ⟨w, hw, rfl⟩ := Option.map_eq_some_iff.mp h
    exact .grows (World.grows_actFront hw) rfl
  | ruleWorker =>
    obtain ⟨w, hw, rfl⟩ := Option.map_eq_some_iff.mp h
    exact .grows (World.grows_actRuleWorker hw) rfl
  | follower =>
    obtain ⟨w, hw, rfl⟩ := Option.map_eq_some_iff.mp h
    exact .grows (.of_eq (World.desk_actFollower hw)) rfl
  | manager =>
    obtain ⟨w, hw, rfl⟩ := Option.map_eq_some_iff.mp h
    exact .grows (World.grows_actManager hw) rfl
  | connection =>
    obtain ⟨w, hw, rfl⟩ := Option.map_eq_some_iff.mp h
    exact .grows (.of_eq (World.desk_actConnection hw)) rfl

/-- **What a move does to the desk**: it lets it grow, or a worker takes its turn, or one of the
polling tasks takes a step. -/
theorem step_move (f : World.Interject Empty β) (x : Staged β) (m : Move) :
    Step f x m (x.move f m) := by
  cases m with
  | turn woken a =>
    rw [move]
    cases ht : x.turn f woken a with
    | none => exact .grows .refl rfl
    | some y => exact step_turn ht
  | wait ms => exact .grows .refl rfl
  | notify n => exact .grows (World.grows_dispatch n) rfl
  | target t => exact .grows (.of_eq (World.desk_enqueueRules t)) rfl
  | job name till => exact .grows (World.grows_enqueueSegment name till) rfl
  | register names => exact .grows (World.grows_register names) rfl
  | stop => exact .grows (.withSegments fun _ => ⟨Int.le_refl _, id⟩) rfl
  | abort => exact .grows .refl rfl

/-! ### Nothing is taken back -/

theorem Step.precedes (h : Step f x m y) : x.world.desk.Precedes y.world.desk := by
  have hsame : x.world.desk.Precedes x.world.desk := Desk.Grows.refl.precedes
  cases h with
  | grows hd _ => exact hd.precedes
  | works ht _ => exact ht.precedes
  | opensFlags hd _ =>
    rw [hd]
    exact { hsame with flags := fun _ => rfl }
  | looks _ hd _ => exact hd ▸ hsame
  | lists _ hd _ => exact hd ▸ hsame
  | hands _ hw _ =>
    rw [hw, World.desk_enqueueAwaited]
    exact { hsame with nextTicket := Nat.le_succ _ }
  | awaits _ hd _ _ =>
    rw [hd]
    exact { hsame with }
  | ends _ hd _ =>
    rw [hd]
    exact { hsame with }
  | succeeds _ _ _ hd _ =>
    rw [hd]
    exact { hsame with }
  | opensSegments _ hd _ =>
    rw [hd]
    exact { hsame with gate := fun _ => rfl }

theorem precedes_play : ∀ (ms : List Move) (x : Staged β),
    x.world.desk.Precedes (x.play f ms).world.desk
  | [], _ => Desk.Grows.refl.precedes
  | m :: ms, x => (step_move f x m).precedes.trans (precedes_play ms (x.move f m))

/-- The gate of segments is opened by a sweep that has succeeded. -/
theorem Step.gate (hs : Step f x m y) :
    y.world.desk.ready.segments = x.world.desk.ready.segments ∨ x.sweep = .succeeded := by
  cases hs with
  | grows hd _ => exact .inl (by rw [hd.ready])
  | works ht _ => exact .inl (by rw [ht.ready])
  | opensSegments hx _ _ => exact .inr hx
  | opensFlags hd _ => exact .inl (by rw [hd])
  | looks _ hd _ => exact .inl (by rw [hd])
  | lists _ hd _ => exact .inl (by rw [hd])
  | hands _ hw _ => exact .inl (by rw [hw, World.desk_enqueueAwaited])
  | awaits _ hd _ _ => exact .inl (by rw [hd])
  | ends _ hd _ => exact .inl (by rw [hd])
  | succeeds _ _ _ hd _ => exact .inl (by rw [hd])

/-- What holds of jobs, of work and of outcomes is kept by moves if turns of workers keep it and
it holds of the jobs that a sweep hands out. -/
theorem Step.books {J : SegmentJob → Prop} {W : SegmentJob → Work Empty → Prop}
    {O : Nat × Except SyncError Unit → Prop} (hs : Step f x m y) (h : x.world.desk.Books J W O)
    (hstart : ∀ j, J j → W j (x.world.startJob j))
    (hstep : ∀ j work w₁ work', W j work → x.world.stepWork f work = some (w₁, .inl work') →
      W j work')
    (hcancel : ∀ j work t, W j work → j.ticket = some t → O (t, .error .cancelled))
    (hend : ∀ woken i j work w₁ r t, m = .turn woken (.worker i) →
      (woken && x.world.aborted) = false → (woken && x.world.shutdown) = false →
      x.world.workers[i]? = some (.busy j work) → W j work →
      x.world.stepWork f work = some (w₁, .inr r) → j.ticket = some t → O (t, r.map fun _ => ()))
    (hnew : ∀ j, j.ticket = none → J j)
    (hhand : ∀ name, y.world.desk.nextTicket = x.world.desk.nextTicket + 1 →
      J ⟨name, none, some x.world.desk.nextTicket⟩) : y.world.desk.Books J W O := by
  cases hs with
  | grows hd _ => exact h.grows hd hnew
  | @works woken i _ ht _ =>
    exact h.workerTurn hstart hstep hcancel
      (fun j work w₁ r t => hend woken i j work w₁ r t rfl) hnew ht
  | opensFlags hd _ =>
    rw [hd]
    exact ⟨h.jobs, h.workers, h.outcomes⟩
  | looks _ hd _ => exact hd ▸ h
  | lists _ hd _ => exact hd ▸ h
  | @hands _ _ _ name _ _ _ hw _ =>
    rw [hw, World.desk_enqueueAwaited] at hhand ⊢
    refine ⟨fun j hj => ?_, h.workers, h.outcomes⟩
    rcases List.mem_append.mp hj with hj | hj
    · exact h.jobs j hj
    · split at hj
      · rw [List.mem_singleton.mp hj]
        exact hhand name rfl
      · cases hj
  | awaits _ hd _ _ =>
    rw [hd]
    exact ⟨h.jobs, h.workers, h.outcomes⟩
  | ends _ hd _ =>
    rw [hd]
    exact ⟨h.jobs, h.workers, h.outcomes⟩
  | succeeds _ _ _ hd _ =>
    rw [hd]
    exact ⟨h.jobs, h.workers, h.outcomes⟩
  | opensSegments _ hd _ =>
    rw [hd]
    exact ⟨h.jobs, h.workers, h.outcomes⟩

end Staged

end Halyard.Virtual

/-
# A segment is discovered in one move

Polls of flags, the worker for rules and notifications register the segments that they come
across. Whatever an engine does, what becomes of its registry are calls one after another
(`World.registry_play`), so that the registry of a play is never anything but what
`Halyard.Proofs.Registry` describes.

So a segment that was not known at first and is known in the end is discovered in one move:
it is unknown before it, and known ever after. In that very move its fetch is queued, if the
pool takes jobs (`World.discovered_in_one_move`). None is swept twice (`World.nodup_play`).

Key definitions: `Replica.Registers`, `World.Discovers`.
Key theorems: `Replica.registers_dispatch`, `World.discovers_move`, `World.registry_play`,
`World.discovered_in_one_move`.
-/
import Halyard.Proofs.Registry
import Halyard.Proofs.Virtual.Pool

namespace Halyard

open Push

/-! ### What is handed over -/

namespace Replica

variable {r : Replica} {n : String}

/-- Whether what is made of a replica is to call its registry, and to fetch every name that is
new. -/
structure Registers (r : Replica) (x : Replica × List FetchJob) : Prop where
  calls : ∃ calls, x.1.registry = r.registry.after calls
  fetched : ∀ n, x.1.registry.contains n = true →
    r.registry.contains n = true ∨ ∃ till, .segment n till ∈ x.2

theorem registers_same {x : Replica × List FetchJob} (h : x.1.registry = r.registry) :
    r.Registers x :=
  ⟨⟨[], h⟩, fun _ hn => .inl (h ▸ hn)⟩

/-- One call, after which all that it was told to be new is fetched. -/
theorem registers_call {x : Replica × List FetchJob} {ns : List String}
    (h : x.1.registry = (r.registry.register ns).1)
    (hjobs : ∀ n ∈ (r.registry.register ns).2, ∃ till, .segment n till ∈ x.2) :
    r.Registers x := by
  refine ⟨⟨[ns], h⟩, fun n hn => ?_⟩
  rw [h, Registry.contains, List.contains_iff_mem, Registry.names_register,
    List.mem_append] at hn
  exact hn.imp List.contains_iff_mem.mpr (hjobs n)

theorem registers_track (names : Names) : r.Registers (r.track names) :=
  registers_call rfl fun _ hn => ⟨none, List.mem_map_of_mem hn⟩

theorem registers_settle (target : FetchTarget) (e : Except SyncError (Stores × PushOutcome)) :
    r.Registers (r.settle target e) := by
  cases e with
  | error e => exact registers_same rfl
  | ok x =>
    obtain ⟨s, outcome⟩ := x
    cases outcome with
    | applied referenced =>
      exact registers_call rfl fun _ hn => ⟨none, List.mem_map_of_mem hn⟩
    | stale | needsFetch => exact registers_same rfl

theorem registers_dispatch (filter : Names) (busy : Bool) (m : Notification) :
    r.Registers (r.dispatch filter busy m) := by
  cases m with
  | flagUpdate u => exact registers_settle _ _
  | segmentRuleUpdate u => exact registers_settle _ _
  | kill n name treatment => exact registers_same rfl
  | segmentUpdate n name =>
    rw [dispatch]
    split
    · exact registers_same rfl
    · refine registers_call rfl fun m hm => ⟨some n, ?_⟩
      have hname : m = name := List.mem_singleton.mp (Registry.mem_fresh.mp hm).1
      rw [hname]
      exact List.mem_singleton_self _
  | _ => exact registers_same rfl

end Replica

namespace Virtual

variable {β : Type} {n : String}

namespace World

variable {f : Interject Empty β} {u v w w' : World Empty β}

/-- Whether a world becomes the other one by calls of its registry, without the pool doing
anything, and every name that is new is to be fetched, if the pool takes jobs. -/
structure Discovers (w v : World Empty β) : Prop where
  calls : ∃ calls, v.replica.registry = w.replica.registry.after calls
  workers : v.workers = w.workers
  jobs : w.jobs <+: v.jobs
  fetched : w.poolOpen = true → ∀ n, v.replica.registry.contains n = true →
    w.replica.registry.contains n = true ∨ ∃ till, (⟨n, till, none⟩ : SegmentJob) ∈ v.jobs

theorem poolOpen_congr (h : v.workers = w.workers) : v.poolOpen = w.poolOpen := by
  rw [poolOpen, poolOpen, h]

namespace Discovers

theorem of_grows (h : w.desk.Grows v.desk)
    (hregistry : v.replica.registry = w.replica.registry) : w.Discovers v := by
  obtain ⟨more, hmore, -⟩ := h.jobs
  exact ⟨⟨[], hregistry⟩, h.workers, ⟨more, hmore.symm⟩, fun _ n hn => .inl (hregistry ▸ hn)⟩

theorem of_desk (h : v.desk = w.desk) : w.Discovers v :=
  of_grows (.of_eq h) (congrArg Desk.registry h)

theorem trans (h : u.Discovers v) (h' : v.Discovers w) : u.Discovers w where
  calls := by
    obtain ⟨calls, hv⟩ := h.calls
    obtain ⟨later, hw⟩ := h'.calls
    exact ⟨calls ++ later, by rw [hw, hv, Registry.after_append]⟩
  workers := h'.workers.trans h.workers
  jobs := h.jobs.trans h'.jobs
  fetched := by
    intro hopen n hn
    rcases h'.fetched ((poolOpen_congr h.workers).trans hopen) n hn with hv | hnew
    · refine (h.fetched hopen n hv).imp_right fun ⟨till, hmem⟩ => ⟨till, ?_⟩
      exact h'.jobs.subset hmem
    · exact .inr hnew

end Discovers

theorem mem_jobs_enqueue {till : Option ChangeNumber} :
    ∀ (jobs : List FetchJob) {w : World Empty β}, w.poolOpen = true → .segment n till ∈ jobs →
      (⟨n, till, none⟩ : SegmentJob) ∈ (w.enqueue jobs).jobs
  | [], _, _, h => nomatch h
  | job :: jobs, w, hopen, h => by
    have hlater : ∀ v : World Empty β, v.jobs ⊆ (v.enqueue jobs).jobs := by
      intro v
      obtain ⟨more, hmore, -⟩ := (grows_enqueue jobs v).jobs
      exact (show (v.enqueue jobs).jobs = v.jobs ++ more from hmore) ▸ List.subset_append_left _ _
    rcases List.mem_cons.mp h with rfl | h
    · refine hlater _ ?_
      simp only [enqueueSegment, if_pos hopen]
      exact List.mem_concat_self
    · refine mem_jobs_enqueue jobs ((poolOpen_congr ?_).trans hopen) h
      cases job with
      | rules t => exact congrArg Desk.workers (desk_enqueueRules t)
      | segment name till => exact (grows_enqueueSegment name till).workers

/-- What a replica registers is discovered as its jobs are handed over. -/
theorem discovers_enqueue {x : Replica × List FetchJob} (h : w.replica.Registers x) :
    w.Discovers ({ w with replica := x.1 }.enqueue x.2) := by
  have hgrows := grows_enqueue x.2 { w with replica := x.1 }
  have hregistry : ({ w with replica := x.1 }.enqueue x.2).replica.registry = x.1.registry :=
    congrArg Core.registry (core_enqueue x.2 { w with replica := x.1 })
  obtain ⟨more, hmore, -⟩ := hgrows.jobs
  refine ⟨hregistry ▸ h.calls, hgrows.workers, ⟨more, hmore.symm⟩, fun hopen n hn => ?_⟩
  rw [hregistry] at hn
  refine (h.fetched n hn).imp_right fun ⟨till, hmem⟩ => ⟨till, ?_⟩
  exact mem_jobs_enqueue x.2 hopen hmem

theorem discovers_track (names : Names) : w.Discovers (w.track names) :=
  discovers_enqueue (Replica.registers_track names)

theorem discovers_dispatch (m : Notification) : w.Discovers (w.dispatch m) :=
  discovers_enqueue (Replica.registers_dispatch w.filter w.rulesBusy m)

theorem discovers_perform (e : Manager.Effect) : w.Discovers (w.perform e) := by
  cases e with
  | publish s => exact .of_desk (desk_publish s)
  | dispatch m => exact discovers_dispatch m
  | authenticate =>
    unfold perform
    dsimp only
    split <;> exact .of_desk rfl
  | connect t =>
    unfold perform
    dsimp only
    split <;> exact .of_desk rfl
  | _ => exact .of_desk rfl

theorem discovers_actManager (h : w.actManager = some w') : w.Discovers w' :=
  actManager_induction (P := fun v : World Empty β => w.Discovers v)
    (fun _ _ hv => hv.trans (.of_desk rfl)) (fun _ e hv => hv.trans (discovers_perform e)) h
    (.of_desk rfl)

/-! ### Turns -/

theorem discovers_stepWork {work : Work Empty} {x : Work Empty ⊕ Except SyncError Names}
    (h : w.stepWork f work = some (v, x)) : w.Discovers v :=
  .of_grows (grows_stepWork h) (frame_stepWork h).1

/-- The poll of flags calls the registry when it ends well. -/
theorem discovers_actFlagsTask {woken : Bool} (h : w.actFlagsTask f woken = some w') :
    w'.replica.registry = w.replica.registry ∨ w.Discovers w' := by
  cases flagsTurn_of_actFlagsTask h with
  | stops => exact .inl (congrArg Core.registry (core_release _))
  | begins => exact .inl rfl
  | goesOn _ _ _ hs => exact .inl (frame_stepWork hs).1
  | @ends p _ v r _ _ _ hs =>
    cases r with
    | error e => exact .inl (frame_stepWork hs).1
    | ok names =>
      have hfound : w.Discovers (v.track names) :=
        (discovers_stepWork hs).trans (discovers_track names)
      exact .inr ⟨hfound.calls, hfound.workers, hfound.jobs, hfound.fetched⟩

theorem discovers_actRuleWorker {woken : Bool} (h : w.actRuleWorker f woken = some w') :
    w'.replica.registry = w.replica.registry ∨ w.Discovers w' := by
  cases ruleWorkerTurn_of_actRuleWorker h with
  | leaves | takes => exact .inl rfl
  | drops => exact .inl (congrArg Core.registry (core_release _))
  | goesOn _ _ hs | fails _ _ hs => exact .inl (frame_stepWork hs).1
  | @finds _ v names _ _ hs =>
    have hidle : v.Discovers { v with ruleWorker := .idle } := .of_desk rfl
    exact .inr (((discovers_stepWork hs).trans hidle).trans (discovers_track names))

theorem registry_actFront (h : w.actFront f = some w') :
    w'.replica.registry = w.replica.registry := by
  cases frontTurn_of_actFront h with
  | goesOn _ hs | ends _ hs => exact (frame_stepWork hs).1

theorem registry_actWorker {woken : Bool} {i : Nat} (h : w.actWorker f woken i = some w') :
    w'.replica.registry = w.replica.registry := by
  cases poolTurn_of_actWorker h with
  | leaves | takes | aborts => rfl
  | cancels => exact congrArg Core.registry (core_resolve _ _)
  | goesOn _ _ _ hs => exact (frame_stepWork hs).1
  | ends _ _ _ hs =>
    exact (congrArg Core.registry (core_resolve _ _)).trans (frame_stepWork hs).1

theorem discovers_act {woken : Bool} {a : Actor} (h : w.act f woken a = some w') :
    w'.replica.registry = w.replica.registry ∨ w.Discovers w' := by
  cases a with
  | front => exact .inl (registry_actFront h)
  | worker i => exact .inl (registry_actWorker h)
  | flagsTask => exact discovers_actFlagsTask h
  | ruleWorker => exact discovers_actRuleWorker h
  | segmentsTask => exact .inl (congrArg Core.registry (core_actSegmentsTask h))
  | follower => exact .inl (congrArg Core.registry (core_actFollower h))
  | connection => exact .inl (congrArg Core.registry (core_actConnection h))
  | manager => exact .inr (discovers_actManager h)

/-! ### Plays -/

/-- **A move calls the registry, or leaves it as it is.** -/
theorem discovers_move (m : Move) : (w.move f m).replica.registry = w.replica.registry ∨
    w.Discovers (w.move f m) := by
  cases m with
  | turn woken a =>
    rw [move]
    cases ha : w.act f woken a with
    | none => exact .inl rfl
    | some w' => exact discovers_act ha
  | wait ms => exact .inl rfl
  | notify m => exact .inr (discovers_dispatch m)
  | target t => exact .inl (congrArg Core.registry (core_enqueueRules t))
  | job j => exact .inl (congrArg Core.registry (core_enqueueSegment j))

/-- **The registry of a play is one that is called**, by whatever tasks take their turns. -/
theorem registry_play : ∀ (ms : List Move) (w : World Empty β),
    ∃ calls, (w.play f ms).replica.registry = w.replica.registry.after calls
  | [], _ => ⟨[], rfl⟩
  | m :: ms, w => by
    have hmove : ∃ calls, (w.move f m).replica.registry = w.replica.registry.after calls := by
      rcases discovers_move (f := f) (w := w) m with hsame | hcalled
      · exact ⟨[], hsame⟩
      · exact hcalled.calls
    obtain ⟨calls, hcalls⟩ := hmove
    obtain ⟨later, hlater⟩ := registry_play ms (w.move f m)
    refine ⟨calls ++ later, ?_⟩
    rw [Registry.after_append, ← hcalls]
    exact hlater

/-- So no segment is swept twice, -/
theorem nodup_play (ms : List Move) (h : w.replica.registry.names.Nodup) :
    (w.play f ms).replica.registry.names.Nodup := by
  obtain ⟨calls, hcalls⟩ := registry_play (f := f) ms w
  rw [hcalls]
  exact Registry.nodup_after calls h

/-- and what is known is not forgotten. -/
theorem contains_play (ms : List Move) (h : w.replica.registry.contains n = true) :
    (w.play f ms).replica.registry.contains n = true := by
  obtain ⟨calls, hcalls⟩ := registry_play (f := f) ms w
  rw [hcalls, Registry.contains_after]
  exact .inl h

/-- **A segment is discovered in one move**: it is unknown before it and known ever after. In that
move its fetch is queued, if the pool takes jobs. -/
theorem discovered_in_one_move : ∀ (ms : List Move) {w : World Empty β},
    w.replica.registry.contains n = false →
    (w.play f ms).replica.registry.contains n = true →
    ∃ k < ms.length,
      (∀ j, (w.play f (ms.take j)).replica.registry.contains n = true ↔ k < j) ∧
      ((w.play f (ms.take k)).poolOpen = true →
        ∃ till, (⟨n, till, none⟩ : SegmentJob) ∈ (w.play f (ms.take (k + 1))).jobs)
  | [], _, hnew, hknown => Bool.noConfusion (hnew.symm.trans hknown)
  | m :: ms, w, hnew, hknown => by
    by_cases hm : (w.move f m).replica.registry.contains n = true
    · refine ⟨0, Nat.succ_pos _, fun j => ?_, fun hopen => ?_⟩
      · cases j with
        | zero => simp [play, hnew]
        | succ j => exact iff_of_true (contains_play (ms.take j) hm) (Nat.succ_pos j)
      · rcases discovers_move (f := f) (w := w) m with hsame | hfound
        · rw [hsame, hnew] at hm
          cases hm
        · refine (hfound.fetched hopen n hm).resolve_left ?_
          rw [hnew]
          exact Bool.false_ne_true
    · obtain ⟨k, hk, hmoment, hqueued⟩ :=
        discovered_in_one_move ms (eq_false_of_ne_true hm) hknown
      refine ⟨k + 1, Nat.succ_lt_succ hk, fun j => ?_, hqueued⟩
      cases j with
      | zero => simp [play, hnew]
      | succ j => exact (hmoment j).trans Nat.succ_lt_succ_iff.symm

end World

end Virtual

end Halyard

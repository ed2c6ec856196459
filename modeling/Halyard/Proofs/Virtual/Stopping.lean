/-
# A stopped engine keeps what it has

When an engine stops, fetches may be under way, answers on their way, jobs and
notifications queued. The stores are frozen before anything else happens, so none of
it can reach them. That is shown of more than the shutdown: from any world with
frozen stores the tasks may take any turns, time may pass, notifications, targets
and jobs may come in, work may begin at the front, and the stores may be written to
behind the engine's back (`World.stopped_engine_is_immutable`).

All that a task does to the stores goes through what it receives or what is
dispatched to it (`World.stores_stepWork_freeze`, `Replica.stores_dispatch_freeze`), and
both were seen to leave frozen stores alone.

Key definitions: `EngineStep`, `World.step`, `World.steps`.
Key theorems: `RuleFetch.receive_freeze`, `Replica.stores_dispatch_freeze`,
`World.stores_stepWork_freeze`, `World.stores_steps_freeze`, `World.stopped_engine_is_immutable`.
-/
import Halyard.Proofs.Store.Frozen
import Halyard.Proofs.Virtual.Run
import Halyard.Virtual.Lifecycle

namespace Halyard

open Push

/-! ### What is received and dispatched -/

theorem RuleFetch.receive_freeze (filter : Names) (f : RuleFetch) (s : Stores)
    (a : Except FetchError RuleChanges) : (f.receive filter s.freeze a).1 = s.freeze := by
  cases a with
  | error e => rfl
  | ok c =>
    have hrefused := s.applyChanges_freeze filter c
    unfold receive
    simp only [hrefused]

theorem SegmentFetch.receive_freeze (name : String) (f : SegmentFetch) (s : SegmentStore)
    (a : Except FetchError SegmentChanges) : (f.receive name s.freeze a).1 = s.freeze := by
  cases a with
  | error e => rfl
  | ok c => rfl

namespace Replica

variable {r : Replica} {s : Stores}

/-- What follows an attempt to apply a definition changes the stores no further. -/
theorem stores_settle (r : Replica) (target : FetchTarget)
    (x : Except SyncError (Stores × PushOutcome)) :
    (r.settle target x).1.stores = (attempt r.stores x).1 := by
  cases x with
  | error e => rfl
  | ok y =>
    obtain ⟨t, outcome⟩ := y
    cases outcome <;> rfl

/-- **No notification changes frozen stores.** -/
theorem stores_dispatch_freeze (h : r.stores = s.freeze) (filter : Names) (busy : Bool)
    (n : Notification) : (r.dispatch filter busy n).1.stores = s.freeze := by
  cases n with
  | flagUpdate u =>
    refine (r.stores_settle _ _).trans ?_
    rw [h]
    cases u.inlined.toOption with
    | none => rfl
    | some f => exact (s.applyPushedFlag_freeze filter busy f u.previous).fst_attempt
  | segmentRuleUpdate u =>
    refine (r.stores_settle _ _).trans ?_
    rw [h]
    cases u.inlined.toOption with
    | none => rfl
    | some g => exact (s.applyPushedSegment_freeze busy g u.previous).fst_attempt
  | kill n name treatment =>
    have hkill : r.stores.flags.kill name treatment n = .error .frozen := by
      rw [h]
      exact s.flags.kill_freeze name treatment n
    simp only [dispatch, hkill]
    exact h
  | segmentUpdate n name =>
    unfold dispatch
    simp only
    split
    · exact h
    · exact h
  | _ => exact h

end Replica

namespace Virtual

variable {β : Type} {f : World.Interject Empty β} {w w' : World Empty β} {s : Stores}

/-! ### Work and turns -/

namespace World

theorem stores_stepRules_freeze {c : RuleCall Empty} {x : RuleCall Empty ⊕ Except SyncError Names}
    (hw : w.replica.stores = s.freeze) (h : w.stepRules f c = some (w', x)) :
    w'.replica.stores = s.freeze := by
  rcases stepRules_cases h with ⟨-, hcore, -⟩ | ⟨a, t, reception, -, -, hreceive, hcore, -⟩
  · exact (congrArg Core.stores hcore).trans hw
  · have ht : t = s.freeze := by
      rw [hw] at hreceive
      exact (congrArg Prod.fst hreceive).symm.trans (c.fetch.receive_freeze w.filter s a.answer)
    exact (congrArg Core.stores hcore).trans ht

theorem stores_stepSegment_freeze {c : SegmentCall Empty}
    {x : SegmentCall Empty ⊕ Except SyncError Unit}
    (hw : w.replica.stores = s.freeze) (h : w.stepSegment f c = some (w', x)) :
    w'.replica.stores = s.freeze := by
  rcases stepSegment_cases h with
    ⟨-, a, hrequest, -⟩ | ⟨a, t, keys, reception, -, -, hreceive, hcore, -⟩
  · rcases requestSegment_cases hrequest with ⟨-, hcore, -⟩ | ⟨r, rest, -, hcore, -⟩
    · exact (congrArg Core.stores hcore).trans hw
    · exact (congrArg Core.stores hcore).trans hw
  · have ht : t = s.segments.freeze := by
      rw [hw] at hreceive
      exact (congrArg Prod.fst hreceive).symm.trans
        (c.fetch.receive_freeze c.name s.segments a.answer)
    refine (congrArg Core.stores hcore).trans ?_
    show { w.replica.stores with segments := t } = s.freeze
    rw [hw, ht]
    rfl

/-- **No step of work changes frozen stores.** -/
theorem stores_stepWork_freeze {work : Work Empty} {x : Work Empty ⊕ Except SyncError Names}
    (hw : w.replica.stores = s.freeze) (h : w.stepWork f work = some (w', x)) :
    w'.replica.stores = s.freeze := by
  cases workStep_of_stepWork h with
  | settled => exact hw
  | rules hs => exact stores_stepRules_freeze hw hs
  | rulesOver hs => exact stores_stepRules_freeze hw hs
  | segment hs => exact stores_stepSegment_freeze hw hs
  | segmentOver hs => exact stores_stepSegment_freeze hw hs
  | pursueRules hp =>
    rcases stepRulePursuit_cases hp with ⟨-, hcore, -⟩ | ⟨c, c', -, hs, -⟩ | ⟨c, r, -, hs, -⟩
    · exact (congrArg Core.stores hcore).trans hw
    · exact stores_stepRules_freeze hw hs
    · exact stores_stepRules_freeze hw hs
  | pursueSegment hp =>
    rcases stepSegmentPursuit_cases hp with ⟨-, hcore, -⟩ | ⟨c, c', -, hs, -⟩ | ⟨c, r, -, hs, -⟩
    · exact (congrArg Core.stores hcore).trans hw
    · exact stores_stepSegment_freeze hw hs
    · exact stores_stepSegment_freeze hw hs

theorem stores_turn_freeze {seat : Seat} {c : Core Empty} (hw : w.replica.stores = s.freeze)
    (h : Turn f w seat c) : c.stores = s.freeze := by
  cases h with
  | drops _ => exact hw
  | begins _ _ _ _ => exact hw
  | goesOn _ hs => exact stores_stepWork_freeze hw hs
  | ends _ hs =>
    rw [Core.stores_credit]
    exact stores_stepWork_freeze hw hs

theorem stores_dispatch_freeze (hw : w.replica.stores = s.freeze) (n : Notification) :
    (w.dispatch n).replica.stores = s.freeze := by
  have hcore := congrArg Core.stores (core_dispatch (w := w) n)
  exact hcore.trans (Replica.stores_dispatch_freeze hw w.filter w.rulesBusy n)

theorem stores_play_freeze (hw : w.replica.stores = s.freeze) (ms : List Move) :
    (w.play f ms).replica.stores = s.freeze :=
  play_induction (P := fun c : Core Empty => c.stores = s.freeze)
    (fun _ n hv => stores_dispatch_freeze hv n) (fun _ _ _ ht hv => stores_turn_freeze hv ht) ms hw

end World

/-! ### Steps of an engine and of others -/

/-- What may happen to an engine: a move, work that begins at the front, or a write to the
stores, by the engine or by whoever else holds them. -/
inductive EngineStep where
  | move (m : Move)
  | front (work : Work Empty)
  | write (x : Stores.Write)

namespace World

/-- The world after a step. -/
def step (f : Interject Empty β) (w : World Empty β) : EngineStep → World Empty β
  | .move m => w.move f m
  | .front work => { w with front := some work }
  | .write x => w.setStores (w.replica.stores.write x).1

/-- The world after some steps. -/
def steps (f : Interject Empty β) (w : World Empty β) (es : List EngineStep) : World Empty β :=
  es.foldl (step f) w

theorem stores_step_freeze (hw : w.replica.stores = s.freeze) (e : EngineStep) :
    (w.step f e).replica.stores = s.freeze := by
  cases e with
  | move m => exact stores_play_freeze hw [m]
  | front work => exact hw
  | write x =>
    have hstays := (s.write_freeze x).stays
    rw [← hw] at hstays
    exact hstays.trans hw

/-- **Nothing that happens changes frozen stores.** -/
theorem stores_steps_freeze (hw : w.replica.stores = s.freeze) (es : List EngineStep) :
    (w.steps f es).replica.stores = s.freeze :=
  List.foldlRecOn (motive := fun v : World Empty β => v.replica.stores = s.freeze) es _ hw
    fun _ hv e _ => stores_step_freeze hv e

theorem stores_stopEngine (f : Interject Empty β) (w : World Empty β) :
    (w.stopEngine f).replica.stores = w.replica.stores.freeze := by
  let v := { w.setStores w.replica.stores.freeze with shutdown := true }
  have hsettled : (v.settle f maxRounds).replica.stores = w.replica.stores.freeze := by
    obtain ⟨ms, hplay⟩ := settle_plays (f := f) maxRounds v
    rw [← hplay]
    exact stores_play_freeze rfl ms
  unfold stopEngine
  simp only
  split
  · exact hsettled
  · rfl

/-- **A stopped engine has an immutable snapshot.** Let the stores of a world be frozen, and let
anything happen afterwards. Then the stores are what they were. A write that would have changed
what they held is refused. Whatever is read is what was read before. And if the engine is stopped,
which freezes them and lets all tasks end, the stores are the same before and after whatever
happens then. -/
theorem stopped_engine_is_immutable (f : Interject Empty β) (w : World Empty β)
    (es : List EngineStep) :
    let held := w.replica.stores
    let later := ((w.setStores held.freeze).steps f es).replica.stores
    later = held.freeze ∧
    (∀ x : Stores.Write, (later.write x).1 = held.freeze ∧
      ((held.write x).1.freeze ≠ held.freeze → (later.write x).2 = .error .frozen)) ∧
    (∀ (γ : Type) (q : Stores.Read γ), later.ask q = held.ask q) ∧
    (w.stopEngine f).replica.stores = held.freeze ∧
    ((w.stopEngine f).steps f es).replica.stores = held.freeze := by
  intro held later
  have hfrozen : (w.setStores held.freeze).replica.stores = held.freeze := rfl
  have hlater : later = held.freeze := stores_steps_freeze hfrozen es
  have hstopped : (w.stopEngine f).replica.stores = held.freeze := stores_stopEngine f w
  refine ⟨hlater, fun x => ?_, fun γ q => ?_, hstopped, stores_steps_freeze hstopped es⟩
  · have hwithstands := held.write_freeze x
    rw [hlater]
    exact ⟨hwithstands.stays, fun hchanges => hwithstands.refused.resolve_right hchanges⟩
  · rw [hlater]
    exact held.ask_freeze q

/-- An engine that stops while a page is on its way: the page arrives, and a flag is put, but
there is none. -/
theorem stopped_engine_refuses_late_page :
    let page : Pending Empty RuleChanges :=
      ⟨0, [], .ok (.ofFlags unsynced 10 [.asking "a" [] 10])⟩
    let w : World Empty Unit := { World.initial Names.empty ⟨1, 1, 1⟩ with
      front := some (.rules ⟨0, .poll, .start, some page⟩) }
    let later := ((w.setStores w.replica.stores.freeze).steps (fun i _ => i.elim)
      [.move (.turn true .front)]).replica.stores
    (later.write (.flags (.write (.put (.asking "a" [] 10))))).2 = .error .frozen ∧
      later.ask (.flags (.rule "a")) = none := by
  intro page w later
  obtain ⟨-, hwrite, hread, -⟩ :=
    stopped_engine_is_immutable (fun i _ => i.elim) w [.move (.turn true .front)]
  refine ⟨(hwrite (.flags (.write (.put (.asking "a" [] 10))))).2 fun hsame => ?_, hread _ _⟩
  have hitem := congrArg (fun s : Stores => (s.flags.get? "a").isSome) hsame
  exact absurd hitem (by decide)

end World

end Virtual

end Halyard

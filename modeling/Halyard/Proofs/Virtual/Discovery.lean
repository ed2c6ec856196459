/-
# Which discovered segments are registered

Flags are polled, and fetched because push asks for it, while notifications
store definitions of their own. All of them discover segments. In every play a
segment that a stored rule refers to is registered, or a fetch of rules under
way holds its name, or the name was lost (`World.covered_iff_lost_registered`); once
no fetch is under way, all such segments are registered exactly if those whose
names were lost are.

Names are lost in three ways (`Work.Loses`): an answer makes a fetch lose them,
be it one of the poll or one of a pursuit, or a pursuit gives up over an error
that trying again does not cure.

Key definitions: `Work.Holds`, `Work.Loses`, `World.Lost`, `World.Covered`,
`Core.Remembers`.
Key theorems: `World.stepWork_keeps`, `Core.Remembers.turn`,
`World.covered_iff_lost_registered`.
-/
import Halyard.Proofs.Store.Discovery
import Halyard.Proofs.Virtual.Run

namespace Halyard.Virtual

open Push

variable {β : Type} {f : World.Interject Empty β} {w w' : World Empty β} {n : String}

/-- Whether the outcome of a step of a fetch still holds the name of a segment. -/
def RuleCall.HeldAfter {ρ : Type} : RuleCall ρ ⊕ Except SyncError Names → String → Prop
  | .inl c, n => n ∈ c.fetch.referenced
  | .inr (.ok names), n => n ∈ names
  | .inr (.error _), _ => False

/-- Whether work still holds the name of a segment. -/
def Work.Holds {ρ : Type} : Work ρ → String → Prop
  | .rules c, n => n ∈ c.fetch.referenced
  | .pursueRules p, n => n ∈ p.referenced ∨ ∃ c, p.call = some c ∧ n ∈ c.fetch.referenced
  | .settled (.ok names), n => n ∈ names
  | _, _ => False

/-- Whether the outcome of a step of work still holds the name of a segment. -/
def Work.HeldAfter {ρ : Type} : Work ρ ⊕ Except SyncError Names → String → Prop
  | .inl work, n => work.Holds n
  | .inr (.ok names), n => n ∈ names
  | .inr (.error _), _ => False

/-- Whether work that goes on lets go of the name of a segment for good. -/
inductive Work.Loses (w : World Empty β) : Work Empty → String → Prop
  /-- An answer makes the fetch lose it. -/
  | fetch {c : RuleCall Empty} {a : Pending Empty RuleChanges} {n : String} :
      c.pending = some a → a.due ≤ w.now →
      c.fetch.Loses w.filter w.replica.stores a.answer n → Work.Loses w (.rules c) n
  /-- An answer makes the fetch of a pursuit lose it. -/
  | attempt {p : RulePursuit Empty} {c : RuleCall Empty} {a : Pending Empty RuleChanges}
      {n : String} : p.call = some c → c.pending = some a → a.due ≤ w.now →
      c.fetch.Loses w.filter w.replica.stores a.answer n → Work.Loses w (.pursueRules p) n
  /-- The pursuit ends over an error, whatever its earlier fetches found. -/
  | pursuit {p : RulePursuit Empty} {c : RuleCall Empty} {a : Pending Empty RuleChanges}
      {s : Stores} {e : SyncError} {n : String} : p.call = some c → c.pending = some a →
      a.due ≤ w.now →
      c.fetch.receive w.filter w.replica.stores a.answer = (s, .over (.error e)) →
      e.retryable = false → n ∈ p.referenced → Work.Loses w (.pursueRules p) n

namespace World

/-! ### One step of work -/

theorem stepRules_keeps {c : RuleCall Empty} {x : RuleCall Empty ⊕ Except SyncError Names}
    (h : w.stepRules f c = some (w', x))
    (hn : w.replica.stores.Gains w'.replica.stores n ∨ n ∈ c.fetch.referenced) :
    RuleCall.HeldAfter x n ∨
      ∃ a, c.pending = some a ∧ a.due ≤ w.now ∧
        c.fetch.Loses w.filter w.replica.stores a.answer n := by
  rcases stepRules_cases h with
    ⟨-, hcore, a, rfl⟩ | ⟨a, s, reception, hp, hdue, hr, hcore, rfl⟩
  · have hs : w'.replica.stores = w.replica.stores := congrArg Core.stores hcore
    rw [hs] at hn
    rcases hn with ⟨hn, hnot⟩ | hn
    · exact absurd hn hnot
    · exact .inl hn
  · have hs : w'.replica.stores = s := congrArg Core.stores hcore
    rw [hs] at hn
    rcases RuleFetch.receive_keeps hr hn with hn | hn
    · refine .inl ?_
      rcases reception with fetch | r
      · exact hn
      · cases r <;> exact hn
    · exact .inr ⟨a, hp, hdue, hn⟩

theorem refers_stepSegment {c : SegmentCall Empty} {x : SegmentCall Empty ⊕ Except SyncError Unit}
    (h : w.stepSegment f c = some (w', x)) (hn : w'.replica.stores.Refers n) :
    w.replica.stores.Refers n := by
  rcases stepSegment_cases h with ⟨-, a, hreq, -⟩ | ⟨a, s, keys, reception, -, -, -, hcore, -⟩
  · rcases requestSegment_cases hreq with ⟨-, hcore, -⟩ | ⟨r, rest, -, hcore, -⟩
    · have hs : w'.replica.stores = w.replica.stores := congrArg Core.stores hcore
      rw [← hs]
      exact hn
    · have hs : w'.replica.stores = w.replica.stores := congrArg Core.stores hcore
      rw [← hs]
      exact hn
  · have hs : w'.replica.stores = { w.replica.stores with segments := s } :=
      congrArg Core.stores hcore
    rw [hs] at hn
    exact hn

theorem receive_of_stepRules_error {c : RuleCall Empty} {e : SyncError}
    (h : w.stepRules f c = some (w', .inr (.error e))) :
    ∃ a s, c.pending = some a ∧ a.due ≤ w.now ∧
      c.fetch.receive w.filter w.replica.stores a.answer = (s, .over (.error e)) := by
  rcases stepRules_cases h with ⟨-, -, a, hx⟩ | ⟨a, s, reception, hp, hdue, hr, -, hx⟩
  · cases hx
  · rcases reception with fetch | r
    · cases hx
    · cases hx
      exact ⟨a, s, hp, hdue, hr⟩

theorem next_eq_stop_error {settings : OnDemandSettings} {p : Pursuit} {r : Except SyncError Unit}
    {reached : Bool} {e : SyncError} (h : p.next settings r reached = .stop (.error e)) :
    r = .error e ∧ e.retryable = false := by
  have henter : ∀ b, Pursuit.enter settings b ≠ .stop (.error e) := by
    intro b hb
    unfold Pursuit.enter at hb
    split at hb
    · cases hb
    · split at hb <;> cases hb
  have hproceed : Pursuit.next.proceed settings p reached ≠ .stop (.error e) := by
    intro hp
    unfold Pursuit.next.proceed at hp
    split at hp
    · cases hp
    split at hp
    · cases hp
    split at hp
    · cases hp
    · exact henter _ hp
  cases r with
  | ok _ => exact absurd h hproceed
  | error e' =>
    unfold Pursuit.next at h
    simp only at h
    split at h
    · exact absurd h hproceed
    · rename_i hr
      cases h
      exact ⟨rfl, by simpa using hr⟩

/-- A pursuit goes on to hold what it found, unless it ends over an error. -/
theorem holds_moveRules {p : RulePursuit Empty} {m : Pursuit.Move}
    (hm : ∀ e, m ≠ .stop (.error e)) (hn : n ∈ p.referenced) : (w.moveRules p m).2.Holds n := by
  cases m with
  | stop r =>
    cases r with
    | ok _ => exact hn
    | error e => exact absurd rfl (hm e)
  | wait ms pursuit => exact .inl hn
  | fetch pursuit => exact .inl hn

theorem attempt_keeps {p : RulePursuit Empty} {c : RuleCall Empty}
    {x : RuleCall Empty ⊕ Except SyncError Names} (hcall : p.call = some c)
    (hs : w.stepRules f c = some (w', x))
    (hn : w.replica.stores.Gains w'.replica.stores n ∨ n ∈ c.fetch.referenced) :
    RuleCall.HeldAfter x n ∨ (Work.pursueRules p).Loses w n := by
  rcases stepRules_keeps hs hn with hn | ⟨a, hp, hdue, hn⟩
  · exact .inl hn
  · exact .inr (.attempt hcall hp hdue hn)

theorem stepRulePursuit_keeps {p : RulePursuit Empty} {work : Work Empty}
    (h : w.stepRulePursuit f p = some (w', work))
    (hn : w.replica.stores.Gains w'.replica.stores n ∨ (Work.pursueRules p).Holds n) :
    work.Holds n ∨ (Work.pursueRules p).Loses w n := by
  -- the pursuit holds the name itself, or it is a matter of its fetch
  have hsplit : ∀ c, p.call = some c → n ∈ p.referenced ∨
      (w.replica.stores.Gains w'.replica.stores n ∨ n ∈ c.fetch.referenced) := by
    intro c hcall
    rcases hn with hn | hn | ⟨c', hc', hn⟩
    · exact .inr (.inl hn)
    · exact .inl hn
    · obtain rfl : c = c' := Option.some.inj (hcall.symm.trans hc')
      exact .inr (.inr hn)
  rcases stepRulePursuit_cases h with
    ⟨hcall, hcore, c, -, rfl⟩ | ⟨c, c', hcall, hs, rfl⟩ | ⟨c, r, hcall, hs, rfl⟩
  · have hst : w'.replica.stores = w.replica.stores := congrArg Core.stores hcore
    rw [hst] at hn
    rcases hn with ⟨hn, hnot⟩ | hn | ⟨c', hc', -⟩
    · exact absurd hn hnot
    · exact .inl (.inl hn)
    · rw [hcall] at hc'
      cases hc'
  · rcases hsplit c hcall with hn | hn
    · exact .inl (.inl hn)
    · exact (attempt_keeps hcall hs hn).imp (fun hn => .inr ⟨c', rfl, hn⟩) id
  · cases r with
    | ok names =>
      have hm : ∀ e, p.pursuit.next w'.onDemand (.ok ()) (p.target.reached w'.replica.stores) ≠
          .stop (.error e) := fun e he => by cases (next_eq_stop_error he).1
      have hheld := fun hn => holds_moveRules (w := w') (n := n)
        (p := { p with referenced := p.referenced.union names }) hm (Names.mem_union.mpr hn)
      rcases hsplit c hcall with hn | hn
      · exact .inl (hheld (.inl hn))
      · exact (attempt_keeps hcall hs hn).imp (fun hn => hheld (.inr hn)) id
    | error e =>
      rcases hsplit c hcall with hn | hn
      · by_cases hr : e.retryable = true
        · refine .inl (holds_moveRules (fun e' he => ?_) hn)
          obtain ⟨he', hf⟩ := next_eq_stop_error he
          cases he'
          rw [hr] at hf
          cases hf
        · obtain ⟨a, s, hp, hdue, hrec⟩ := receive_of_stepRules_error hs
          exact .inr (.pursuit hcall hp hdue hrec (by simpa using hr) hn)
      · exact (attempt_keeps hcall hs hn).imp False.elim id

theorem stepWork_onSegment {work : Work Empty} {x : Work Empty ⊕ Except SyncError Names}
    (hw : work.OnSegment) (h : w.stepWork f work = some (w', x)) :
    (w'.replica.stores.Refers n → w.replica.stores.Refers n) ∧
      ∀ work', x = .inl work' → work'.OnSegment := by
  cases workStep_of_stepWork h with
  | settled => exact ⟨id, fun work' hx => by cases hx⟩
  | rules _ => exact hw.elim
  | rulesOver _ => exact hw.elim
  | pursueRules _ => exact hw.elim
  | segment hs =>
    refine ⟨refers_stepSegment hs, ?_⟩
    rintro work' ⟨⟩
    trivial
  | segmentOver hs => exact ⟨refers_stepSegment hs, fun work' hx => by cases hx⟩
  | @pursueSegment p _ _ hp =>
    rcases stepSegmentPursuit_cases hp with
      ⟨-, hcore, c, -, rfl⟩ | ⟨c, c', -, hs, rfl⟩ | ⟨c, r, -, hs, rfl⟩
    · have hst : w'.replica.stores = w.replica.stores := congrArg Core.stores hcore
      refine ⟨fun hn => hst ▸ hn, ?_⟩
      rintro work' ⟨⟩
      trivial
    · refine ⟨refers_stepSegment hs, ?_⟩
      rintro work' ⟨⟩
      trivial
    · refine ⟨refers_stepSegment hs, ?_⟩
      rintro work' ⟨⟩
      exact (onSegment_moveSegment p _).1

/-- **What the stores begin to refer to, and what the work held before, the work holds
afterwards or loses.** -/
theorem stepWork_keeps {work : Work Empty} {x : Work Empty ⊕ Except SyncError Names}
    (h : w.stepWork f work = some (w', x))
    (hn : w.replica.stores.Gains w'.replica.stores n ∨ work.Holds n) :
    Work.HeldAfter x n ∨ work.Loses w n := by
  have hsegment : work.OnSegment → ¬work.Holds n → False := by
    intro hon hno
    rcases hn with ⟨hn, hnot⟩ | hn
    · exact hnot ((stepWork_onSegment hon h).1 hn)
    · exact hno hn
  cases workStep_of_stepWork h with
  | @settled r =>
    rcases hn with ⟨hn, hnot⟩ | hn
    · exact absurd hn hnot
    · refine .inl ?_
      cases r <;> exact hn
  | rules hs =>
    rcases stepRules_keeps hs hn with hn | ⟨a, hp, hdue, hn⟩
    · exact .inl hn
    · exact .inr (.fetch hp hdue hn)
  | @rulesOver c _ r hs =>
    rcases stepRules_keeps hs hn with hn | ⟨a, hp, hdue, hn⟩
    · refine .inl ?_
      cases r <;> exact hn
    · exact .inr (.fetch hp hdue hn)
  | segment _ => exact (hsegment trivial id).elim
  | segmentOver _ => exact (hsegment trivial id).elim
  | pursueRules hs => exact stepRulePursuit_keeps hs hn
  | pursueSegment _ => exact (hsegment trivial id).elim

end World

/-! ### The invariant -/

/-- Whether what is found in a seat is registered in the end. -/
def Seat.Discovers (i : Seat) : Prop := i = .poll ∨ i = .rules

/-- Whether the work in a seat that discovers holds the name of a segment. -/
def Core.HoldsAt (c : Core Empty) (i : Seat) (n : String) : Prop :=
  i.Discovers ∧ ∃ work, c.work i = some work ∧ work.Holds n

/-- What holds of the core while an engine runs, `lost` being the names that were lost: the
pool fetches segments only, and no segment that a stored rule refers to is forgotten. -/
structure Core.Remembers (lost : String → Prop) (c : Core Empty) : Prop where
  running : c.shutdown = false
  front : c.work .front = none
  workers : ∀ i work, c.work (.worker i) = some work → work.OnSegment
  found : ∀ n, c.stores.Refers n →
    c.registry.contains n = true ∨ (∃ i, c.HoldsAt i n) ∨ lost n

namespace Core.Remembers

variable {lost lost' : String → Prop} {c d : Core Empty}

theorem mono (h : c.Remembers lost) (hl : ∀ n, lost n → lost' n) : c.Remembers lost' where
  running := h.running
  front := h.front
  workers := h.workers
  found n hn := (h.found n hn).imp id (Or.imp id (hl n))

theorem dispatch (h : w.core.Remembers lost) (m : Notification) :
    (w.dispatch m).core.Remembers lost := by
  rw [World.core_dispatch]
  refine ⟨h.running, h.front, h.workers, fun n hn => ?_⟩
  rcases Replica.dispatch_keeps w.filter w.rulesBusy w.replica m hn with hn | hn
  · exact (h.found n hn).imp (Replica.contains_dispatch w.filter w.rulesBusy w.replica m) id
  · exact .inl hn

theorem of_seat (h : c.Remembers lost) {i : Seat} (hshut : d.shutdown = c.shutdown)
    (hoff : ∀ j, j ≠ i → d.work j = c.work j) (hfront : i ≠ .front)
    (hworker : ∀ j work, i = .worker j → d.work i = some work → work.OnSegment)
    (hreg : ∀ n, c.registry.contains n = true → d.registry.contains n = true)
    (hkeep : ∀ n, c.stores.Gains d.stores n ∨ c.HoldsAt i n →
      d.registry.contains n = true ∨ d.HoldsAt i n ∨ lost n) : d.Remembers lost := by
  refine ⟨hshut.trans h.running, ?_, ?_, ?_⟩
  · rw [hoff _ hfront.symm]
    exact h.front
  · intro j work hj
    by_cases hij : .worker j = i
    · exact hworker j work hij.symm (hij ▸ hj)
    · rw [hoff _ hij] at hj
      exact h.workers j work hj
  · intro n hn
    by_cases hold : c.stores.Refers n
    · rcases h.found n hold with hr | ⟨j, hj⟩ | hl
      · exact .inl (hreg n hr)
      · by_cases hij : j = i
        · subst hij
          exact (hkeep n (.inr hj)).imp id (Or.imp (fun hd => ⟨j, hd⟩) id)
        · obtain ⟨hdisc, work, hw, hn⟩ := hj
          exact .inr (.inl ⟨j, hdisc, work, (hoff j hij).trans hw, hn⟩)
      · exact .inr (.inr hl)
    · exact (hkeep n (.inl ⟨hn, hold⟩)).imp id (Or.imp (fun hd => ⟨i, hd⟩) id)

/-- A step of work in a seat discovers something only if the seat is one that discovers. -/
theorem step_keeps (h : w.core.Remembers lost) {i : Seat} {work : Work Empty}
    {x : Work Empty ⊕ Except SyncError Names} (hw : w.core.work i = some work)
    (hs : w.stepWork f work = some (w', x))
    (hn : w.replica.stores.Gains w'.replica.stores n ∨ w.core.HoldsAt i n) :
    i.Discovers ∧ (Work.HeldAfter x n ∨ work.Loses w n) := by
  have hdisc : i.Discovers := by
    rcases hn with ⟨hn, hnot⟩ | hn
    · cases i with
      | front =>
        rw [h.front] at hw
        cases hw
      | worker j => exact absurd ((World.stepWork_onSegment (h.workers j work hw) hs).1 hn) hnot
      | poll => exact .inl rfl
      | rules => exact .inr rfl
    · exact hn.1
  refine ⟨hdisc, World.stepWork_keeps hs (hn.imp id ?_)⟩
  rintro ⟨-, work', hw', hn⟩
  obtain rfl : work' = work := Option.some.inj (hw'.symm.trans hw)
  exact hn

theorem ne_front (h : c.Remembers lost) {i : Seat} {work : Work Empty}
    (hw : c.work i = some work) : i ≠ .front := by
  rintro rfl
  rw [h.front] at hw
  cases hw

theorem contains_credit {i : Seat} {r : Except SyncError Names} (hi : i.Discovers)
    (hn : Work.HeldAfter (.inr r : Work Empty ⊕ Except SyncError Names) n) :
    (c.credit i r).registry.contains n = true := by
  cases r with
  | error e => exact hn.elim
  | ok names =>
    have hreg : (c.registry.register names.toList).1.contains n = true :=
      (Registry.contains_register _).mpr (.inr (Names.mem_toList.mpr hn))
    rcases hi with rfl | rfl
    · exact hreg
    · exact hreg

theorem contains_credit_of_contains {i : Seat} {r : Except SyncError Names}
    (hn : c.registry.contains n = true) : (c.credit i r).registry.contains n = true := by
  cases r with
  | error e => cases i <;> exact hn
  | ok names =>
    have hreg : (c.registry.register names.toList).1.contains n = true :=
      (Registry.contains_register _).mpr (.inl hn)
    cases i with
    | poll => exact hreg
    | rules => exact hreg
    | _ => exact hn

/-- An engine that runs drops the work of a worker of the pool only. -/
theorem drops (h : c.Remembers lost) {i : Seat}
    (hshut : (∀ j, i ≠ .worker j) → c.shutdown = true) : (c.seat i none).Remembers lost := by
  have hworker : ∃ j, i = .worker j := by
    refine Classical.byContradiction fun hno => ?_
    have hstop := hshut fun j hj => hno ⟨j, hj⟩
    rw [h.running] at hstop
    cases hstop
  obtain ⟨j, rfl⟩ := hworker
  refine h.of_seat rfl (fun k hk => Core.work_seat_ne _ _ hk) (by simp) ?_ (fun _ hn => hn) ?_
  · intro k work _ hw
    rw [Core.work_seat_self] at hw
    cases hw
  · rintro n (⟨hn, hnot⟩ | ⟨hi | hi, -⟩)
    · exact absurd hn hnot
    · cases hi
    · cases hi

theorem begins (h : c.Remembers lost) {i : Seat} {work : Work Empty} (hfront : i ≠ .front)
    (hnone : c.work i = none) (hon : ∀ j, i = .worker j → work.OnSegment) :
    (c.seat i (some work)).Remembers lost := by
  refine h.of_seat rfl (fun k hk => Core.work_seat_ne _ _ hk) hfront ?_ (fun _ hn => hn) ?_
  · intro k work' hk hw
    rw [Core.work_seat_self] at hw
    cases hw
    exact hon k hk
  · rintro n (⟨hn, hnot⟩ | ⟨-, work', hw, -⟩)
    · exact absurd hn hnot
    · rw [hnone] at hw
      cases hw

theorem goesOn (h : w.core.Remembers lost) {i : Seat} {work work' : Work Empty}
    (hlost : ∀ n, i.Discovers → work.Loses w n → lost n) (hw : w.core.work i = some work)
    (hs : w.stepWork f work = some (w', .inl work')) :
    (w'.core.seat i (some work')).Remembers lost := by
  obtain ⟨hreg, hshut, hwork⟩ := World.frame_stepWork hs
  refine h.of_seat hshut ?_ (h.ne_front hw) ?_ ?_ ?_
  · intro k hk
    rw [Core.work_seat_ne _ _ hk, hwork]
  · rintro j work'' rfl hw''
    rw [Core.work_seat_self] at hw''
    cases hw''
    exact (World.stepWork_onSegment (n := "") (h.workers j work hw) hs).2 work' rfl
  · intro n hn
    show w'.core.registry.contains n = true
    rw [hreg]
    exact hn
  · intro n hn
    obtain ⟨hi, hn | hn⟩ := h.step_keeps hw hs hn
    · exact .inr (.inl ⟨hi, work', Core.work_seat_self _ _ _, hn⟩)
    · exact .inr (.inr (hlost n hi hn))

theorem ends (h : w.core.Remembers lost) {i : Seat} {work : Work Empty}
    {r : Except SyncError Names} (hlost : ∀ n, i.Discovers → work.Loses w n → lost n)
    (hw : w.core.work i = some work) (hs : w.stepWork f work = some (w', .inr r)) :
    ((w'.core.seat i none).credit i r).Remembers lost := by
  obtain ⟨hreg, hshut, hwork⟩ := World.frame_stepWork hs
  refine h.of_seat ?_ ?_ (h.ne_front hw) ?_ ?_ ?_
  · rw [Core.shutdown_credit]
    exact hshut
  · intro k hk
    rw [Core.work_credit, Core.work_seat_ne _ _ hk, hwork]
  · intro k work' _ hw'
    rw [Core.work_credit, Core.work_seat_self] at hw'
    cases hw'
  · intro n hn
    refine contains_credit_of_contains ?_
    show w'.core.registry.contains n = true
    rw [hreg]
    exact hn
  · intro n hn
    rw [Core.stores_credit] at hn
    obtain ⟨hi, hn | hn⟩ := h.step_keeps hw hs hn
    · exact .inl (contains_credit hi hn)
    · exact .inr (.inr (hlost n hi hn))

/-- **A turn forgets nothing but what the work of its seat loses.** -/
theorem turn (h : w.core.Remembers lost) {i : Seat}
    (hlost : ∀ work n, i.Discovers → w.core.work i = some work → work.Loses w n → lost n)
    (ht : World.Turn f w i c) : c.Remembers lost := by
  cases ht with
  | drops hshut => exact h.drops hshut
  | begins hfront hnone _ hon => exact h.begins hfront hnone hon
  | @goesOn work _ _ hw hs => exact h.goesOn (fun n hi hl => hlost work n hi hw hl) hw hs
  | @ends work _ _ hw hs => exact h.ends (fun n hi hl => hlost work n hi hw hl) hw hs

end Core.Remembers

/-! ### Plays -/

namespace World

/-- Whether a move makes work that discovers segments let go of a name for good. -/
def LosesBy (w : World Empty β) : Move → String → Prop
  | .turn _ a, n => ∃ i work, a.seat? = some i ∧ i.Discovers ∧ w.workAt i = some work ∧
      work.Loses w n
  | _, _ => False

/-- Whether some moves make a name be lost. -/
def Lost (f : Interject Empty β) : World Empty β → List Move → String → Prop
  | _, [], _ => False
  | w, m :: ms, n => w.LosesBy m n ∨ Lost f (w.move f m) ms n

/-- Whether all segments that stored rules refer to are registered. -/
def Covered (w : World Empty β) : Prop :=
  ∀ n, w.replica.stores.Refers n → w.replica.registry.contains n = true

theorem remembers_move {lost : String → Prop} (h : w.core.Remembers lost) (m : Move) :
    (w.move f m).core.Remembers fun n => lost n ∨ w.LosesBy m n := by
  have hw : w.core.Remembers fun n => lost n ∨ w.LosesBy m n := h.mono fun n hn => .inl hn
  cases m with
  | turn woken a =>
    rw [move]
    cases ha : w.act f woken a with
    | none => exact hw
    | some w' =>
      refine act_induction (fun v k hv => hv.dispatch k) ?_ ha hw
      intro i c hi ht hc
      exact hc.turn (fun work n hd hwork hl => .inr ⟨i, work, hi, hd, hwork, hl⟩) ht
  | wait ms => exact hw
  | notify k => exact hw.dispatch k
  | target t =>
    rw [move, core_enqueueRules]
    exact hw
  | job j =>
    rw [move, core_enqueueSegment]
    exact hw

theorem remembers_play : ∀ (ms : List Move) {w : World Empty β} {lost : String → Prop},
    w.core.Remembers lost → (w.play f ms).core.Remembers fun n => lost n ∨ w.Lost f ms n
  | [], _, _, h => h.mono fun _ hn => .inl hn
  | m :: ms, w, lost, h => by
    refine (remembers_play ms (remembers_move (f := f) h m)).mono fun n hn => ?_
    rcases hn with (hn | hn) | hn
    · exact .inl hn
    · exact .inr (.inl hn)
    · exact .inr (.inr hn)

/-- At rest nothing is held. -/
theorem remembers_of_rest (hrest : ∀ i, w.workAt i = none) (hrun : w.shutdown = false)
    (hcov : w.Covered) : w.core.Remembers fun _ => False where
  running := hrun
  front := hrest .front
  workers i work hi := by
    rw [show w.core.work (.worker i) = none from hrest (.worker i)] at hi
    cases hi
  found n hn := .inl (hcov n hn)

/-- **Which discovered segments are not registered.** After every play, a segment that a stored
rule refers to is registered, or held by a fetch of rules under way, or its name was lost; and
when no fetch of rules is under way, all of them are registered exactly if those are whose names
were lost. -/
theorem covered_iff_lost_registered (hrest : ∀ i, w.workAt i = none) (hrun : w.shutdown = false)
    (hcov : w.Covered) (ms : List Move) :
    let w' := w.play f ms
    (∀ n, w'.replica.stores.Refers n → w'.replica.registry.contains n = true ∨
      (∃ i, w'.core.HoldsAt i n) ∨ w.Lost f ms n) ∧
    (w'.workAt .poll = none → w'.workAt .rules = none →
      (w'.Covered ↔ ∀ n, w.Lost f ms n → w'.replica.stores.Refers n →
        w'.replica.registry.contains n = true)) := by
  intro w'
  have h : ∀ n, w'.replica.stores.Refers n → w'.replica.registry.contains n = true ∨
      (∃ i, w'.core.HoldsAt i n) ∨ w.Lost f ms n := by
    intro n hn
    exact ((remembers_play ms (remembers_of_rest hrest hrun hcov)).found n hn).imp id
      (Or.imp id fun hl => hl.resolve_left id)
  refine ⟨h, fun hpoll hrules => ⟨fun hc n _ hn => hc n hn, fun hl n hn => ?_⟩⟩
  rcases h n hn with hr | ⟨i, hi, work, hw, -⟩ | hlost
  · exact hr
  · rcases hi with rfl | rfl
    · rw [show w'.core.work .poll = none from hpoll] at hw
      cases hw
    · rw [show w'.core.work .rules = none from hrules] at hw
      cases hw
  · exact hl n hlost hn

/-! ### A poll that loses a segment -/

/-- An engine without workers, whose first poll is answered with a page and then fails. -/
def failingPoll : World Empty Empty :=
  { World.initial Names.empty ⟨0, 0, 0⟩ with
    polling := some ⟨⟨.start 10, none⟩, ⟨.start 10, none⟩, ⟨⟨10, 10⟩, 10⟩, none⟩
    ruleReplies := [⟨0, [], fun _ _ => .ok (.ofFlags unsynced 10 [.asking "a" ["staff"] 10])⟩,
      ⟨0, [], fun _ _ => .error (.status 503 true)⟩] }

/-- The turns of the poll until it has come to its end. -/
def pollMoves : List Move :=
  [.turn true .flagsTask, .turn false .flagsTask, .turn false .flagsTask,
    .turn false .flagsTask, .turn false .flagsTask]

theorem workAt_failingPoll (i : Seat) : failingPoll.workAt i = none := by
  cases i <;> rfl

theorem covered_failingPoll : failingPoll.Covered := by
  rintro n (⟨name, r, hr, -⟩ | ⟨name, r, hr, -⟩) <;> cases hr

theorem refers_failingPoll :
    (failingPoll.play nofun pollMoves).replica.stores.Refers "staff" :=
  .inl ⟨"a", .asking "a" ["staff"] 10, rfl, by decide⟩

/-- The poll stores a flag that refers to a segment, and loses the name of the segment. -/
theorem lost_failingPoll : failingPoll.Lost nofun pollMoves "staff" := by
  have h := (covered_iff_lost_registered (f := nofun) workAt_failingPoll rfl covered_failingPoll
    pollMoves).1 "staff" refers_failingPoll
  rcases h with hr | ⟨i, hi, work, hw, -⟩ | hl
  · cases hr
  · rcases hi with rfl | rfl <;> cases hw
  · exact hl

/-- Not all discovered segments are registered when fetches have come to their end. -/
theorem discovered_segment_unregistered :
    ¬ ∀ (f : Interject Empty Empty) (w : World Empty Empty) (ms : List Move),
      (∀ i, w.workAt i = none) → w.shutdown = false → w.Covered →
      (w.play f ms).workAt .poll = none → (w.play f ms).workAt .rules = none →
      (w.play f ms).Covered := by
  intro h
  have hc := h nofun failingPoll pollMoves workAt_failingPoll rfl covered_failingPoll rfl rfl
    "staff" refers_failingPoll
  cases hc

end World

end Halyard.Virtual

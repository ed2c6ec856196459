/-
# Push that is off stays off

Push is switched off by the backend, by a token that does not allow it, by a
refused authentication, or by a connection that failed for good. Whichever it
was, that is the last thing that a run of the manager publishes: afterwards
nothing is published, and neither a token nor a connection is asked for,
whatever still arrives (`Broadcaster.off_is_final`).

Two facts carry this. Availability goes off with the last of its transitions
only, so a step that switches push off publishes nothing behind it. And the
manager then is in one of the phases from which no input leads back: it has
stopped, or waits for the end of a connection that it gave up for good.

Key definitions: `Manager.Effect.Quiet`, `Manager.Finished`, `Manager.Outlook`,
`Broadcaster.effects`.
Key theorems: `Manager.Moves.of_finished`, `Manager.Moves.outlook`,
`Broadcaster.off_is_final`.
-/
import Halyard.Proofs.Push.Status
import Mathlib.Data.List.Basic

namespace Halyard.Push

/-! ### Availability goes off last -/

namespace Availability

variable {a : Availability}

/-- Whether an answer leaves push on, or passes through nothing but its end. -/
def Switches (r : Availability × List PushStatus) : Prop :=
  (r.1.isOff = false ∧ .off ∉ r.2) ∨ (r.1.isOff = true ∧ r.2 = [.off])

theorem connected_on (h : a.isOff = false) :
    a.connected.1.isOff = false ∧ .off ∉ a.connected.2 := by
  unfold connected
  rw [if_neg (by simp [h])]
  exact ⟨rfl, by simp [transition]⟩

theorem failed_on (h : a.isOff = false) :
    (a.failed true).1.isOff = false ∧ (a.failed true).2 = [.backoff] := by
  unfold failed
  rw [if_neg (by simp [h])]
  exact ⟨rfl, rfl⟩

theorem failed_for_good (h : a.isOff = false) :
    (a.failed false).1.isOff = true ∧ (a.failed false).2 = [.off] := by
  unfold failed
  rw [if_neg (by simp [h])]
  exact ⟨rfl, rfl⟩

theorem occupancy_switches (h : a.isOff = false) (channel : String) (publishers : Nat)
    (timestamp : Int) : Switches (a.occupancy channel publishers timestamp) := by
  have hoff : PushStatus.off ∉ ([] : List PushStatus) := List.not_mem_nil
  simp only [occupancy]
  split
  · exact .inl ⟨h, hoff⟩
  · split
    · exact .inl ⟨h, hoff⟩
    · split
      · exact .inl ⟨rfl, by simp [transition]⟩
      · exact .inl ⟨rfl, by simp [transition]⟩

/-- Of the control messages one switches push off, and nothing follows that. -/
theorem control_switches (h : a.isOff = false) (c : Control) : Switches (a.control c) := by
  have hoff : PushStatus.off ∉ ([] : List PushStatus) := List.not_mem_nil
  unfold control
  rw [if_neg (by simp [h])]
  cases c with
  | paused =>
    dsimp only
    split
    · exact .inl ⟨h, hoff⟩
    · split
      · exact .inl ⟨rfl, by simp [transition]⟩
      · exact .inl ⟨h, hoff⟩
  | resumed =>
    dsimp only
    split
    · split
      · exact .inl ⟨rfl, by simp [transition]⟩
      · exact .inl ⟨h, hoff⟩
    · exact .inl ⟨h, hoff⟩
  | disabled => exact .inr ⟨rfl, rfl⟩

end Availability

namespace Manager

variable {m : Manager} {r : Manager × List Effect} {es es' : List Effect}

/-! ### Phases without a way back -/

/-- Whether an effect neither publishes a status nor asks for a token or a connection. -/
def Effect.Quiet : Effect → Prop
  | .publish _ | .authenticate | .connect _ => False
  | _ => True

/-- Whether nothing but the end can follow a phase. -/
def Phase.Over : Phase → Prop
  | .stopped | .closing .disabled => True
  | _ => False

/-- Whether push is off and nothing but the end can follow. -/
structure Finished (m : Manager) : Prop where
  off : m.availability.isOff = true
  done : m.phase.Over

theorem Phase.Over.not_fails {p : Phase} (h : p.Over) : ¬ p.Fails := by
  cases p with
  | closing e =>
    cases e with
    | disabled => exact id
    | _ => exact h.elim
  | stopped => exact id
  | _ => exact h.elim

theorem Phase.Over.not_prepares {p : Phase} (h : p.Over) : ¬ p.Prepares := by
  cases p with
  | closing e => exact id
  | stopped => exact id
  | _ => exact h.elim

theorem Moves.of_finished (h : m.Moves r) (hm : m.Finished) : r.1.Finished ∧ r.2 = [] := by
  have hno : ∀ {p : Phase}, m.phase = p → ¬ p.Over → False := fun hp hover => hover (hp ▸ hm.done)
  cases h with
  | ignores => exact ⟨hm, rfl⟩
  | stops => exact ⟨⟨hm.off, trivial⟩, rfl⟩
  | givesUp hfails => exact (hm.done.not_fails hfails).elim
  | retries hfails => exact (hm.done.not_fails hfails).elim
  | connects hprepares => exact (hm.done.not_prepares hprepares).elim
  | delays hp => exact (hno hp id).elim
  | begins hp => exact (hp.elim (hno · id) (hno · id)).elim
  | opened hp => exact (hno hp id).elim
  | notified hp => exact (hno hp id).elim
  | closes hp => exact (hno hp id).elim
  | departs => exact ⟨⟨hm.off, hm.done⟩, rfl⟩

/-! ### What a step publishes last -/

/-- Whether effects switch push off and are quiet from then on. -/
def EndsOff (es : List Effect) : Prop :=
  ∃ before after, es = before ++ .publish .off :: after ∧ .publish .off ∉ before ∧
    ∀ e ∈ after, e.Quiet

/-- How a manager stands that has done the given things: push is on, or it was switched off
once, as the last thing that was published. -/
def Outlook (m : Manager) (es : List Effect) : Prop :=
  (m.availability.isOff = false ∧ .publish .off ∉ es) ∨ (m.Finished ∧ EndsOff es)

theorem mem_published {s : PushStatus} : s ∈ published es ↔ .publish s ∈ es := by
  unfold published
  rw [List.mem_filterMap]
  constructor
  · rintro ⟨e, he, hs⟩
    cases e with
    | publish t =>
      obtain rfl : t = s := Option.some.inj hs
      exact he
    | _ => cases hs
  · intro h
    exact ⟨_, h, rfl⟩

theorem not_mem_of_published_eq_nil (h : published es = []) : .publish .off ∉ es := by
  rw [← mem_published, h]
  exact List.not_mem_nil

theorem not_mem_map_publish {ss : List PushStatus} (h : .off ∉ ss) :
    .publish .off ∉ ss.map Effect.publish := by
  rw [← mem_published, published_map_publish]
  exact h

theorem EndsOff.prepend (h : EndsOff es') (hes : .publish .off ∉ es) : EndsOff (es ++ es') := by
  obtain ⟨before, after, rfl, hbefore, hafter⟩ := h
  refine ⟨es ++ before, after, (List.append_assoc _ _ _).symm, ?_, hafter⟩
  rw [List.mem_append]
  exact fun hmem => hmem.elim hes hbefore

theorem Outlook.prepend (h : m.Outlook es') (hes : .publish .off ∉ es) : m.Outlook (es ++ es') := by
  rcases h with ⟨hon, hnot⟩ | ⟨hm, hends⟩
  · refine .inl ⟨hon, ?_⟩
    rw [List.mem_append]
    exact fun hmem => hmem.elim hes hnot
  · exact .inr ⟨hm, hends.prepend hes⟩

/-- What is done for a notification, besides counting it: nothing of it switches push off, or
nothing else is published. -/
theorem outlook_publishing {x : Availability × List PushStatus} (h : Availability.Switches x) :
    ((m.publishing x).1.availability.isOff = false ∧ .publish .off ∉ (m.publishing x).2) ∨
      ((m.publishing x).1.availability.isOff = true ∧ (m.publishing x).2 = [.publish .off]) := by
  rcases h with ⟨hon, hnot⟩ | ⟨hoff, hx⟩
  · exact .inl ⟨hon, not_mem_map_publish hnot⟩
  · exact .inr ⟨hoff, by rw [publishing, hx]; rfl⟩

theorem outlook_counted (label : Option (String × String))
    (h : (r.1.availability.isOff = false ∧ .publish .off ∉ r.2) ∨
      (r.1.availability.isOff = true ∧ r.2 = [.publish .off])) :
    let x := if r.1.availability.isOff then
        ({ r.1 with phase := .closing .disabled },
          (.count .notifications label :: r.2) ++ [.disconnect])
      else (r.1, .count .notifications label :: r.2)
    Outlook x.1 x.2 := by
  intro x
  rcases h with ⟨hon, hnot⟩ | ⟨hoff, hr⟩
  · have hx : x = (r.1, .count .notifications label :: r.2) := if_neg (by simp [hon])
    rw [hx]
    refine .inl ⟨hon, ?_⟩
    rw [List.mem_cons]
    exact fun hmem => hmem.elim Effect.noConfusion hnot
  · have hx : x = ({ r.1 with phase := .closing .disabled },
        (.count .notifications label :: r.2) ++ [.disconnect]) := if_pos hoff
    rw [hx, hr]
    refine .inr ⟨⟨hoff, trivial⟩, [.count .notifications label], [.disconnect], rfl, by simp, ?_⟩
    intro e he
    obtain rfl := List.mem_singleton.mp he
    trivial

theorem outlook_notified (hon : m.availability.isOff = false) (n : Notification) :
    Outlook (m.notified n).1 (m.notified n).2 := by
  cases n with
  | control _ c =>
    exact outlook_counted _ (outlook_publishing (Availability.control_switches hon c))
  | occupancy channel publishers timestamp =>
    exact outlook_counted _ (outlook_publishing (Availability.occupancy_switches hon ..))
  | error _ => exact outlook_counted (r := (m, [])) _ (.inl ⟨hon, List.not_mem_nil⟩)
  | _ => exact outlook_counted (r := (m, [.dispatch _])) _ (.inl ⟨hon, by simp⟩)

/-- **A move that switches push off does nothing else afterwards.** -/
theorem Moves.outlook_of_on (h : m.Moves r) (hon : m.availability.isOff = false) :
    Outlook r.1 r.2 := by
  cases h with
  | ignores => exact .inl ⟨hon, List.not_mem_nil⟩
  | stops => exact .inl ⟨hon, List.not_mem_nil⟩
  | givesUp _ counts hcounts =>
    obtain ⟨hoff, hpub⟩ := Availability.failed_for_good hon
    refine Outlook.prepend ?_ (not_mem_of_published_eq_nil hcounts)
    refine .inr ⟨⟨hoff, trivial⟩, [], [], ?_, List.not_mem_nil, fun e he => by cases he⟩
    show (m.availability.failed false).2.map Effect.publish = _
    rw [hpub]
    rfl
  | retries =>
    obtain ⟨hstill, hpub⟩ := Availability.failed_on hon
    refine .inl ⟨hstill, ?_⟩
    show Effect.publish .off ∉ (m.availability.failed true).2.map Effect.publish ++ [.sleep _]
    rw [hpub]
    simp
  | delays => exact .inl ⟨hon, by simp⟩
  | connects => exact .inl ⟨hon, by simp [connect]⟩
  | begins _ counts hcounts =>
    refine Outlook.prepend ?_ (not_mem_of_published_eq_nil hcounts)
    rcases again_cases (m := m) with ha | ha <;> rw [ha]
    · exact .inl ⟨hon, List.not_mem_nil⟩
    · exact .inl ⟨hon, by simp⟩
  | opened =>
    obtain ⟨hstill, hnot⟩ := Availability.connected_on hon
    exact .inl ⟨hstill, not_mem_map_publish hnot⟩
  | notified _ n => exact outlook_notified hon n
  | closes => exact .inl ⟨hon, by simp [close]⟩
  | departs => exact .inl ⟨hon, List.not_mem_nil⟩

/-- A move keeps the outlook on all that was done. -/
theorem Moves.outlook (h : m.Moves r) (hm : m.Outlook es) : r.1.Outlook (es ++ r.2) := by
  rcases hm with ⟨hon, hnot⟩ | ⟨hfinished, hends⟩
  · exact (h.outlook_of_on hon).prepend hnot
  · obtain ⟨hr, hnothing⟩ := h.of_finished hfinished
    rw [hnothing, List.append_nil]
    exact .inr ⟨hr, hends⟩

theorem Outlook.count_le_one (h : m.Outlook es) : (published es).count .off ≤ 1 := by
  rcases h with ⟨-, hnot⟩ | ⟨-, before, after, rfl, hbefore, hafter⟩
  · have hzero : (published es).count .off = 0 :=
      List.count_eq_zero.mpr fun hmem => hnot (mem_published.mp hmem)
    omega
  · have hb : (published before).count .off = 0 :=
      List.count_eq_zero.mpr fun hmem => hbefore (mem_published.mp hmem)
    have ha : (published after).count .off = 0 :=
      List.count_eq_zero.mpr fun hmem => hafter _ (mem_published.mp hmem)
    have hsplit : published (before ++ .publish .off :: after) =
        published before ++ .off :: published after := published_append _ _
    rw [hsplit, List.count_append, List.count_cons, hb, ha]
    decide

theorem Outlook.of_split (h : m.Outlook es) {before after : List Effect}
    (hes : es = before ++ .publish .off :: after) : m.Finished ∧ ∀ e ∈ after, e.Quiet := by
  rcases h with ⟨-, hnot⟩ | ⟨hm, before', after', hes', hbefore', hafter'⟩
  · exact absurd (hes ▸ List.mem_append_right before List.mem_cons_self) hnot
  · have hquiet : .publish .off ∉ after' := fun hmem => hafter' _ hmem
    obtain ⟨-, -, rfl⟩ :=
      (List.append_cons_inj_of_notMem hbefore' hquiet).mp (hes'.symm.trans hes)
    exact ⟨hm, hafter'⟩

end Manager

/-! ### Runs -/

namespace Broadcaster

variable {b : Broadcaster}

/-- What the manager does while it takes in some inputs, in order. -/
def effects (b : Broadcaster) : List Manager.Input → List Manager.Effect
  | [] => []
  | i :: inputs => (b.manager.step i).2 ++ (b.step i).effects inputs

/-- What a manager has done since it began, in order. -/
def done (backoff : Backoff) (subscribers : List Subscriber) (inputs : List Manager.Input) :
    List Manager.Effect :=
  (Manager.begin backoff).2 ++ (start backoff subscribers).effects inputs

theorem run_append (inputs more : List Manager.Input) :
    b.run (inputs ++ more) = (b.run inputs).run more :=
  List.foldl_append

theorem outlook_run : ∀ (inputs : List Manager.Input) {b : Broadcaster} {es : List Manager.Effect},
    b.manager.Outlook es → (b.run inputs).manager.Outlook (es ++ b.effects inputs)
  | [], _, es, h => by
    rw [effects, List.append_nil]
    exact h
  | i :: inputs, b, es, h => by
    have hstep : (b.step i).manager.Outlook (es ++ (b.manager.step i).2) :=
      (Manager.step_moves i).outlook h
    rw [effects, ← List.append_assoc]
    exact outlook_run inputs hstep

/-- Nothing reaches the publisher once the manager has finished. -/
theorem publisher_run_of_finished : ∀ (more : List Manager.Input) {b : Broadcaster},
    b.manager.Finished → (b.run more).publisher = b.publisher
  | [], _, _ => rfl
  | i :: more, b, h => by
    obtain ⟨hfinished, hnothing⟩ := (Manager.step_moves i).of_finished h
    have hstep : (b.step i).publisher = b.publisher := by
      rw [step, hnothing]
      rfl
    exact (publisher_run_of_finished more (b := b.step i) hfinished).trans hstep

/-- **Push that is off stays off.** In every run of the manager off is published at most once.
After it nothing is published and neither a token nor a connection is asked for, off stays the
published status, and whatever arrives later, no subscriber hears of it. -/
theorem off_is_final (backoff : Backoff) (subscribers : List Subscriber)
    (inputs : List Manager.Input) :
    (published (done backoff subscribers inputs)).count .off ≤ 1 ∧
    ∀ before after, done backoff subscribers inputs = before ++ .publish .off :: after →
      (∀ e ∈ after, e.Quiet) ∧
      ((start backoff subscribers).run inputs).publisher.current = some .off ∧
      ∀ more, ((start backoff subscribers).run (inputs ++ more)).publisher =
        ((start backoff subscribers).run inputs).publisher := by
  have hbegin : (start backoff subscribers).manager.Outlook (Manager.begin backoff).2 :=
    .inl ⟨rfl, by simp [Manager.begin, Manager.again, Availability.initial, Availability.isOff]⟩
  have houtlook := outlook_run inputs hbegin
  refine ⟨houtlook.count_le_one, fun before after hsplit => ?_⟩
  obtain ⟨hfinished, hquiet⟩ := houtlook.of_split hsplit
  refine ⟨hquiet, ?_, fun more => ?_⟩
  · rw [current_run]
    have hoff := hfinished.off
    simpa [Availability.isOff] using hoff
  · rw [run_append]
    exact publisher_run_of_finished more hfinished

/-- A session that the backend disables while events are still on their way, and what may
happen next. -/
def disabledInSession : List Manager.Input :=
  [.answered (.ok Manager.shortLived), .event .connected,
    .event (.notification (.control "control_pri" .disabled)),
    .event (.notification (.occupancy "control_pri" 2 5)), .refreshDue,
    .ended (.retryable "lost"), .answered (.ok Manager.shortLived), .elapsed]

/-- Of all that happens after push was disabled, only the connection is told to stop. -/
theorem quiet_after_disabled :
    (∀ e ∈ [Manager.Effect.disconnect], e.Quiet) ∧
      ((start (.start 1000 1000) []).run disabledInSession).publisher.current = some .off ∧
      ∀ more, ((start (.start 1000 1000) []).run (disabledInSession ++ more)).publisher =
        ((start (.start 1000 1000) []).run disabledInSession).publisher :=
  (off_is_final (.start 1000 1000) [] disabledInSession).2
    [.authenticate, .connect Manager.shortLived, .publish .ready,
      .count .notifications (some ("type", "CONTROL"))] [.disconnect] rfl

end Broadcaster

end Halyard.Push

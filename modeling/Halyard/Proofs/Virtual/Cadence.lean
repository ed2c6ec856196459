/-
# The cadence of an engine

Nothing but the cadence changes the intervals of the polling tasks: whatever the
tasks of an engine do, their intervals stay as the last status left them
(`World.settings_act`, `World.play_follows`). So the intervals are at every
moment the ones that the latest status calls for (`World.engine_intervals`), and
they tell which status that was only as far as the configuration keeps them
apart.

Whether polling is to run at once is read off the interval of the flags task,
and not off the status before. A safety interval may be as short as the interval
of flags (`Config.le_safety_of_validate`); then the two look the same, and push
that is lost does not make anything run (`Polling.loss_unnoticed`). In every
other configuration that is accepted, both tasks are asked to run exactly when
push is lost (`Polling.asked_iff_lost`).

Key definitions: `Config.intervalsFor`, `Polling.opening`, `Polling.Follows`,
`Polling.Loses`, `World.settings`.
Key theorems: `Polling.intervals_of_follows`, `Polling.asked_iff_lost`,
`World.settings_act`, `World.play_follows`, `World.engine_intervals`.
-/
import Halyard.Proofs.Virtual.Surroundings
import Halyard.Virtual.Lifecycle

namespace Halyard

open Push Virtual

namespace Config

/-- The intervals of the polling tasks that a configuration asks for, after a status or
before the first. -/
def intervalsFor (c : Config) (status : Option PushStatus) : PollIntervals :=
  if status.any PushStatus.healthy then
    ⟨c.push.safetyRefreshSecs * 1000, c.push.safetyRefreshSecs * 1000⟩
  else ⟨c.flagsRefreshSecs * 1000, c.segmentsRefreshSecs * 1000⟩

/-- The cadence of an engine with a configuration. -/
def cadence (c : Config) : Cadence :=
  ⟨c.intervalsFor none, c.push.safetyRefreshSecs * 1000⟩

/-- **What is asked of a configuration.** It is accepted if it has a key, no setting is zero that
must not be, the safety interval is not shorter than the others, and its flag sets can be read. -/
theorem validate_eq_ok_iff (c : Config) :
    c.validate = .ok () ↔
      (Text.trim c.sdkKey.toList).isEmpty = false ∧
        (c.positiveSettings.find? fun s => s.2 = 0) = none ∧
        max c.flagsRefreshSecs c.segmentsRefreshSecs ≤ c.push.safetyRefreshSecs ∧
        ∃ names, c.flagSetNames = .ok names := by
  rw [← Nat.not_lt]
  unfold validate
  by_cases hkey : (Text.trim c.sdkKey.toList).isEmpty = true
  · rw [if_pos hkey, hkey]
    exact ⟨nofun, nofun⟩
  rw [if_neg hkey]
  have hkey := Bool.eq_false_iff.mpr hkey
  cases c.positiveSettings.find? fun s => s.2 = 0 with
  | some s => exact ⟨nofun, nofun⟩
  | none =>
    by_cases hshort : c.push.safetyRefreshSecs < max c.flagsRefreshSecs c.segmentsRefreshSecs
    · simp only [if_pos hshort]
      exact ⟨nofun, fun h => absurd hshort h.2.2.1⟩
    simp only [if_neg hshort]
    cases c.flagSetNames with
    | error e => exact ⟨nofun, fun ⟨_, _, _, _, h⟩ => nomatch h⟩
    | ok names => exact ⟨fun _ => ⟨hkey, trivial, hshort, names, rfl⟩, fun _ => rfl⟩

theorem le_safety_of_validate {c : Config} (h : c.validate = .ok ()) :
    c.flagsRefreshSecs ≤ c.push.safetyRefreshSecs ∧
      c.segmentsRefreshSecs ≤ c.push.safetyRefreshSecs := by
  obtain ⟨-, -, hle, -⟩ := (validate_eq_ok_iff c).mp h
  exact Nat.max_le.mp hle

end Config

namespace Virtual

variable {ρ : Type}

namespace Polling

/-- The intervals of both tasks. -/
def intervals (p : Polling ρ) : PollIntervals :=
  ⟨p.flags.task.interval, p.segments.task.interval⟩

/-- What the tasks leave as it is: the cadence and the intervals. -/
def settings (p : Polling ρ) : Cadence × PollIntervals :=
  (p.cadence, p.intervals)

/-- The polling of an engine that begins. `seen` is how many transitions there were before. -/
def opening (c : Config) (seen : Nat) : Polling ρ where
  flags := ⟨.start (c.flagsRefreshSecs * 1000), none⟩
  segments := ⟨.start (c.segmentsRefreshSecs * 1000), none⟩
  cadence := c.cadence
  followed := if c.pushEnabled then some seen else none

/-- Polling of an engine to which some statuses were applied, the latest first, while its tasks
did what they do. -/
inductive Follows (c : Config) (seen : Nat) : List PushStatus → Polling ρ → Prop
  | begins : Follows c seen [] (opening c seen)
  | goesOn {statuses : List PushStatus} {p q : Polling ρ} (h : Follows c seen statuses p)
      (hkeeps : q.settings = p.settings) : Follows c seen statuses q
  | applies {statuses : List PushStatus} {p : Polling ρ} (now : Nat) (s : PushStatus)
      (h : Follows c seen statuses p) :
      Follows c seen (s :: statuses) (World.followStatus now p s)

/-- Push is lost: it was healthy before a status and is not any more. -/
def Loses (statuses : List PushStatus) (s : PushStatus) : Prop :=
  statuses.head?.any PushStatus.healthy = true ∧ s.healthy = false

variable {c : Config} {seen : Nat} {statuses : List PushStatus} {p : Polling ρ}

/-! ### Applying a status -/

@[simp] theorem interval_setInterval (t : Periodic) (now interval : Nat) :
    (t.setInterval now interval).interval = interval := by
  unfold Periodic.setInterval
  split
  · assumption
  · rfl

@[simp] theorem triggered_setInterval (t : Periodic) (now interval : Nat) :
    (t.setInterval now interval).triggered = t.triggered := by
  unfold Periodic.setInterval
  split <;> rfl

@[simp] theorem interval_asked (t : Periodic) (ask : Bool) :
    (if ask then t.trigger else t).interval = t.interval := by
  cases ask <;> rfl

@[simp] theorem triggered_asked (t : Periodic) (ask : Bool) :
    (if ask then t.trigger else t).triggered = (t.triggered || ask) := by
  cases ask
  · exact (Bool.or_false _).symm
  · exact (Bool.or_true _).symm

theorem intervals_followStatus (now : Nat) (p : Polling ρ) (s : PushStatus) :
    (World.followStatus now p s).intervals = (p.cadence.apply p.intervals s).1 := by
  unfold World.followStatus intervals
  simp only [interval_asked, interval_setInterval]

theorem triggered_followStatus (now : Nat) (p : Polling ρ) (s : PushStatus) :
    (World.followStatus now p s).flags.task.triggered =
        (p.flags.task.triggered || (p.cadence.apply p.intervals s).2) ∧
      (World.followStatus now p s).segments.task.triggered =
        (p.segments.task.triggered || (p.cadence.apply p.intervals s).2) := by
  unfold World.followStatus intervals
  simp only [triggered_asked, triggered_setInterval, and_self]

theorem cadence_of_follows (h : Follows c seen statuses p) : p.cadence = c.cadence := by
  induction h with
  | begins => rfl
  | goesOn _ hkeeps ih => exact (congrArg Prod.fst hkeeps).trans ih
  | applies now s _ ih => exact ih

theorem apply_cadence (c : Config) (current : PollIntervals) (s : PushStatus) :
    c.cadence.apply current s =
      (c.intervalsFor (some s), !s.healthy && current.flags != c.flagsRefreshSecs * 1000) := by
  unfold Cadence.apply Config.intervalsFor
  cases hs : s.healthy
  · simp [Config.cadence, Config.intervalsFor, hs]
  · simp [Config.cadence, hs]

/-- **The intervals are the ones that the latest status calls for.** -/
theorem intervals_of_follows (h : Follows c seen statuses p) :
    p.intervals = c.intervalsFor statuses.head? := by
  induction h with
  | begins => rfl
  | goesOn _ hkeeps ih => exact (congrArg Prod.snd hkeeps).trans ih
  | @applies statuses p now s h _ =>
    rw [intervals_followStatus, cadence_of_follows h, apply_cadence]
    rfl

/-- The flags task is off its own interval exactly if push was healthy and the safety interval is
another one. -/
theorem flags_ne_iff (hc : c.validate = .ok ()) (last : Option PushStatus) :
    (c.intervalsFor last).flags ≠ c.flagsRefreshSecs * 1000 ↔
      last.any PushStatus.healthy = true ∧ c.flagsRefreshSecs < c.push.safetyRefreshSecs := by
  have hle := (Config.le_safety_of_validate hc).1
  unfold Config.intervalsFor
  cases hlast : last.any PushStatus.healthy
  · simp
  · simp only [if_true, true_and]
    omega

/-- **When push is lost both tasks are asked to run, if the safety interval is longer than the
interval of flags.** After every status the intervals are the ones that it calls for. Beside
what they were asked for before, the tasks are asked to run when push was healthy before the
status and is not any more, and the configuration tells the two intervals apart; and in no
other case. -/
theorem asked_iff_lost (hc : c.validate = .ok ()) (h : Follows c seen statuses p) (now : Nat)
    (s : PushStatus) :
    (World.followStatus now p s).intervals = c.intervalsFor (some s) ∧
      ((World.followStatus now p s).flags.task.triggered = true ↔
        p.flags.task.triggered = true ∨
          Loses statuses s ∧ c.flagsRefreshSecs < c.push.safetyRefreshSecs) ∧
      ((World.followStatus now p s).segments.task.triggered = true ↔
        p.segments.task.triggered = true ∨
          Loses statuses s ∧ c.flagsRefreshSecs < c.push.safetyRefreshSecs) := by
  have hasked : (p.cadence.apply p.intervals s).2 = true ↔
      Loses statuses s ∧ c.flagsRefreshSecs < c.push.safetyRefreshSecs := by
    rw [cadence_of_follows h, intervals_of_follows h, apply_cadence, Bool.and_eq_true,
      Bool.not_eq_true', bne_iff_ne, flags_ne_iff hc, Loses]
    exact ⟨fun ⟨hs, hlast, hlt⟩ => ⟨⟨hlast, hs⟩, hlt⟩, fun ⟨⟨hlast, hs⟩, hlt⟩ => ⟨hs, hlast, hlt⟩⟩
  obtain ⟨hflags, hsegments⟩ := triggered_followStatus now p s
  refine ⟨intervals_of_follows (.applies now s h), ?_, ?_⟩
  · rw [hflags, Bool.or_eq_true, hasked]
  · rw [hsegments, Bool.or_eq_true, hasked]

/-- The standard intervals are apart, so the loss of push makes both tasks run. -/
theorem loss_noticed :
    let c := Config.ofKey "key"
    let p : Polling Empty := World.followStatus 10 (opening c 0) .ready
    c.validate = .ok () ∧ Follows c 0 [.ready] p ∧
      (World.followStatus 20 p .paused).intervals = ⟨60000, 60000⟩ ∧
      (World.followStatus 20 p .paused).flags.task.triggered = true ∧
      (World.followStatus 20 p .paused).segments.task.triggered = true := by
  intro c p
  have hc : c.validate = .ok () := (Config.validate_eq_ok_iff c).mpr
    ⟨by decide +kernel, by decide +kernel, by decide +kernel, _, rfl⟩
  have hp : Follows c 0 [.ready] p := .applies 10 .ready .begins
  have hlost : Loses [.ready] .paused ∧ c.flagsRefreshSecs < c.push.safetyRefreshSecs :=
    ⟨⟨rfl, rfl⟩, show 60 < 300 by decide⟩
  obtain ⟨hintervals, hflags, hsegments⟩ := asked_iff_lost hc hp 20 .paused
  have hfast : c.intervalsFor (some .paused) = ⟨60000, 60000⟩ := by decide +kernel
  exact ⟨hc, hp, hintervals.trans hfast, hflags.mpr (.inr hlost), hsegments.mpr (.inr hlost)⟩

/-- A safety interval that is as long as the interval of flags is accepted, and then the loss of
push makes nothing run. -/
theorem loss_unnoticed :
    let c := { Config.ofKey "key" with
      push := { PushSettings.standard with safetyRefreshSecs := 60 } }
    let p : Polling Empty := World.followStatus 10 (opening c 0) .ready
    c.validate = .ok () ∧ Follows c 0 [.ready] p ∧ Loses [.ready] .paused ∧
      (World.followStatus 20 p .paused).flags.task.triggered = false ∧
      (World.followStatus 20 p .paused).segments.task.triggered = false := by
  intro c p
  have hc : c.validate = .ok () := (Config.validate_eq_ok_iff c).mpr
    ⟨by decide +kernel, by decide +kernel, by decide +kernel, _, rfl⟩
  exact ⟨hc, .applies 10 .ready .begins, ⟨rfl, rfl⟩, by decide +kernel, by decide +kernel⟩

end Polling

/-! ### What the tasks leave as it is -/

namespace World

variable {β : Type} {f : Interject Empty β} {w w' : World Empty β}

/-- The cadence and the intervals, if an engine runs. -/
def settings (w : World Empty β) : Option (Cadence × PollIntervals) :=
  w.polling.map Polling.settings

theorem polling_of_surroundings (h : w'.surroundings = w.surroundings) : w'.polling = w.polling :=
  congrArg Surroundings.polling h

theorem settings_of_surroundings (h : w'.surroundings = w.surroundings) :
    w'.settings = w.settings :=
  congrArg (Option.map Polling.settings) (polling_of_surroundings h)

theorem interval_poll {t t' : Periodic} {now : Nat} (h : t.poll now = some t') :
    t'.interval = t.interval := by
  unfold Periodic.poll at h
  repeat' split at h
  all_goals cases h
  all_goals rfl

@[simp] theorem interval_finish (t : Periodic) (now : Nat) :
    (t.finish now).interval = t.interval := by
  unfold Periodic.finish
  split <;> rfl

theorem settings_polling {w₁ : World Empty β} {p q : Polling Empty} (hp : w.polling = some p)
    (hcadence : q.cadence = p.cadence)
    (hflags : q.flags.task.interval = p.flags.task.interval)
    (hsegments : q.segments.task.interval = p.segments.task.interval) :
    { w₁ with polling := some q }.settings = w.settings := by
  show some (q.cadence, (⟨q.flags.task.interval, q.segments.task.interval⟩ : PollIntervals)) = _
  rw [hcadence, hflags, hsegments, settings, hp]
  rfl

theorem settings_actFront (h : w.actFront f = some w') : w'.settings = w.settings := by
  obtain ⟨work, w₁, x, -, -, hw'⟩ := surroundings_actFront h
  refine congrArg (Option.map Polling.settings) ?_
  cases x with
  | inl work => exact congrArg Surroundings.polling hw'
  | inr r => exact congrArg Surroundings.polling hw'

theorem settings_actSegmentsTask (h : w.actSegmentsTask = some w') :
    w'.settings = w.settings := by
  cases sweepTurn_of_actSegmentsTask h with
  | stops hp => exact settings_polling hp rfl rfl rfl
  | begins hp _ _ htask => exact settings_polling hp rfl rfl (interval_poll htask)
  | ends _ hp => exact settings_polling hp rfl rfl (interval_finish _ _)

theorem settings_afterFlagsPoll {p : Polling Empty} (hp : w.polling = some p)
    (r : Except SyncError Names) : (w.afterFlagsPoll p r).settings = w.settings := by
  cases r with
  | error e => exact settings_polling hp rfl (interval_finish _ _) rfl
  | ok names =>
    unfold afterFlagsPoll
    cases hm : (w.track names).mark .flags with
    | mk w₁ opened =>
      simp only [hm]
      cases opened
      · exact settings_polling hp rfl (interval_finish _ _) rfl
      · exact settings_polling hp rfl (interval_finish _ _) rfl

theorem settings_actFlagsTask {woken : Bool} (h : w.actFlagsTask f woken = some w') :
    w'.settings = w.settings := by
  cases flagsTurn_of_actFlagsTask h with
  | stops hp => exact settings_polling hp rfl rfl rfl
  | begins hp _ _ htask => exact settings_polling hp rfl (interval_poll htask) rfl
  | goesOn hp => exact settings_polling hp rfl rfl rfl
  | @ends p work w₁ r hp _ _ hs =>
    rw [settings_afterFlagsPoll ((polling_stepWork hs).trans hp) r]
    exact settings_of_surroundings (surroundings_stepWork hs)

/-- **What a turn makes of the settings.** The turns of all tasks leave them as they are, but that
of the follower applies the status that push has. -/
theorem settings_act {woken : Bool} {a : Actor} (h : w.act f woken a = some w') :
    w'.settings = w.settings ∨ ∃ p q s, w.polling = some p ∧ q.settings = p.settings ∧
      w.publisher.current = some s ∧ w'.polling = some (followStatus w.now q s) := by
  cases a with
  | front => exact .inl (settings_actFront h)
  | worker i => exact .inl (settings_of_surroundings (surroundings_actWorker h))
  | segmentsTask => exact .inl (settings_actSegmentsTask h)
  | flagsTask => exact .inl (settings_actFlagsTask h)
  | ruleWorker => exact .inl (settings_of_surroundings (surroundings_actRuleWorker h))
  | manager => exact .inl (settings_of_surroundings (surroundings_actManager h))
  | connection => exact .inl (settings_of_surroundings (surroundings_actConnection h))
  | follower =>
    cases followerTurn_of_actFollower h with
    | notes hp => exact .inl (settings_polling hp rfl rfl rfl)
    | @follows p s hp hs =>
      exact .inr ⟨p, { p with followed := some w.transitionCount }, s, hp, rfl, hs, rfl⟩

/-! ### Runs of an engine -/

theorem polling_startPush (settings : PushSettings) :
    (w.startPush settings).polling = w.polling :=
  List.foldlRecOn (motive := fun v : World Empty β => v.polling = w.polling) _ _ rfl
    fun _ hv e _ => (polling_of_surroundings (surroundings_perform e)).trans hv

theorem polling_startEngine (hw : w.polling = none) (c : Config) :
    (w.startEngine c).polling = some (Polling.opening c w.transitionCount) := by
  have hidle : w.running = false := by
    rw [running, hw]
    rfl
  unfold startEngine Polling.opening
  simp only [hidle, Bool.false_eq_true, if_false]
  split
  · exact polling_startPush _
  · rfl

/-- **Whatever an engine does, its polling is what the statuses made of it.** -/
theorem play_follows {c : Config} {seen : Nat} (ms : List Move) :
    ∀ {w : World Empty β},
      (∀ p, w.polling = some p → ∃ statuses, Polling.Follows c seen statuses p) →
      ∀ p, (w.play f ms).polling = some p → ∃ statuses, Polling.Follows c seen statuses p := by
  induction ms with
  | nil => exact fun h => h
  | cons m ms ih =>
    intro w h
    refine ih (w := w.move f m) fun q hq => ?_
    -- moves other than turns leave polling as it is
    have hkept : (w.move f m).polling = w.polling →
        ∃ statuses, Polling.Follows c seen statuses q := fun hp => h q (hp.symm.trans hq)
    cases m with
    | wait ms => exact hkept rfl
    | notify n => exact hkept (polling_of_surroundings (surroundings_dispatch n))
    | target t => exact hkept (polling_of_surroundings (surroundings_enqueueRules t))
    | job j => exact hkept (polling_of_surroundings (surroundings_enqueueSegment j))
    | turn woken a =>
      cases ha : w.act f woken a with
      | none =>
        have hstay : w.move f (.turn woken a) = w := by rw [move, ha]; rfl
        exact hkept (congrArg polling hstay)
      | some w' =>
        have hmove : w.move f (.turn woken a) = w' := by rw [move, ha]; rfl
        rw [hmove] at hq
        rcases settings_act ha with hsame | ⟨p, p', s, hp, hkeeps, -, hp'⟩
        · rw [settings, settings, hq] at hsame
          obtain ⟨p, hp, hsettings⟩ := Option.map_eq_some_iff.mp hsame.symm
          obtain ⟨statuses, hfollows⟩ := h p hp
          exact ⟨statuses, .goesOn hfollows hsettings.symm⟩
        · obtain ⟨statuses, hfollows⟩ := h p hp
          obtain rfl := Option.some.inj (hp'.symm.trans hq)
          exact ⟨s :: statuses, .applies w.now s (.goesOn hfollows hkeeps)⟩

/-- **The intervals of an engine are at every moment the ones that the latest status calls
for.** -/
theorem engine_intervals {c : Config} (hw : w.polling = none) (ms : List Move) {p : Polling Empty}
    (hp : ((w.startEngine c).play f ms).polling = some p) :
    ∃ statuses, Polling.Follows c w.transitionCount statuses p ∧
      p.intervals = c.intervalsFor statuses.head? := by
  have hbegins : ∀ q, (w.startEngine c).polling = some q →
      ∃ statuses, Polling.Follows c w.transitionCount statuses q := by
    intro q hq
    obtain rfl := Option.some.inj ((polling_startEngine hw c).symm.trans hq)
    exact ⟨[], .begins⟩
  obtain ⟨statuses, hfollows⟩ := play_follows ms hbegins p hp
  exact ⟨statuses, hfollows, Polling.intervals_of_follows hfollows⟩

end World

end Virtual

end Halyard

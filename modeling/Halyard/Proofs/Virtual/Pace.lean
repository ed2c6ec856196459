/-
# A token is replaced once a round at most

The round of a token are the wait before it is used and the time until it is replaced. What
carries the bound is the earliest moment at which push can replace the token that it has
(`PushSide.replacedAt?`): it is a round after the last replacement at the earliest, from the
grant of the token on until its connection has ended. A turn of the manager sets it when it
is granted a token, and never brings it forward after that; nobody else touches it.

So whatever push and the tasks beside it do, `n` replacements take `n` rounds
(`World.refreshes_spaced`). Connections that are lost and authentications that fail do not
matter: they only make push ask for a token again, whose round begins then.

Key definitions: `PushSide.replacedAt?`, `Watch.Paced`.
Key theorems: `World.paced_actManager`, `World.paced_play`, `World.refreshes_spaced`.
-/
import Halyard.Proofs.Push.Lifetimes
import Halyard.Proofs.Virtual.Watch
import Halyard.Virtual.Lifecycle

namespace Halyard.Virtual

open Push

variable {β : Type} {round last : Nat}

/-! ### The earliest moment of the next replacement -/

/-- The earliest moment at which push replaces its token, if it has one that is replaced. -/
def PushSide.replacedAt? (p : PushSide Empty) (now : Nat) : Option Nat :=
  match p.manager.phase with
  | .delaying t => p.timer.bind fun wake => t.refreshIn?.map fun secs => wake + secs * 1000
  | .streaming => p.refreshAt
  | .closing .tokenRefresh => some now
  | _ => none

theorem PushSide.replacedAt?_delaying {p : PushSide Empty} {t : Token} (now : Nat)
    (h : p.manager.phase = .delaying t) : p.replacedAt? now =
      p.timer.bind fun wake => t.refreshIn?.map fun secs => wake + secs * 1000 := by
  rw [replacedAt?, h]

theorem PushSide.replacedAt?_streaming {p : PushSide Empty} (now : Nat)
    (h : p.manager.phase = .streaming) : p.replacedAt? now = p.refreshAt := by
  rw [replacedAt?, h]

theorem PushSide.replacedAt?_closing {p : PushSide Empty} (now : Nat)
    (h : p.manager.phase = .closing .tokenRefresh) : p.replacedAt? now = some now := by
  rw [replacedAt?, h]

theorem PushSide.replacedAt?_of_free {p : PushSide Empty} (h : p.manager.phase.Free) (now : Nat) :
    p.replacedAt? now = none := by
  unfold replacedAt?
  split
  · rename_i hphase
    exact (hphase ▸ h : Manager.Phase.Free (.delaying _)).elim
  · rename_i hphase
    exact (hphase ▸ h : Manager.Phase.Free .streaming).elim
  · rename_i hphase
    exact (hphase ▸ h : Manager.Phase.Free (.closing .tokenRefresh)).elim
  · rfl

/-- Time that passes brings no replacement forward. -/
theorem PushSide.exists_replacedAt? {p : PushSide Empty} {now due : Nat} (ms : Nat)
    (h : p.replacedAt? (now + ms) = some due) : ∃ d, p.replacedAt? now = some d ∧ d ≤ due := by
  unfold replacedAt? at h ⊢
  split at h
  · exact ⟨due, h, Nat.le_refl due⟩
  · exact ⟨due, h, Nat.le_refl due⟩
  · cases h
    exact ⟨now, rfl, Nat.le_add_right now ms⟩
  · cases h

/-- Whether all tokens that are granted last for a round, and the next one that is replaced is so a
round after the last one at the earliest. -/
structure Watch.Paced (round last : Nat) (v : Watch) : Prop where
  begun : last ≤ v.now
  script : ∀ r ∈ v.replies, ∀ t, r.answer = .ok t → t.Lasts round
  answer : ∀ p a t, v.side = some p → p.answer = some a → a.answer = .ok t → t.Lasts round
  holds : ∀ p due, v.side = some p → p.replacedAt? v.now = some due → last + round ≤ due

namespace Watch.Paced

variable {v : Watch}

theorem wait (h : v.Paced round last) (ms : Nat) :
    { v with now := v.now + ms }.Paced round last where
  begun := Nat.le_add_right_of_le h.begun
  script := h.script
  answer := h.answer
  holds := by
    intro p due hp hdue
    obtain ⟨d, hd, hle⟩ := PushSide.exists_replacedAt? ms hdue
    exact Nat.le_trans (h.holds p d hp hd) hle

/-- What push waits for may change, as long as it grants no other token and does not bring its
replacement forward. -/
theorem onSide (h : v.Paced round last) {change : PushSide Empty → PushSide Empty}
    (hanswer : ∀ p a t, v.side = some p → (change p).answer = some a → a.answer = .ok t →
      t.Lasts round)
    (hholds : ∀ p due, v.side = some p → (change p).replacedAt? v.now = some due →
      last + round ≤ due) : (v.onSide change).Paced round last where
  begun := h.begun
  script := h.script
  answer := by
    intro q a t hq ha ht
    obtain ⟨p, hp, rfl⟩ := Option.map_eq_some_iff.mp hq
    exact hanswer p a t hp ha ht
  holds := by
    intro q due hq hdue
    obtain ⟨p, hp, rfl⟩ := Option.map_eq_some_iff.mp hq
    exact hholds p due hp hdue

end Watch.Paced

theorem lasts_defaultToken : defaultToken.Lasts round := nofun

theorem Watch.Paced.lasts_nextAnswer {v : Watch} (h : v.Paced round last) {t : Token}
    (ht : v.nextAnswer.answer = .ok t) : t.Lasts round := by
  unfold nextAnswer at ht
  split at ht
  · cases ht
    exact lasts_defaultToken
  · rename_i r rest hreplies
    exact h.script r (hreplies ▸ List.mem_cons_self) t ht

/-! ### Turns of the manager -/

/-- Whether push has no token that waits to be replaced. -/
def Watch.Free (v : Watch) : Prop := ∀ p, v.side = some p → p.manager.phase.Free

theorem Watch.Free.onSide {v : Watch} (h : v.Free) {change : PushSide Empty → PushSide Empty}
    (hmanager : ∀ p, (change p).manager = p.manager) : (v.onSide change).Free := by
  intro q hq
  obtain ⟨p, hp, rfl⟩ := Option.map_eq_some_iff.mp hq
  rw [hmanager p]
  exact h p hp

namespace World

variable {f : Interject Empty β} {w w' : World Empty β}

/-- Without a token that waits to be replaced, an effect brings about no replacement unless it
counts one. -/
theorem paced_perform {e : Manager.Effect} (he : ¬ e.Replaces) (h : w.watch.Paced round last)
    (hfree : w.watch.Free) :
    (w.perform e).watch.Paced round last ∧ (w.perform e).watch.Free ∧
      (w.perform e).watch.refreshes = w.watch.refreshes := by
  have hkept : (w.perform e).watch = w.watch → (w.perform e).watch.Paced round last ∧
      (w.perform e).watch.Free ∧ (w.perform e).watch.refreshes = w.watch.refreshes := by
    intro hw
    rw [hw]
    exact ⟨h, hfree, rfl⟩
  have hchanged : ∀ {v : Watch} {change : PushSide Empty → PushSide Empty},
      v.Paced round last → v.Free → v.refreshes = w.watch.refreshes →
      (∀ p, (change p).manager = p.manager) →
      (∀ p a t, v.side = some p → (change p).answer = some a → a.answer = .ok t →
        t.Lasts round) →
      (v.onSide change).Paced round last ∧ (v.onSide change).Free ∧
        (v.onSide change).refreshes = w.watch.refreshes := by
    intro v change hv hvfree hrefreshes hmanager hanswer
    refine ⟨hv.onSide hanswer fun p due hp hdue => ?_, hvfree.onSide hmanager, hrefreshes⟩
    have hphase : (change p).manager.phase.Free := by
      rw [hmanager p]
      exact hvfree p hp
    rw [PushSide.replacedAt?_of_free hphase] at hdue
    cases hdue
  cases e with
  | publish s => exact hkept (watch_publish s)
  | dispatch n => exact hkept (watch_dispatch n)
  | count m label => exact hkept (watch_count he label)
  | sleep ms =>
    rw [watch_sleep]
    exact hchanged h hfree rfl (fun _ => rfl) h.answer
  | disconnect =>
    rw [watch_disconnect]
    exact hchanged h hfree rfl (fun _ => rfl) h.answer
  | connect t =>
    rw [watch_connect]
    exact hchanged h hfree rfl (fun _ => rfl) h.answer
  | authenticate =>
    rw [watch_authenticate]
    have htail : { w.watch with replies := w.watch.replies.tail }.Paced round last :=
      ⟨h.begun, fun r hr => h.script r (List.mem_of_mem_tail hr), h.answer, h.holds⟩
    refine hchanged htail hfree rfl (fun _ => rfl) fun p a t _ ha ht => ?_
    cases ha
    exact h.lasts_nextAnswer ht

theorem paced_performs {es : List Manager.Effect} (hes : ∀ e ∈ es, ¬ e.Replaces)
    (h : w.watch.Paced round last) (hfree : w.watch.Free) :
    (es.foldl perform w).watch.Paced round last ∧
      (es.foldl perform w).watch.refreshes = w.watch.refreshes := by
  have hall : (es.foldl perform w).watch.Paced round last ∧ (es.foldl perform w).watch.Free ∧
      (es.foldl perform w).watch.refreshes = w.watch.refreshes := by
    refine List.foldlRecOn (motive := fun v : World Empty β => v.watch.Paced round last ∧
      v.watch.Free ∧ v.watch.refreshes = w.watch.refreshes) _ _ ⟨h, hfree, rfl⟩ ?_
    intro v hv e he
    obtain ⟨hpaced, hidle, hrefreshes⟩ := hv
    obtain ⟨hpaced', hidle', hrefreshes'⟩ := paced_perform (hes e he) hpaced hidle
    exact ⟨hpaced', hidle', hrefreshes'.trans hrefreshes⟩
  exact ⟨hall.1, hall.2.2⟩

/-- What has come brings no replacement forward, whatever else becomes of the manager. -/
theorem replacedAt?_of_arrives {p q : PushSide Empty} {i : Manager.Input} (ha : w.Arrives p q i)
    {m : Manager} (hm : m.phase = q.manager.phase) {due : Nat}
    (hdue : { q with manager := m }.replacedAt? w.now = some due) :
    p.replacedAt? w.now = some due := by
  unfold PushSide.replacedAt? at hdue ⊢
  rw [← ha.manager]
  simp only [hm] at hdue
  split at hdue
  · obtain ⟨wake, hwake, hrest⟩ := Option.bind_eq_some_iff.mp hdue
    rw [ha.timer wake hwake]
    exact hrest
  · exact ha.refreshAt ▸ hdue
  · exact hdue
  · cases hdue

theorem paced_becomes (h : w.watch.Paced round last) {p q : PushSide Empty} {i : Manager.Input}
    (hp : w.push = some p) (ha : w.Arrives p q i) {v : Watch} {p' : PushSide Empty}
    (hv : v = { w.watch with side := some p' }) (hanswer : p'.answer = q.answer)
    (hholds : ∀ due, p'.replacedAt? w.now = some due → last + round ≤ due) :
    v.Paced round last where
  begun := hv ▸ h.begun
  script := hv ▸ h.script
  answer := by
    intro p'' a t hside hpa
    rw [hv] at hside
    cases hside
    have hpa' := ha.answer a (hanswer ▸ hpa)
    exact h.answer p.bare a t (by rw [watch, hp]; rfl) hpa'
  holds := by
    intro p'' due hside hdue
    rw [hv] at hside hdue
    cases hside
    exact hholds due hdue

theorem paced_freed (h : w.watch.Paced round last) {p q : PushSide Empty} {i : Manager.Input}
    (hp : w.push = some p) (ha : w.Arrives p q i) {m : Manager} (hfree : m.phase.Free) :
    { w with push := some { q with manager := m } }.watch.Paced round last ∧
      { w with push := some { q with manager := m } }.watch.Free := by
  have hnone : { q with manager := m }.replacedAt? w.now = none :=
    PushSide.replacedAt?_of_free hfree w.now
  refine ⟨paced_becomes h hp ha rfl rfl fun due hdue => ?_, fun p' hp' => ?_⟩
  · cases hnone.symm.trans hdue
  · cases hp'
    exact hfree

/-- A token that is used for a round from now on is replaced a round after the last one at the
earliest. -/
theorem due_of_lasts {t : Token} {delay due : Nat} (h : w.watch.Paced round last)
    (ht : t.Lasts round) (hdelay : t.connectDelay.getD 0 = delay)
    (hdue : t.refreshIn?.map (fun secs => w.now + delay * 1000 + secs * 1000) = some due) :
    last + round ≤ due := by
  obtain ⟨secs, hsecs, rfl⟩ := Option.map_eq_some_iff.mp hdue
  have hround : t.round? = some ((delay + secs) * 1000) := by rw [Token.round?, hsecs, hdelay]; rfl
  have hlasts := ht _ hround
  have hbegun : last ≤ w.now := h.begun
  omega

/-- **A turn of the manager replaces a token only when that is due.** Else it brings no replacement
forward: a token that is granted is used for a round. -/
theorem paced_actManager (h : w.watch.Paced round last) (hact : w.actManager = some w') :
    ∃ n, w'.watch.refreshes = w.watch.refreshes + n ∧
      w'.watch.Paced round (last + n * round) := by
  obtain ⟨p, q, i, hp, ha, hw'⟩ := actManager_cases hact
  have hside : w.watch.side = some p.bare := by
    rw [watch, hp]
    rfl
  have hlasts : ∀ t, i = .answered (.ok t) → t.Lasts round := by
    intro t hi
    obtain ⟨a, hpa, hat⟩ := ha.answered _ hi
    exact h.answer p.bare a t hside hpa hat
  have hdueNow : ∀ due, p.replacedAt? w.now = some due → last + round ≤ due :=
    fun due => h.holds p.bare due hside
  have hkept : ∀ {v p'}, v = { w.watch with side := some p' } → p'.answer = q.answer →
      (∀ due, p'.replacedAt? w.now = some due → last + round ≤ due) →
      ∃ n, v.refreshes = w.watch.refreshes + n ∧ v.Paced round (last + n * round) := by
    intro v p' hv hanswer hholds
    refine ⟨0, hv ▸ rfl, ?_⟩
    rw [Nat.zero_mul, Nat.add_zero]
    exact paced_becomes h hp ha hv hanswer hholds
  rw [hw', feedManager]
  have hstrides := q.manager.step_strides i
  generalize q.manager.step i = r at hstrides ⊢
  cases hstrides with
  | @waits t secs hi hdelay =>
    refine hkept (watch_sleep _) rfl fun due hdue => ?_
    have hdelay' : t.connectDelay.getD 0 = secs + 1 := by rw [hdelay]; rfl
    exact due_of_lasts h (hlasts t hi) hdelay' hdue
  | @connects t hi hdelay =>
    refine hkept (watch_connect t) rfl fun due hdue => ?_
    refine due_of_lasts h (hlasts t hi) hdelay ?_
    rw [Nat.zero_mul, Nat.add_zero]
    exact hdue
  | @goesOn t hphase hi =>
    obtain ⟨wake, hwake, hover⟩ := ha.elapsed hi
    refine hkept (watch_connect t) rfl fun due hdue => ?_
    have hnext : t.refreshIn?.map (fun secs => w.now + secs * 1000) = some due := hdue
    obtain ⟨secs, hsecs, rfl⟩ := Option.map_eq_some_iff.mp hnext
    have hdue' : p.replacedAt? w.now = some (wake + secs * 1000) := by
      rw [PushSide.replacedAt?_delaying _ (ha.manager ▸ hphase), hwake, hsecs]
      rfl
    have hle := hdueNow _ hdue'
    omega
  | expires hphase hi =>
    obtain ⟨t, ht, hover⟩ := ha.due hi
    refine hkept watch_disconnect rfl fun due hdue => ?_
    have hdue' : p.replacedAt? w.now = some t :=
      (PushSide.replacedAt?_streaming _ (ha.manager ▸ hphase)).trans ht
    have hle := hdueNow _ hdue'
    have hnow : w.now = due := Option.some.inj hdue
    omega
  | replaces hphase =>
    obtain ⟨hfree, hrest⟩ := Manager.free_again (m := q.manager)
    obtain ⟨hv, hidle⟩ := paced_freed h hp ha hfree
    have hnow : last + round ≤ w.now :=
      hdueNow w.now (PushSide.replacedAt?_closing _ (ha.manager ▸ hphase))
    have hcount := watch_replaces
      (w := { w with push := some { q with manager := q.manager.again.1 } })
    have hcounted : (perform { w with push := some { q with manager := q.manager.again.1 } }
        (.count .tokenRefreshes none)).watch.Paced round (last + round) := by
      rw [hcount]
      refine ⟨hnow, hv.script, hv.answer, fun p' due hp' hdue => ?_⟩
      cases (PushSide.replacedAt?_of_free (hidle p' hp') _).symm.trans hdue
    obtain ⟨hpaced, hrefreshes⟩ := paced_performs hrest hcounted (hcount ▸ hidle)
    refine ⟨1, hrefreshes.trans (congrArg Watch.refreshes hcount), ?_⟩
    rw [Nat.one_mul]
    exact hpaced
  | stays hphase hr =>
    refine hkept (watch_asides hr) rfl fun due hdue => ?_
    exact hdueNow due (replacedAt?_of_arrives ha hphase hdue)
  | leaves hfree hr =>
    obtain ⟨hv, hidle⟩ := paced_freed h hp ha hfree
    obtain ⟨hpaced, hrefreshes⟩ := paced_performs hr hv hidle
    refine ⟨0, hrefreshes, ?_⟩
    rw [Nat.zero_mul, Nat.add_zero]
    exact hpaced

/-! ### Plays -/

theorem paced_move (h : w.watch.Paced round last) (m : Move) :
    ∃ n, (w.move f m).watch.refreshes = w.watch.refreshes + n ∧
      (w.move f m).watch.Paced round (last + n * round) := by
  rcases watch_move (f := f) (w := w) m with ⟨woken, -, hact⟩ | ⟨ms, hms⟩
  · exact paced_actManager h hact
  · refine ⟨0, hms ▸ rfl, ?_⟩
    rw [hms, Nat.zero_mul, Nat.add_zero]
    exact h.wait ms

/-- **Each token that is replaced takes a round.** -/
theorem paced_play : ∀ (ms : List Move) {w : World Empty β} {last : Nat},
    w.watch.Paced round last → ∃ n, (w.play f ms).watch.refreshes = w.watch.refreshes + n ∧
      (w.play f ms).watch.Paced round (last + n * round)
  | [], w, last, h => ⟨0, rfl, by rwa [Nat.zero_mul, Nat.add_zero]⟩
  | m :: ms, w, last, h => by
    obtain ⟨n, hn, hpaced⟩ := paced_move (f := f) h m
    obtain ⟨n', hn', hpaced'⟩ := paced_play ms hpaced
    have hsum : last + n * round + n' * round = last + (n + n') * round := by
      rw [Nat.add_mul, Nat.add_assoc]
    refine ⟨n + n', ?_, hsum ▸ hpaced'⟩
    calc ((w.move f m).play f ms).watch.refreshes
        = (w.move f m).watch.refreshes + n' := hn'
      _ = w.watch.refreshes + (n + n') := by rw [hn, Nat.add_assoc]

theorem paced_opening (hscript : ∀ r ∈ w.authReplies, ∀ t, r.answer = .ok t → t.Lasts round)
    {p : PushSide Empty} (hfree : p.manager.phase.Free) (hanswer : p.answer = none) :
    { w with push := some p }.watch.Paced round w.now ∧ { w with push := some p }.watch.Free := by
  refine ⟨⟨Nat.le_refl _, hscript, fun q a t hq ha => ?_, fun q due hq hdue => ?_⟩, fun q hq => ?_⟩
  · cases hq
    cases hanswer.symm.trans ha
  · cases hq
    cases (PushSide.replacedAt?_of_free hfree _).symm.trans hdue
  · cases hq
    exact hfree

theorem paced_startPush (hscript : ∀ r ∈ w.authReplies, ∀ t, r.answer = .ok t → t.Lasts round)
    (settings : PushSettings) : (w.startPush settings).watch.Paced round w.now ∧
      (w.startPush settings).watch.refreshes = w.watch.refreshes := by
  obtain ⟨hfree, hrest⟩ := Manager.free_again
    (m := ⟨.initial, .start settings.backoffBaseMs settings.backoffMaxMs, .authenticating, false⟩)
  obtain ⟨hopening, hidle⟩ := paced_opening hscript
    (p := ⟨_, none, none, none, none, settings.buffer, none⟩) hfree rfl
  exact paced_performs hrest hopening hidle

/-- **Tokens that are used for a round each are replaced once a round at most**, whatever push and
the tasks beside it do. -/
theorem refreshes_spaced (hscript : ∀ r ∈ w.authReplies, ∀ t, r.answer = .ok t → t.Lasts round)
    (settings : PushSettings) (ms : List Move) :
    ∃ n, ((w.startPush settings).play f ms).telemetry.refreshes = w.telemetry.refreshes + n ∧
      w.now + n * round ≤ ((w.startPush settings).play f ms).now := by
  obtain ⟨hstart, hrefreshes⟩ := paced_startPush hscript settings
  obtain ⟨n, hn, hpaced⟩ := paced_play (f := f) ms hstart
  exact ⟨n, hn.trans (congrArg (· + n) hrefreshes), hpaced.begun⟩

end World

end Halyard.Virtual

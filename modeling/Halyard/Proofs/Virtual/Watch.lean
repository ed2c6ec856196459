/-
# What the push manager waits for

The manager waits for an answer, for a timer, for its token to be replaced, or for its
connection. All but the last is watched here, together with the answers that are yet to come
and with the number of tokens that were replaced. Nobody but the manager touches what is
watched: not the other tasks, not the connection, and not what comes in from outside
(`World.watch_act`, `World.watch_move`).

So what holds of it is kept by every play if the turns of the manager keep it, and time that
passes. A turn of the manager takes in what has come (`World.arrives_of_nextInput`), and its
effects do what they say (`World.watch_aside` and the lemmas after it).

Key definitions: `Telemetry.refreshes`, `Watch`, `World.watch`, `World.Arrives`.
Key theorems: `World.watch_act`, `World.watch_move`, `World.arrives_of_nextInput`,
`World.actManager_cases`.
-/
import Halyard.Proofs.Push.Renewals
import Halyard.Proofs.Virtual.Run

namespace Halyard

namespace Telemetry

variable {t : Telemetry}

/-- How many tokens were replaced. -/
def refreshes (t : Telemetry) : Nat :=
  (t.counts.get? (labelled .tokenRefreshes none)).getD 0

theorem labelled_ne {m : Metric} (hm : m ≠ .tokenRefreshes) (label : Option (String × String)) :
    labelled .tokenRefreshes none ≠ labelled m label := by
  intro h
  cases label with
  | none => cases m <;> first | exact hm rfl | exact absurd h (by decide)
  | some label =>
    have hbracket : '[' ∈ (labelled m (some label)).toList := by simp [labelled]
    rw [← h] at hbracket
    exact absurd hbracket (by decide)

theorem refreshes_count_of_ne {m : Metric} (hm : m ≠ .tokenRefreshes)
    (label : Option (String × String)) : (t.count m label).refreshes = t.refreshes := by
  rw [refreshes, count, Dict.get?_insert, if_neg (labelled_ne hm label), refreshes]

theorem refreshes_count : (t.count .tokenRefreshes none).refreshes = t.refreshes + 1 := by
  rw [refreshes, count, Dict.get?_insert, if_pos rfl, refreshes]
  rfl

end Telemetry

namespace Virtual

open Push

variable {β : Type}

/-- Push without its connection. -/
def PushSide.bare (p : PushSide Empty) : PushSide Empty :=
  { p with link := none, stoppedAt := none }

/-- What the push manager waits for apart from its connection, which answers are yet to come, and
how many tokens were replaced. -/
structure Watch where
  now : Nat
  replies : List (Reply Empty (Except FetchError Token))
  side : Option (PushSide Empty)
  refreshes : Nat

/-- Changes what is watched of push. -/
def Watch.onSide (v : Watch) (change : PushSide Empty → PushSide Empty) : Watch :=
  { v with side := v.side.map change }

/-- The answer that comes next. -/
def Watch.nextAnswer (v : Watch) : Pending Empty Token :=
  match v.replies with
  | [] => ⟨v.now, [], .ok defaultToken⟩
  | r :: _ => ⟨v.now + r.delay, r.during, r.answer⟩

namespace World

/-- What is watched of a world. -/
def watch (w : World Empty β) : Watch :=
  ⟨w.now, w.authReplies, w.push.map PushSide.bare, w.telemetry.refreshes⟩

variable {f : Interject Empty β} {w w' : World Empty β}

/-! ### Who leaves it alone -/

theorem watch_count {m : Metric} (hm : m ≠ .tokenRefreshes) (label : Option (String × String)) :
    (w.count m label).watch = w.watch :=
  congrArg (Watch.mk w.now w.authReplies (w.push.map PushSide.bare))
    (Telemetry.refreshes_count_of_ne hm label)

theorem unmoved_watch (v : Watch) : Unmoved fun w : World Empty β => w.watch = v :=
  ⟨⟨fun _ hw => hw, fun _ _ hw => hw, fun _ _ hw => hw, fun _ _ hw => hw, fun _ hw => hw,
    fun label hm hw => (watch_count hm label).trans hw⟩, fun _ hw => hw, fun _ hw => hw,
    fun _ hw => hw, fun _ hw => hw, fun _ hw => hw, fun _ hw => hw⟩

theorem watch_dispatch (n : Notification) : (w.dispatch n).watch = w.watch :=
  (unmoved_watch w.watch).dispatch n rfl

theorem watch_publish (s : PushStatus) : (w.publish s).watch = w.watch := by
  unfold publish
  split
  · exact watch_count (w := { w with
      publisher := w.publisher.publish s
      transitionCount := w.transitionCount + 1
      transitions := w.transitions ++ [(w.now, s)] }) Metric.noConfusion _
  · rfl

theorem watch_noteStop : w.noteStop.watch = w.watch := by
  unfold noteStop onPush watch
  cases w.push with
  | none => rfl
  | some p =>
    simp only [Option.map_some]
    split <;> rfl

theorem watch_actConnection (h : w.actConnection = some w') : w'.watch = w.watch := by
  obtain ⟨p, l, hp, hw'⟩ := actConnection_cases h
  have hlink : { w with push := some { p with link := l } }.watch = w.watch := by
    rw [watch, watch, hp]
    rfl
  rcases hw' with rfl | ⟨n, rfl⟩
  · exact hlink
  · exact (unmoved_watch w.watch).countLost n hlink

/-- **No task but the manager touches what is watched.** -/
theorem watch_act {woken : Bool} {a : Actor} (ha : a ≠ .manager) (h : w.act f woken a = some w') :
    w'.watch = w.watch := by
  by_cases hfront : a = .front
  · subst hfront
    cases frontTurn_of_actFront h with
    | goesOn _ hs | ends _ hs =>
      have hw₁ := (unmoved_watch w.watch).stepWork hs rfl
      exact hw₁
  by_cases hconnection : a = .connection
  · subst hconnection
    exact watch_actConnection h
  exact (unmoved_watch w.watch).act (fun _ _ hw => hw) (fun _ hw => hw) ⟨hfront, ha, hconnection⟩ h
    rfl

/-- **A move is a turn of the manager, or time that passes, or leaves what is watched alone.** -/
theorem watch_move (m : Move) :
    (∃ woken, m = .turn woken .manager ∧ w.actManager = some (w.move f m)) ∨
      ∃ ms, (w.move f m).watch = { w.watch with now := w.now + ms } := by
  have hkept : (w.move f m).watch = w.watch →
      ∃ ms, (w.move f m).watch = { w.watch with now := w.now + ms } := fun h => ⟨0, h⟩
  cases m with
  | wait ms => exact .inr ⟨ms, rfl⟩
  | notify n => exact .inr (hkept (watch_dispatch n))
  | target t => exact .inr (hkept ((unmoved_watch w.watch).enqueueRules t rfl))
  | job j => exact .inr (hkept ((unmoved_watch w.watch).enqueueSegment j rfl))
  | turn woken a =>
    rw [move] at hkept ⊢
    cases ha : w.act f woken a with
    | none =>
      rw [ha] at hkept
      exact .inr (hkept rfl)
    | some w' =>
      rw [ha] at hkept
      by_cases hmanager : a = .manager
      · subst hmanager
        exact .inl ⟨woken, rfl, ha⟩
      · exact .inr (hkept (watch_act hmanager ha))

/-! ### Turns of the manager -/

/-- What the manager is told, and what that leaves of what it waits for. -/
structure Arrives (w : World Empty β) (p q : PushSide Empty) (i : Manager.Input) : Prop where
  manager : q.manager = p.manager
  refreshAt : q.refreshAt = p.refreshAt
  timer : ∀ t, q.timer = some t → p.timer = some t
  answer : ∀ a, q.answer = some a → p.answer = some a
  answered : ∀ r, i = .answered r → ∃ a, p.answer = some a ∧ a.answer = r
  elapsed : i = .elapsed → ∃ t, p.timer = some t ∧ t ≤ w.now
  due : i = .refreshDue → ∃ t, p.refreshAt = some t ∧ t ≤ w.now

/-- **Nothing comes too early**: a timer is over and a token is to be replaced when it is time. -/
theorem arrives_of_nextInput {p q : PushSide Empty} {i : Manager.Input}
    (h : w.nextInput p = some (q, i)) : w.Arrives p q i := by
  unfold nextInput at h
  split at h
  case h_1 =>
    split at h
    · cases h
      exact ⟨rfl, rfl, fun _ ht => ht, nofun, nofun, nofun, nofun⟩
    split at h
    · rename_i a ha
      split at h
      · cases h
        exact ⟨rfl, rfl, fun _ ht => ht, nofun,
          fun r hr => ⟨a, ha, Manager.Input.answered.inj hr⟩, nofun, nofun⟩
      · cases h
    · cases h
  case h_2 | h_3 =>
    split at h
    · cases h
      exact ⟨rfl, rfl, nofun, fun _ ha => ha, nofun, nofun, nofun⟩
    split at h
    · rename_i t ht
      split at h
      · rename_i hover
        cases h
        exact ⟨rfl, rfl, nofun, fun _ ha => ha, nofun, fun _ => ⟨t, ht, hover⟩, nofun⟩
      · cases h
    · cases h
  case h_4 =>
    split at h
    · cases h
      exact ⟨rfl, rfl, fun _ ht => ht, fun _ ha => ha, nofun, nofun, nofun⟩
    split at h
    · rename_i hover
      cases h
      refine ⟨rfl, rfl, fun _ ht => ht, fun _ ha => ha, nofun, nofun, fun _ => ?_⟩
      cases hdue : p.refreshAt with
      | none => simp [hdue] at hover
      | some t => exact ⟨t, rfl, by simpa [hdue] using hover⟩
    split at h
    · split at h
      · cases h
        exact ⟨rfl, rfl, fun _ ht => ht, fun _ ha => ha, nofun, nofun, nofun⟩
      · split at h
        · cases h
          exact ⟨rfl, rfl, fun _ ht => ht, fun _ ha => ha, nofun, nofun, nofun⟩
        · cases h
    · cases h
  case h_5 =>
    split at h
    · cases h
      exact ⟨rfl, rfl, fun _ ht => ht, fun _ ha => ha, nofun, nofun, nofun⟩
    split at h
    · cases h
      exact ⟨rfl, rfl, fun _ ht => ht, fun _ ha => ha, nofun, nofun, nofun⟩
    · cases h
  case h_6 => cases h

/-- **A turn of the manager takes in what has come, and does what follows.** -/
theorem actManager_cases (h : w.actManager = some w') :
    ∃ p q i, w.push = some p ∧ w.Arrives p q i ∧ w'.watch = (w.feedManager q i).watch := by
  unfold actManager at h
  obtain ⟨p, hp, h'⟩ := Option.bind_eq_some_iff.mp h
  obtain ⟨⟨q, i⟩, hq, hi⟩ := Option.bind_eq_some_iff.mp h'
  cases hi
  exact ⟨p, q, i, hp, arrives_of_nextInput hq, watch_noteStop⟩

/-- What is aside leaves what is watched alone, unless a token is replaced. -/
theorem watch_aside {e : Manager.Effect} (he : e.Aside ∧ ¬ e.Replaces) :
    (w.perform e).watch = w.watch := by
  obtain ⟨haside, hreplaces⟩ := he
  cases e with
  | publish s => exact watch_publish s
  | dispatch n => exact watch_dispatch n
  | count m label => exact watch_count hreplaces label
  | _ => exact haside.elim

theorem watch_asides {es : List Manager.Effect} (hes : ∀ e ∈ es, e.Aside ∧ ¬ e.Replaces) :
    (es.foldl perform w).watch = w.watch :=
  List.foldlRecOn (motive := fun v : World Empty β => v.watch = w.watch) _ _ rfl
    fun _ hv e he => (watch_aside (hes e he)).trans hv

theorem watch_onPush {change seen : PushSide Empty → PushSide Empty}
    (h : ∀ p, (change p).bare = seen p.bare) : (w.onPush change).watch = w.watch.onSide seen := by
  have hside : (w.push.map change).map PushSide.bare = (w.push.map PushSide.bare).map seen := by
    rw [Option.map_map, Option.map_map]
    exact congrArg (Option.map · w.push) (funext h)
  exact congrArg (Watch.mk w.now w.authReplies · w.telemetry.refreshes) hside

theorem watch_sleep (ms : Nat) : (w.perform (.sleep ms)).watch =
    w.watch.onSide fun p => { p with timer := some (w.now + ms) } :=
  watch_onPush fun _ => rfl

theorem watch_disconnect :
    (w.perform .disconnect).watch = w.watch.onSide fun p => { p with refreshAt := none } :=
  watch_onPush fun _ => rfl

theorem watch_connect (t : Token) : (w.perform (.connect t)).watch =
    w.watch.onSide fun p =>
      { p with refreshAt := t.refreshIn?.map fun secs => w.now + secs * 1000 } := by
  unfold perform
  simp only
  split <;> exact watch_onPush fun _ => rfl

/-- The next answer is what was to come first, or the one that is given when there is none. -/
theorem watch_authenticate : (w.perform .authenticate).watch =
    { w.watch with replies := w.watch.replies.tail }.onSide fun p =>
      { p with answer := some w.watch.nextAnswer } := by
  unfold perform Watch.nextAnswer
  simp only [watch]
  cases w.authReplies with
  | nil => exact watch_onPush fun _ => rfl
  | cons r rest => exact watch_onPush fun _ => rfl

theorem watch_replaces : (w.perform (.count .tokenRefreshes none)).watch =
    { w.watch with refreshes := w.watch.refreshes + 1 } :=
  congrArg (Watch.mk w.now w.authReplies (w.push.map PushSide.bare)) Telemetry.refreshes_count

end World

end Virtual

end Halyard

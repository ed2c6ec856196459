/-
# How often a token is replaced

Push replaces its token once a round at most. As long as it is granted the same token at once
and its connection is not lost, it does so every round: it waits, connects, streams until the
token is to be replaced, and asks for the next one when the connection has ended
(`World.Stands.oneRound`). So with one token over and over it can be made to replace it as
often as rounds fit into the time, and no more often (`Token.renewable_iff`).

Which of two tokens is replaced more often is then up to how long they are used. One that
lives longer is replaced no more often, unless it undercuts the other one: it alone outlives
the grace, and by little (`Token.replaced_earlier_iff`).

Key definitions: `World.Leads`, `World.Stands`, `Token.Renewable`.
Key theorems: `World.Stands.oneRound`, `World.Stands.rounds`, `Token.renewable_iff`,
`Token.replaced_earlier_iff`.
-/
import Halyard.Proofs.Virtual.Pace

namespace Halyard

namespace Virtual

open Push

variable {β : Type}

namespace World

variable {f : Interject Empty β} {w w' : World Empty β}

/-! ### A play that replaces a token every round -/

/-- Whether some moves lead to another world in some milliseconds, and in them so many tokens are
replaced, each by asking for another one. -/
structure Leads (f : Interject Empty β) (w w' : World Empty β) (ms n : Nat) : Prop where
  plays : Plays f w w'
  now : w'.now = w.now + ms
  refreshes : w'.telemetry.refreshes = w.telemetry.refreshes + n
  asked : w'.authLog.length = w.authLog.length + n

theorem Leads.refl : Leads f w w 0 0 := ⟨.refl, rfl, rfl, rfl⟩

theorem Leads.trans {w₁ w₂ w₃ : World Empty β} {ms n ms' n' : Nat} (h : Leads f w₁ w₂ ms n)
    (h' : Leads f w₂ w₃ ms' n') : Leads f w₁ w₃ (ms + ms') (n + n') where
  plays := h.plays.trans h'.plays
  now := by rw [h'.now, h.now, Nat.add_assoc]
  refreshes := by rw [h'.refreshes, h.refreshes, Nat.add_assoc]
  asked := by rw [h'.asked, h.asked, Nat.add_assoc]

/-- Whether an engine runs whose push goes on and stands in some way, with so many answers to
come at once that grant a token. -/
structure Stands (t : Token) (n : Nat) (side : PushSide Empty → Prop) (w : World Empty β) :
    Prop where
  running : w.shutdown = false
  script : w.authReplies = List.replicate n ⟨0, [], .ok t⟩
  push : ∃ p, w.push = some p ∧ p.manager.GoesOn ∧ side p

end World

namespace PushSide

/-- Whether push is about to be told that a token is granted. -/
def Asks (t : Token) (now : Nat) (p : PushSide Empty) : Prop :=
  p.manager.phase = .authenticating ∧ ∃ a, p.answer = some a ∧ a.due ≤ now ∧ a.answer = .ok t

/-- Whether push waits with a token before it connects. -/
def Waits (t : Token) (wake : Nat) (p : PushSide Empty) : Prop :=
  p.manager.phase = .delaying t ∧ p.timer = some wake

/-- Whether push has a connection, and its token is to be replaced at some moment. -/
def Streams (due : Nat) (p : PushSide Empty) : Prop :=
  p.manager.phase = .streaming ∧ p.refreshAt = some due ∧
    ∃ l c, p.link = some l ∧ l.connection = some c

/-- Whether push told its connection to stop, to replace the token. -/
def Closes (p : PushSide Empty) : Prop :=
  p.manager.phase = .closing .tokenRefresh ∧
    ∃ l c, p.link = some l ∧ l.connection = some c ∧ l.told = true

/-- Whether the connection has ended. -/
def Closed (p : PushSide Empty) : Prop :=
  p.manager.phase = .closing .tokenRefresh ∧ ∃ l o, p.link = some l ∧ l.ended = some o

end PushSide

namespace World

variable {f : Interject Empty β} {w w' : World Empty β} {t : Token} {n : Nat}

theorem Stands.wait {side : PushSide Empty → Prop} (h : w.Stands t n side) (ms : Nat) :
    { w with now := w.now + ms }.Stands t n side :=
  ⟨h.running, h.script, h.push⟩

theorem leads_wait (ms : Nat) : Leads f w { w with now := w.now + ms } ms 0 :=
  ⟨⟨[.wait ms], rfl⟩, rfl, rfl, rfl⟩

/-- What the manager makes of an input, if it goes on. -/
theorem leads_manager {p q : PushSide Empty} {i : Manager.Input} {v : World Empty β}
    (hp : w.push = some p) (hnext : w.nextInput p = some (q, i))
    (hv : (w.feedManager q i).noteStop = v) {n : Nat} (hnow : v.now = w.now)
    (hrefreshes : v.telemetry.refreshes = w.telemetry.refreshes + n)
    (hasked : v.authLog.length = w.authLog.length + n) : Leads f w v 0 n := by
  refine ⟨⟨[.turn true .manager], ?_⟩, hnow, hrefreshes, hasked⟩
  have hact : w.actManager = some v := by
    rw [actManager, hp, ← hv]
    simp only [Option.bind_eq_bind, Option.bind_some, hnext]
    rfl
  show w.actManager.getD w = v
  rw [hact]
  rfl

theorem leads_connect {p q : PushSide Empty} {i : Manager.Input} (hrun : w.shutdown = false)
    (hscript : w.authReplies = List.replicate n ⟨0, [], .ok t⟩) (hp : w.push = some p)
    (hnext : w.nextInput p = some (q, i)) (hgoes : q.manager.GoesOn)
    (hstep : q.manager.step i = q.manager.connect t) {secs : Nat}
    (hsecs : t.refreshIn? = some secs) :
    ∃ w', Leads f w w' 0 0 ∧ w'.Stands t n (·.Streams (w'.now + secs * 1000)) := by
  have hfeed : ∃ v, (w.feedManager q i).noteStop = v ∧ v.now = w.now ∧
      v.telemetry.refreshes = w.telemetry.refreshes ∧ v.authLog.length = w.authLog.length ∧
      v.Stands t n (·.Streams (v.now + secs * 1000)) := by
    refine ⟨_, rfl, ?_⟩
    have hrefreshAt : (t.refreshIn?.map fun secs => w.now + secs * 1000) =
        some (w.now + secs * 1000) := by rw [hsecs]; rfl
    rw [feedManager, hstep]
    simp only [Manager.connect, List.foldl_cons, List.foldl_nil, perform]
    split
    all_goals
      exact ⟨rfl, rfl, rfl, hrun, hscript, _, rfl, hgoes, rfl, hrefreshAt, _, _, rfl, rfl⟩
  obtain ⟨v, hv, hnow, hrefreshes, hasked, hstands⟩ := hfeed
  exact ⟨v, leads_manager hp hnext hv hnow hrefreshes hasked, hstands⟩

/-- A token is granted that may be used at once. -/
theorem Stands.connects (h : w.Stands t n (·.Asks t w.now)) (hon : t.pushEnabled = true)
    (hdelay : t.connectDelay.getD 0 = 0) {secs : Nat} (hsecs : t.refreshIn? = some secs) :
    ∃ w', Leads f w w' 0 0 ∧ w'.Stands t n (·.Streams (w'.now + secs * 1000)) := by
  obtain ⟨p, hp, hgoes, hphase, a, ha, hdue, hat⟩ := h.push
  have hnext : w.nextInput p = some ({ p with answer := none }, .answered (.ok t)) := by
    simp only [nextInput, hphase, h.running, ha, if_pos hdue, hat, Bool.false_eq_true, if_false]
  have hstep : p.manager.step (.answered (.ok t)) = p.manager.connect t := by
    rw [Manager.step_granted hphase hon, Manager.use_of_no_delay hdelay]
  exact leads_connect h.running h.script hp hnext hgoes hstep hsecs

/-- A token is granted that may not be used at once. -/
theorem Stands.waits (h : w.Stands t n (·.Asks t w.now)) (hon : t.pushEnabled = true) {d : Nat}
    (hdelay : t.connectDelay = some (d + 1)) :
    ∃ w', Leads f w w' 0 0 ∧ w'.Stands t n (·.Waits t (w'.now + (d + 1) * 1000)) := by
  obtain ⟨p, hp, hgoes, hphase, a, ha, hdue, hat⟩ := h.push
  have hnext : w.nextInput p = some ({ p with answer := none }, .answered (.ok t)) := by
    simp only [nextInput, hphase, h.running, ha, if_pos hdue, hat, Bool.false_eq_true, if_false]
  have hstep : p.manager.step (.answered (.ok t)) =
      ({ p.manager with phase := .delaying t }, [.sleep ((d + 1) * 1000)]) := by
    rw [Manager.step_granted hphase hon, Manager.use_of_delay hdelay]
  have hv : (w.feedManager { p with answer := none } (.answered (.ok t))).noteStop =
      { w with push := some { p with
        manager := { p.manager with phase := .delaying t }
        answer := none
        timer := some (w.now + (d + 1) * 1000) } } := by
    rw [feedManager, hstep]
    rfl
  exact ⟨_, leads_manager hp hnext hv rfl rfl rfl, h.running, h.script, _, rfl, hgoes, rfl, rfl⟩

theorem Stands.goesOn {wake : Nat} (h : w.Stands t n (·.Waits t wake)) (hover : wake ≤ w.now)
    {secs : Nat} (hsecs : t.refreshIn? = some secs) :
    ∃ w', Leads f w w' 0 0 ∧ w'.Stands t n (·.Streams (w'.now + secs * 1000)) := by
  obtain ⟨p, hp, hgoes, hphase, htimer⟩ := h.push
  have hnext : w.nextInput p = some ({ p with timer := none }, .elapsed) := by
    simp only [nextInput, hphase, h.running, htimer, if_pos hover, Bool.false_eq_true, if_false]
  have hstep : p.manager.step .elapsed = p.manager.connect t := by
    simp only [Manager.step, hphase]
  exact leads_connect h.running h.script hp hnext hgoes hstep hsecs

theorem Stands.expires {due : Nat} (h : w.Stands t n (·.Streams due)) (hdue : due ≤ w.now) :
    ∃ w', Leads f w w' 0 0 ∧ w'.Stands t n (·.Closes) := by
  obtain ⟨p, hp, hgoes, hphase, hrefresh, l, c, hl, hc⟩ := h.push
  have hnext : w.nextInput p = some (p, .refreshDue) := by
    simp only [nextInput, hphase, h.running, hrefresh, Option.map_some, Option.getD_some,
      decide_eq_true hdue, Bool.false_eq_true, if_false, if_true]
  have hstep : p.manager.step .refreshDue = p.manager.close .tokenRefresh := by
    simp only [Manager.step, hphase]
  have hv : (w.feedManager p .refreshDue).noteStop =
      { w with push := some { p with
        manager := { p.manager with phase := .closing .tokenRefresh }
        refreshAt := none
        link := some { l with told := true } } } := by
    rw [feedManager, hstep]
    simp only [Manager.close, List.foldl_cons, List.foldl_nil, perform, onPush, hl, Option.map_some]
    rfl
  exact ⟨_, leads_manager hp hnext hv rfl rfl rfl, h.running, h.script, _, rfl, hgoes, rfl, _, c,
    rfl, hc, rfl⟩

theorem Stands.stops (h : w.Stands t n (·.Closes)) :
    ∃ w', Leads f w w' 0 0 ∧ w'.Stands t n (·.Closed) := by
  obtain ⟨p, hp, hgoes, hphase, l, c, hl, hc, htold⟩ := h.push
  have hact : w.actConnection = some (w.endConnection p l .cancelled) := by
    rw [actConnection, hp]
    simp only [Option.bind_eq_bind, Option.bind_some, hl, hc, htold, if_true]
    rfl
  refine ⟨w.endConnection p l .cancelled, ⟨⟨[.turn true .connection], ?_⟩, rfl, rfl, rfl⟩,
    h.running, h.script, _, rfl, hgoes, hphase, _, _, rfl, rfl⟩
  show w.actConnection.getD w = _
  rw [hact]
  rfl

theorem Stands.asksAgain (h : w.Stands t (n + 1) (·.Closed)) :
    ∃ w', Leads f w w' 0 1 ∧ w'.Stands t n (·.Asks t w'.now) := by
  obtain ⟨p, hp, hgoes, hphase, l, o, hl, ho⟩ := h.push
  have hnext : w.nextInput p = some ({ p with link := none }, .ended o) := by
    simp only [nextInput, hphase, h.running, hl, Option.bind_some, ho, Bool.false_and,
      Bool.false_eq_true, if_false]
  have hstep : p.manager.step (.ended o) = ({ p.manager with phase := .authenticating },
      [.count .tokenRefreshes none, .authenticate]) := by
    simp only [Manager.step, hphase, Manager.closed, hgoes.again]
  have hv : (w.feedManager { p with link := none } (.ended o)).noteStop =
      { w.count .tokenRefreshes none with
        authLog := w.authLog ++ [w.now]
        authReplies := List.replicate n ⟨0, [], .ok t⟩
        push := some { p with
          manager := { p.manager with phase := .authenticating }
          link := none
          answer := some ⟨w.now, [], .ok t⟩ } } := by
    have hscript : w.authReplies = ⟨0, [], .ok t⟩ :: List.replicate n ⟨0, [], .ok t⟩ := h.script
    rw [feedManager, hstep]
    simp only [List.foldl_cons, List.foldl_nil, perform, count, hscript]
    rfl
  exact ⟨_, leads_manager hp hnext hv rfl Telemetry.refreshes_count List.length_append, h.running,
    rfl, _, rfl, hgoes, rfl, _, rfl, Nat.le_refl _, rfl⟩

/-- **One round**: the wait that the token asks for, and the time until it is replaced. -/
theorem Stands.oneRound (h : w.Stands t (n + 1) (·.Asks t w.now)) (hon : t.pushEnabled = true)
    {ms : Nat} (hround : t.round? = some ms) :
    ∃ w', Leads f w w' ms 1 ∧ w'.Stands t n (·.Asks t w'.now) := by
  obtain ⟨secs, hsecs, rfl⟩ := Option.map_eq_some_iff.mp hround
  have hstreams : ∃ w₁, Leads f w w₁ (t.connectDelay.getD 0 * 1000) 0 ∧
      w₁.Stands t (n + 1) (·.Streams (w₁.now + secs * 1000)) := by
    cases hdelay : t.connectDelay with
    | none => exact h.connects (f := f) hon (by rw [hdelay]; rfl) hsecs
    | some d =>
      cases d with
      | zero => exact h.connects (f := f) hon (by rw [hdelay]; rfl) hsecs
      | succ d =>
        obtain ⟨w₁, hgranted, hwaits⟩ := h.waits (f := f) hon hdelay
        obtain ⟨w₂, hover, hstreams⟩ :=
          (hwaits.wait ((d + 1) * 1000)).goesOn (f := f) (Nat.le_refl _) hsecs
        have hall := (hgranted.trans (leads_wait ((d + 1) * 1000))).trans hover
        rw [Nat.zero_add, Nat.add_zero] at hall
        exact ⟨w₂, hall, hstreams⟩
  obtain ⟨w₁, hconnected, hstreams⟩ := hstreams
  obtain ⟨w₂, hexpired, hcloses⟩ := (hstreams.wait (secs * 1000)).expires (f := f) (Nat.le_refl _)
  obtain ⟨w₃, hstopped, hclosed⟩ := hcloses.stops (f := f)
  obtain ⟨w₄, hasked, hasks⟩ := hclosed.asksAgain (f := f)
  have hall := (((hconnected.trans (leads_wait (secs * 1000))).trans hexpired).trans
    hstopped).trans hasked
  rw [Nat.add_zero, Nat.add_zero, ← Nat.add_mul] at hall
  exact ⟨w₄, hall, hasks⟩

/-- **Round after round**, as long as tokens are granted. -/
theorem Stands.rounds (hon : t.pushEnabled = true) {ms : Nat} (hround : t.round? = some ms) :
    ∀ (k : Nat) {w : World Empty β}, w.Stands t k (·.Asks t w.now) →
      ∃ w', Leads f w w' (k * ms) k
  | 0, w, _ => ⟨w, by rw [Nat.zero_mul]; exact .refl⟩
  | k + 1, w, h => by
    obtain ⟨w₁, hleads, hasks⟩ := h.oneRound (f := f) hon hround
    obtain ⟨w₂, hleads'⟩ := Stands.rounds hon hround k hasks
    have hms : ms + k * ms = (k + 1) * ms := by rw [Nat.add_mul, Nat.one_mul, Nat.add_comm]
    rw [← hms, Nat.add_comm k 1]
    exact ⟨w₂, hleads.trans hleads'⟩

theorem stands_startPush (hrun : w.shutdown = false)
    (hscript : w.authReplies = List.replicate (n + 1) ⟨0, [], .ok t⟩) (settings : PushSettings) :
    (w.startPush settings).now = w.now ∧
      (w.startPush settings).telemetry.refreshes = w.telemetry.refreshes ∧
      (w.startPush settings).authLog.length = w.authLog.length + 1 ∧
      (w.startPush settings).Stands t n (·.Asks t w.now) := by
  have hstart : w.startPush settings = { w with
      authLog := w.authLog ++ [w.now]
      authReplies := List.replicate n ⟨0, [], .ok t⟩
      push := some {
        manager := ⟨.initial, .start settings.backoffBaseMs settings.backoffMaxMs,
          .authenticating, false⟩
        timer := none
        refreshAt := none
        answer := some ⟨w.now, [], .ok t⟩
        link := none
        buffer := settings.buffer
        stoppedAt := none } } := by
    have hfirst : w.authReplies = ⟨0, [], .ok t⟩ :: List.replicate n ⟨0, [], .ok t⟩ := hscript
    have hbegin : Manager.begin (.start settings.backoffBaseMs settings.backoffMaxMs) =
        (⟨.initial, .start settings.backoffBaseMs settings.backoffMaxMs, .authenticating, false⟩,
          [.authenticate]) := rfl
    rw [startPush, hbegin]
    simp only [List.foldl_cons, List.foldl_nil, perform, hfirst]
    rfl
  rw [hstart]
  exact ⟨rfl, rfl, List.length_append, hrun, rfl, _, rfl, rfl, rfl, _, rfl, Nat.le_refl _, rfl⟩

end World

end Virtual

namespace Push.Token

open Virtual

variable {t t' : Token} {k ms n l l' : Nat}

/-- Whether push, if every token that it is granted is this one, can be made to replace it so many
times within some milliseconds, and to ask for it once more than that. -/
def Renewable (t : Token) (k ms : Nat) : Prop :=
  ∃ (f : World.Interject Empty Empty) (w : World Empty Empty) (settings : PushSettings)
    (moves : List Move),
    (∀ r ∈ w.authReplies, ∀ u, r.answer = .ok u → u = t) ∧
    w.telemetry.refreshes + k ≤ ((w.startPush settings).play f moves).telemetry.refreshes ∧
    w.authLog.length + k + 1 ≤ ((w.startPush settings).play f moves).authLog.length ∧
    ((w.startPush settings).play f moves).now ≤ w.now + ms

/-- **A token can be replaced as often as its rounds fit into the time**, and no more often. -/
theorem renewable_iff (hon : t.pushEnabled = true) (hround : t.round? = some n) :
    t.Renewable k ms ↔ k * n ≤ ms := by
  constructor
  · rintro ⟨f, w, settings, moves, hgranted, hrefreshes, -, hnow⟩
    have hscript : ∀ r ∈ w.authReplies, ∀ u, r.answer = .ok u → u.Lasts n := by
      intro r hr u hu m hm
      rw [hgranted r hr u hu] at hm
      exact Nat.le_of_eq (Option.some.inj (hround.symm.trans hm))
    obtain ⟨n', hn', hspaced⟩ := World.refreshes_spaced (f := f) hscript settings moves
    have hk : k ≤ n' := by omega
    have hrounds : k * n ≤ n' * n := Nat.mul_le_mul_right n hk
    omega
  · intro hfits
    let w : World Empty Empty :=
      { World.initial Names.empty ⟨0, 0, 0⟩ with
        authReplies := List.replicate (k + 1) ⟨0, [], .ok t⟩ }
    have hgranted : ∀ r ∈ w.authReplies, ∀ u, r.answer = .ok u → u = t := by
      intro r hr u hu
      rw [List.eq_of_mem_replicate hr] at hu
      exact (Except.ok.inj hu).symm
    obtain ⟨hnow, hrefreshes, hasked, hasks⟩ :=
      World.stands_startPush (w := w) (t := t) (n := k) rfl rfl ⟨1, 1, 1, 1, 1⟩
    rw [← hnow] at hasks
    let f : World.Interject Empty Empty := fun i => i.elim
    obtain ⟨w', ⟨⟨moves, rfl⟩, hnow', hrefreshes', hasked'⟩⟩ :=
      World.Stands.rounds (f := f) hon hround k hasks
    exact ⟨f, w, ⟨1, 1, 1, 1, 1⟩, moves, hgranted, by omega, by omega, by omega⟩

/-- **Which token is replaced earlier.** Of two tokens whose expiry is after their issue, each is
replaced no sooner than a second after its issue and no later than at its expiry. The one that
lives longer is replaced the earlier one exactly if it undercuts the other one; and exactly then
can push, if both ask for the same wait, be made to replace it more often. -/
theorem replaced_earlier_iff (h : t.Lives l) (h' : t'.Lives l') (hpos : 0 < l) (hle : l ≤ l') :
    ∃ d d', t.refreshIn? = some d ∧ t'.refreshIn? = some d' ∧
      (1 ≤ d ∧ d ≤ l) ∧ (1 ≤ d' ∧ d' ≤ l') ∧ (d' < d ↔ Undercuts l l') ∧
      (t.pushEnabled = true → t'.pushEnabled = true → t.connectDelay = t'.connectDelay →
        ((∃ k ms, t'.Renewable k ms ∧ ¬ t.Renewable k ms) ↔ Undercuts l l')) := by
  refine ⟨refreshAfter l, refreshAfter l', refreshIn?_of_lives h, refreshIn?_of_lives h',
    ⟨one_le_refreshAfter l, refreshAfter_le hpos⟩,
    ⟨one_le_refreshAfter l', refreshAfter_le (Nat.lt_of_lt_of_le hpos hle)⟩,
    refreshAfter_lt_iff hle, fun hon hon' hdelay => ?_⟩
  rw [← refreshAfter_lt_iff hle]
  have hround := round?_of_lives h
  have hround' := round?_of_lives h'
  rw [← hdelay] at hround'
  constructor
  · rintro ⟨k, ms, hmore, hless⟩
    rw [renewable_iff hon' hround'] at hmore
    rw [renewable_iff hon hround] at hless
    refine Nat.lt_of_not_le fun hle' => ?_
    have hrounds : k * ((t.connectDelay.getD 0 + refreshAfter l) * 1000) ≤
        k * ((t.connectDelay.getD 0 + refreshAfter l') * 1000) := Nat.mul_le_mul_left k (by omega)
    omega
  · intro hearlier
    refine ⟨1, (t.connectDelay.getD 0 + refreshAfter l') * 1000, ?_, ?_⟩
    · exact (renewable_iff hon' hround').mpr (Nat.le_of_eq (Nat.one_mul _))
    · rw [renewable_iff hon hround]
      omega

/-- A token that is issued at the beginning and lives some seconds. -/
def living (secs : Nat) : Token := ⟨true, "token", [], some 0, some secs, none⟩

theorem lives_living (secs : Nat) : (living secs).Lives secs :=
  ⟨0, rfl, congrArg some (Nat.zero_add secs).symm⟩

/-- A token of an hour is replaced no more often than one of five minutes. -/
theorem hour_outlasts_five_minutes :
    (living 300).Lives 300 ∧ (living 3600).Lives 3600 ∧
      ¬ ∃ k ms, (living 3600).Renewable k ms ∧ ¬ (living 300).Renewable k ms := by
  refine ⟨lives_living 300, lives_living 3600, ?_⟩
  obtain ⟨d, d', -, -, -, -, -, hoften⟩ :=
    replaced_earlier_iff (lives_living 300) (lives_living 3600) (by decide) (by decide)
  rw [hoften rfl rfl rfl]
  rintro ⟨-, -, hexcess⟩
  exact absurd hexcess (by decide)

/-- A token of ten minutes is replaced after five of them. One that lives a second longer is
replaced after a second, and so three hundred times before the other one is once. -/
theorem second_more_undercuts_ten_minutes :
    (living 600).Lives 600 ∧ (living 601).Lives 601 ∧
      (living 600).refreshIn? = some 300 ∧ (living 601).refreshIn? = some 1 ∧
      (living 601).Renewable 300 300000 ∧ ¬ (living 600).Renewable 2 300000 := by
  refine ⟨lives_living 600, lives_living 601, by decide, by decide, ?_, ?_⟩
  · exact (renewable_iff (n := 1000) rfl (by decide)).mpr (by decide)
  · rw [renewable_iff (n := 300000) rfl (by decide)]
    decide

end Push.Token

end Halyard

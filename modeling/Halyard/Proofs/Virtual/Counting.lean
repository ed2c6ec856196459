/-
# Retries that cannot be counted

How often something is tried again is a setting of 32 bits
(`OnDemandSettings.typed_of_ofJson?`), and no configuration is refused for it
(`Config.validate_with_retries`). Two numbers are computed from
such settings. The delays of an HTTP exchange double with each repetition, in 64
bits (`Http.Exchange.delays_double_iff`). The attempts of a phase of a pursuit
are one more than its retries, in 32 bits; at the largest number of retries
there is none left (`Pursuit.counted_iff`, `Pursuit.nonempty_iff`).

What that means for a pursuit is read off the phase it is in: it never enters a
phase without attempts (`Pursuit.next_inPhase`), so by induction on its course
all its requests are made in phases that have some (`Chase.phased_course`). If
both phases have attempts the plan of the pursuit says the rest: it ends after
an attempt of the first phase at the earliest, and does not end well without
having reached anything but after an attempt of the second.

Key definitions: `OnDemandSettings.retriesOf`, `OnDemandSettings.Typed`,
`Pursuit.InPhase`, `Chase.Phased`.
Key theorems: `Pursuit.next_inPhase`, `Chase.phased_record`,
`Chase.phased_course`, `Chase.Follows.attempted`, `Quest.retries_counted_iff`.
-/
import Halyard.Proofs.Http.Delays
import Halyard.Proofs.Json.Records
import Halyard.Proofs.Virtual.Cadence
import Halyard.Proofs.Virtual.Pursuits

namespace Halyard

namespace OnDemandSettings

variable {settings : OnDemandSettings}

/-- The retries of a phase. -/
def retriesOf (settings : OnDemandSettings) (bypassing : Bool) : Nat :=
  if bypassing then settings.bypassRetries else settings.retries

/-- The numbers of retries are numbers of 32 bits. -/
structure Typed (settings : OnDemandSettings) : Prop where
  retries : settings.retries < Nat.pow 2 32
  bypassRetries : settings.bypassRetries < Nat.pow 2 32

/-- Settings that were read are of that kind. -/
theorem typed_of_ofJson? {v : Json.Value} (h : ofJson? v = some settings) : settings.Typed := by
  have hnumber : ∀ {s : Json.Slot} {default n : Nat}, default < Nat.pow 2 32 →
      s.withDefault? (Json.Value.unsigned? 32) default = some n → n < Nat.pow 2 32 := by
    intro s default n hdefault hn
    rcases Json.Slot.of_withDefault? hn with rfl | ⟨u, hu⟩
    · exact hdefault
    · exact Json.Value.of_unsigned? hu
  unfold ofJson? at h
  obtain ⟨slots, -, h⟩ := Option.bind_eq_some_iff.mp h
  split at h
  · obtain ⟨retries, hretries, h⟩ := Option.bind_eq_some_iff.mp h
    obtain ⟨backoff, -, h⟩ := Option.bind_eq_some_iff.mp h
    obtain ⟨bypass, hbypass, h⟩ := Option.bind_eq_some_iff.mp h
    obtain rfl := Option.some.inj h
    exact ⟨hnumber (by decide) hretries, hnumber (by decide) hbypass⟩
  · cases h

end OnDemandSettings

/-- No number of retries makes a configuration be refused. -/
theorem Config.validate_with_retries (c : Config) (retries : Nat) (settings : OnDemandSettings) :
    ({ c with httpRetries := retries, onDemand := settings } : Config).validate = c.validate := rfl

namespace Pursuit

variable {settings : OnDemandSettings} {p : Pursuit}

/-! ### How many attempts a phase has -/

theorem phaseAttempts_eq_allowed (settings : OnDemandSettings) (bypassing : Bool) :
    phaseAttempts settings bypassing = allowed (settings.retriesOf bypassing) := rfl

theorem allowed_eq_iff {retries : Nat} : allowed retries = retries + 1 ↔ retries < 0xFFFFFFFF := by
  constructor
  · intro h
    have hlt : allowed retries < Nat.pow 2 32 := Nat.mod_lt _ (by decide)
    have hmax : Nat.pow 2 32 = 0xFFFFFFFF + 1 := by decide
    omega
  · exact allowed_eq

/-- **Attempts are counted as they are meant exactly within the range.** -/
theorem counted_iff : (∀ bypassing, phaseAttempts settings bypassing =
    settings.retriesOf bypassing + 1) ↔ settings.InRange := by
  simp only [phaseAttempts_eq_allowed, allowed_eq_iff]
  constructor
  · intro h
    exact ⟨h false, h true⟩
  · intro h bypassing
    cases bypassing with
    | false => exact h.retries
    | true => exact h.bypassRetries

theorem allowed_pos_iff {retries : Nat} (h : retries < Nat.pow 2 32) :
    0 < allowed retries ↔ retries < 0xFFFFFFFF := by
  have hmax : Nat.pow 2 32 = 0xFFFFFFFF + 1 := by decide
  constructor
  · intro hpos
    by_cases hlt : retries < 0xFFFFFFFF
    · exact hlt
    · have hlast : retries = 0xFFFFFFFF := by omega
      rw [hlast] at hpos
      exact absurd hpos (by decide)
  · intro hlt
    rw [allowed_eq hlt]
    omega

/-- **Outside the range a phase has no attempts at all.** -/
theorem nonempty_iff (h : settings.Typed) :
    (∀ bypassing, 0 < phaseAttempts settings bypassing) ↔ settings.InRange := by
  simp only [phaseAttempts_eq_allowed]
  constructor
  · intro hpos
    exact ⟨(allowed_pos_iff h.retries).mp (hpos false),
      (allowed_pos_iff h.bypassRetries).mp (hpos true)⟩
  · intro hrange bypassing
    cases bypassing with
    | false => exact (allowed_pos_iff h.retries).mpr hrange.retries
    | true => exact (allowed_pos_iff h.bypassRetries).mpr hrange.bypassRetries

/-! ### No phase without attempts is entered -/

/-- The phase of a pursuit has attempts. -/
def InPhase (settings : OnDemandSettings) (p : Pursuit) : Prop :=
  0 < phaseAttempts settings p.bypassing

/-- So has the phase that a move leads to. -/
def Move.InPhase (settings : OnDemandSettings) : Move → Prop
  | .fetch p => p.InPhase settings
  | .wait _ p => p.InPhase settings
  | .stop _ => True

theorem enter_inPhase (bypassing : Bool) : (enter settings bypassing).InPhase settings := by
  unfold enter
  by_cases hpos : 0 < phaseAttempts settings bypassing
  · rw [if_pos hpos]
    exact hpos
  · rw [if_neg hpos]
    by_cases hskip : (!bypassing && decide (0 < phaseAttempts settings true)) = true
    · rw [if_pos hskip]
      simp only [Bool.and_eq_true, decide_eq_true_eq] at hskip
      exact hskip.2
    · rw [if_neg hskip]
      trivial

theorem start_inPhase (reached : Bool) : (start settings reached).InPhase settings := by
  cases reached with
  | true => trivial
  | false => exact enter_inPhase false

theorem proceed_inPhase (hp : p.InPhase settings) (reached : Bool) :
    (next.proceed settings p reached).InPhase settings := by
  unfold next.proceed
  split
  · trivial
  · split
    · exact hp
    · split
      · trivial
      · exact enter_inPhase true

/-- **What follows an attempt is in a phase that has attempts.** -/
theorem next_inPhase (hp : p.InPhase settings) (result : Except SyncError Unit) (reached : Bool) :
    (next settings p result reached).InPhase settings := by
  unfold next
  split
  · split
    · exact proceed_inPhase hp reached
    · trivial
  · exact proceed_inPhase hp reached

end Pursuit

namespace Virtual

variable {β : Type} {settings : OnDemandSettings} {fails : FetchError → Prop}

/-- Requests that ask in this way belong to a phase that has attempts. -/
def Phased (settings : OnDemandSettings) (till : Option ChangeNumber) (o : FetchOptions) : Prop :=
  ∃ p : Pursuit, p.InPhase settings ∧ o = p.options till

theorem Phased.options {till : Option ChangeNumber} {o : FetchOptions}
    (h : Phased settings till o) {bypassing : Bool}
    (hempty : Pursuit.phaseAttempts settings bypassing = 0) :
    o = if bypassing then .onDemand else ⟨true, till⟩ := by
  obtain ⟨p, hp, rfl⟩ := h
  have hother : p.bypassing ≠ bypassing := by
    rintro rfl
    exact absurd hempty (Nat.ne_of_gt hp)
  unfold Pursuit.options
  cases bypassing with
  | false => rw [if_pos (by simpa using hother), if_neg Bool.false_ne_true]
  | true => rw [if_neg (by simpa using hother), if_pos rfl]

/-- The pursuit at a stage is in a phase that has attempts, and asks as is due there. -/
def Stage.Phased (settings : OnDemandSettings) (till : Option ChangeNumber) : Stage → Prop
  | .idle p _ => p.InPhase settings
  | .busy p o _ => p.InPhase settings ∧ Virtual.Phased settings till o
  | .ended _ => True

theorem Stage.phased_after {till : Option ChangeNumber} {now : Nat} {m : Pursuit.Move}
    (h : m.InPhase settings) : (after now m).Phased settings till := by
  cases m <;> exact h

theorem Stage.Turn.phased {till : Option ChangeNumber} {now : Nat} {stage stage' : Stage}
    {asked : List FetchOptions} {ending : Option (Except SyncError Unit × Bool)}
    (h : stage.Turn settings fails till now asked ending stage')
    (hstage : stage.Phased settings till) :
    stage'.Phased settings till ∧ ∀ o ∈ asked, Virtual.Phased settings till o := by
  cases h with
  | begins hwake => exact ⟨⟨hstage, _, hstage, rfl⟩, nofun⟩
  | fetches hstep =>
    cases hstep with
    | asks hfails => exact ⟨hstage, List.forall_mem_singleton.mpr hstage.2⟩
    | goesOn hdue => exact ⟨hstage, nofun⟩
  | ends hstep =>
    cases hstep with
    | ends hdue hfailure =>
      exact ⟨Stage.phased_after (Pursuit.next_inPhase hstage.1 _ _), nofun⟩

namespace Chase

variable {c : Chase} {stage stage' : Stage}

/-- All that a chase asked belongs to phases that have attempts. -/
structure Phased (settings : OnDemandSettings) (c : Chase) (stage : Stage) : Prop where
  requests : ∀ r ∈ c.requests, Virtual.Phased settings c.quest.till r.options
  stage : stage.Phased settings c.quest.till

/-- **Entering a turn keeps it so.** -/
theorem phased_record {now : Nat} {work : Work Empty} {asked : List FetchOptions}
    {ending : Option (Except SyncError Unit × Bool)} (hc : c.Phased settings stage)
    (hturn : stage.Turn settings fails c.quest.till now asked ending stage') :
    (c.record now work asked ending).Phased settings stage' := by
  obtain ⟨hstage, hasked⟩ := hturn.phased hc.stage
  refine ⟨List.forall_mem_append.mpr ⟨hc.requests, ?_⟩, hstage⟩
  intro r hr
  obtain ⟨o, ho, rfl⟩ := List.mem_map.mp hr
  exact hasked o ho

/-- **Whatever happens, all requests of a chase belong to phases that have attempts.** -/
theorem phased_course (f : World.Interject Empty β) (q : Quest) {w : World Empty β}
    (hw : w.onDemand = settings) (ws : List (World Empty β))
    (hws : ∀ v ∈ ws, v.onDemand = settings) :
    ∀ r ∈ ((begin q w).course f ws).requests, Virtual.Phased settings q.till r.options := by
  have hbegin : (begin q w).Phased settings
      (.after w.now (Pursuit.start w.onDemand (q.reached w.replica.stores))) := by
    rw [hw]
    exact ⟨nofun, Stage.phased_after (Pursuit.start_inPhase _)⟩
  have hkept : ∀ (c : Chase) (stage stage' : Stage) (now : Nat) (work : Work Empty)
      (asked : List FetchOptions) (ending : Option (Except SyncError Unit × Bool)),
      c.Phased settings stage → c.quest.Shows work stage' →
      stage.Turn settings (fun _ => True) c.quest.till now asked ending stage' →
      (c.record now work asked ending).Phased settings stage' :=
    fun _ _ _ _ _ _ _ hc _ hturn => phased_record hc hturn
  obtain ⟨stage, -, hphased⟩ := course_induction (f := f)
    (P := fun c stage => c.Phased settings stage) hkept ws
    (fun v hv => ⟨hws v hv, fun _ _ => trivial⟩) (c := begin q w) (Quest.shows_begin q w) hbegin
  have hrequests := hphased.requests
  rw [quest_course] at hrequests
  exact hrequests

end Chase

/-! ### What a phase with attempts leads to -/

theorem Planned.options {till : Option ChangeNumber} {start : Nat} {past : List Attempt}
    (h : Planned settings till start past) :
    ∀ {k : Nat} {a : Attempt}, past[k]? = some a → a.options = settings.optionsAt till k := by
  induction h with
  | nil => exact nofun
  | @snoc past a hpast hpermits ih =>
    intro k b hb
    by_cases hk : k < past.length
    · rw [List.getElem?_append_left hk] at hb
      exact ih hb
    · rw [List.getElem?_append_right (by omega)] at hb
      have hlast : k - past.length < 1 := (List.getElem?_eq_some_iff.mp hb).1
      obtain rfl : k = past.length := by omega
      rw [Nat.sub_self] at hb
      obtain rfl := Option.some.inj hb
      exact hpermits.options

/-- **A chase that is over made an attempt of the first phase**, and if all went well but nothing
was reached, one of the second. -/
theorem Chase.Follows.attempted {c : Chase} (h : c.Follows β settings)
    {r : Except SyncError Unit} (hr : c.result? = some r) :
    (∃ a ∈ c.past, a.options = .onDemand) ∧
      (r = .ok () → (∀ a ∈ c.past, a.reached = false) →
        ∃ a ∈ c.past, a.options = ⟨true, c.quest.till⟩) := by
  have hoptions : ∀ k, k < c.past.length →
      ∃ a ∈ c.past, a.options = settings.optionsAt c.quest.till k := fun k hk =>
    ⟨c.past[k], List.getElem_mem hk, h.past.options (List.getElem?_eq_getElem hk)⟩
  obtain ⟨-, last, hlast, -⟩ := (h.result r).mp hr
  have hsome : 0 < c.past.length := List.length_pos_of_mem (List.mem_of_getLast? hlast)
  refine ⟨?_, ?_⟩
  · obtain ⟨a, ha, ho⟩ := hoptions 0 hsome
    exact ⟨a, ha, ho.trans (if_pos (Nat.zero_le _))⟩
  · rintro rfl hnone
    have hspent : c.past.length = settings.attempts := by
      rcases h.reached_or_spent hr with hspent | ⟨a, ha, hreached⟩
      · exact hspent
      · rw [hnone a (List.mem_of_getLast? ha)] at hreached
        cases hreached
    have hless : settings.retries + 1 < c.past.length := by
      rw [hspent]
      unfold OnDemandSettings.attempts
      omega
    obtain ⟨a, ha, ho⟩ := hoptions (settings.retries + 1) hless
    exact ⟨a, ha, ho.trans (if_neg (by omega))⟩

/-- **What the numbers of retries do, whatever a backend answers.** The delays of all exchanges
double exactly if at most 56 repetitions are allowed. The attempts of both phases are one more than
the retries exactly within the range, and only there both phases have attempts. Within the range a
pursuit that is over made an attempt of the first phase, and one of the second if all went well and
nothing was reached; and never is a request made in a phase without attempts. -/
theorem Quest.retries_counted_iff {c : Config} (htyped : c.onDemand.Typed) :
    (∀ r : Http.Request, r.isSendable = true →
      ((∀ (network : Http.Network) (k ms : Nat),
        (Http.Exchange.run network c.httpRetries r).delays[k]? = some ms →
          ms = Http.baseDelay * Nat.pow 2 k) ↔ c.httpRetries ≤ 56)) ∧
    ((∀ bypassing, Pursuit.phaseAttempts c.onDemand bypassing =
      c.onDemand.retriesOf bypassing + 1) ↔ c.onDemand.InRange) ∧
    ((∀ bypassing, 0 < Pursuit.phaseAttempts c.onDemand bypassing) ↔ c.onDemand.InRange) ∧
    ∀ (f : World.Interject Empty β) (q : Quest) (w : World Empty β) (ws : List (World Empty β)),
      w.onDemand = c.onDemand → (∀ v ∈ ws, v.onDemand = c.onDemand) →
      q.reached w.replica.stores = false →
      let d := (Chase.begin q w).course f ws
      (c.onDemand.InRange → ∀ r, d.result? = some r →
        (∃ a ∈ d.past, a.options = .onDemand) ∧
        (r = .ok () → (∀ a ∈ d.past, a.reached = false) →
          ∃ a ∈ d.past, a.options = ⟨true, q.till⟩)) ∧
      ∀ bypassing, Pursuit.phaseAttempts c.onDemand bypassing = 0 →
        ∀ r ∈ d.requests, r.options = if bypassing then .onDemand else ⟨true, q.till⟩ := by
  refine ⟨fun r hr => Http.Exchange.delays_double_iff hr _, Pursuit.counted_iff,
    Pursuit.nonempty_iff htyped, ?_⟩
  intro f q w ws hw hws hreached d
  constructor
  · intro hrange r hr
    have hfollows : d.Follows β c.onDemand := Chase.follows_course hrange f hw hreached ws hws
    have hquest : d.quest = q := Chase.quest_course _ ws
    rw [← hquest]
    exact hfollows.attempted hr
  · intro bypassing hempty r hr
    exact (Chase.phased_course f q hw ws hws r hr).options hempty

/-- The segment of which no answer brings any news is asked for in both phases. -/
theorem Quest.staff_asked_for_in_both_phases :
    let c : Config := { Config.ofKey "key" with onDemand := ⟨1, 100, 0⟩ }
    let w : World Empty Unit := .initial Names.empty c.onDemand
    let ws := [0, 0, 0, 99, 100, 100, 100, 100, 100, 100].map fun t => { w with now := t }
    let d := (Chase.begin (.segment "staff" 5) w).course (fun i w => (w, i.elim)) ws
    c.onDemand.Typed ∧ (∀ bypassing, 0 < Pursuit.phaseAttempts c.onDemand bypassing) ∧
      (∃ a ∈ d.past, a.options = .onDemand) ∧ ∃ a ∈ d.past, a.options = .bypass 5 := by
  intro c w ws d
  have htyped : c.onDemand.Typed := ⟨by decide, by decide⟩
  have hrange : c.onDemand.InRange := ⟨by decide, by decide⟩
  have hws : ∀ v ∈ ws, v.onDemand = c.onDemand := by simp [ws, w, World.initial]
  obtain ⟨-, -, hnonempty, hcourse⟩ := @Quest.retries_counted_iff Unit c htyped
  have hphases := (hcourse (fun i w => (w, i.elim)) (.segment "staff" 5) w ws rfl hws
    (by decide)).1 hrange
  have hover : d.result?.bind Except.toOption = some () := by decide +kernel
  have hnone : ∀ a ∈ d.past, a.reached = false := by decide +kernel
  obtain ⟨r, hr, hok⟩ := Option.bind_eq_some_iff.mp hover
  cases r with
  | error e => cases hok
  | ok u => exact ⟨htyped, hnonempty.mpr hrange, (hphases _ hr).1, (hphases _ hr).2 rfl hnone⟩

/-- With the largest numbers of retries neither phase has attempts: the pursuit is over without a
request, and all is said to be well. And the 57th delay is not what doubling means. Nothing of
that makes the configuration be refused. -/
theorem Quest.largest_retries_leave_none :
    let c : Config := { Config.ofKey "key" with
      httpRetries := 57
      onDemand := ⟨0xFFFFFFFF, 100, 0xFFFFFFFF⟩ }
    let w : World Empty Unit := .initial Names.empty c.onDemand
    let q : Quest := .segment "staff" 5
    let d := (Chase.begin q w).course (fun i w => (w, i.elim)) [w, w]
    let r : Http.Request := ⟨Endpoints.standard.sdk, none, none, none, "*/*"⟩
    c.validate = .ok () ∧ c.onDemand.Typed ∧
      (∀ bypassing, Pursuit.phaseAttempts c.onDemand bypassing = 0) ∧
      q.reached w.replica.stores = false ∧ d.requests.length = 0 ∧
      d.result?.bind Except.toOption = some () ∧
      ∃ ms, (Http.Exchange.run Http.Exchange.refusing c.httpRetries r).delays[56]? = some ms ∧
        ms ≠ Http.baseDelay * Nat.pow 2 56 := by
  intro c w q d r
  have hdelay : (Http.Exchange.run Http.Exchange.refusing c.httpRetries r).delays[56]? =
      some (Http.retryDelay 56) := by
    rw [Http.Exchange.delays_refusing (by decide), List.getElem?_map,
      List.getElem?_range (by decide)]
    rfl
  have hvalid : c.validate = .ok () := by
    rw [Config.validate_with_retries]
    exact (Config.validate_eq_ok_iff _).mpr
      ⟨by decide +kernel, by decide +kernel, by decide +kernel, _, rfl⟩
  exact ⟨hvalid, ⟨by decide, by decide⟩, by decide, by decide, by decide +kernel,
    by decide +kernel, _, hdelay, by decide⟩

end Virtual

end Halyard

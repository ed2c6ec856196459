/-
# Rejected requests

A pursuit stops at a request whose failure is final, and at no other: it takes such a
failure for its own result, and after any other it goes on if the plan has another
attempt, or ends as if nothing had failed (`Chase.Heeds`, `Chase.heeds_record`).

Over HTTP a request fails without an answer, or with a status as the exchange
classifies it; but only three of the statuses that are not retriable are final. So a
rejection ends a pursuit if it is for the key (`Quest.rejection_ends_iff`). A page that
is missing is asked for again, in as many attempts as there are
(`Quest.missing_page_asked_again`).

Key definitions: `World.ServedBy`, `Asked.Passing`, `Chase.Heeds`.
Key theorems: `Chase.heeds_record`, `Chase.Heeds.fails_iff`, `Chase.Heeds.result_turn`,
`Quest.rejection_ends_iff`.
-/
import Halyard.Proofs.Fetch.Plan
import Halyard.Proofs.Http.Failures
import Halyard.Proofs.Virtual.Chases

namespace Halyard.Virtual

open Http

variable {β : Type} {settings : OnDemandSettings}

/-- Whether the replies to come are the answers of endpoints over some network. -/
structure World.ServedBy (a : Api) (w : World Empty β) : Prop where
  rules : ∀ r ∈ w.ruleReplies, ∀ since ruleSince, ∃ network o,
    r.answer since ruleSince = a.fetchRules network since ruleSince o
  segments : ∀ name, ∀ r ∈ (w.segmentReplies.get? name).getD [], ∀ since, ∃ network o,
    r.answer since = a.fetchSegment network name since o

theorem World.ServedBy.fails {a : Api} {w : World Empty β} (h : w.ServedBy a) {e : FetchError}
    (he : w.Fails e) : Http.Fails e := by
  rcases he with ⟨r, hr, since, ruleSince, he⟩ | ⟨name, r, hr, since, he⟩
  · obtain ⟨network, o, hanswer⟩ := h.rules r hr since ruleSince
    exact a.sound_fetchRules network o since ruleSince e (hanswer.symm.trans he)
  · obtain ⟨network, o, hanswer⟩ := h.segments name r hr since
    exact a.sound_fetchSegment network o name since e (hanswer.symm.trans he)

/-- Whether trying again may help after a request: it did not fail, or its failure is not final. -/
def Asked.Passing (r : Asked) : Prop :=
  ∀ e, r.failure = some e → e.isFinal = false

namespace Chase

variable {c : Chase} {stage stage' : Stage} {fails : FetchError → Prop}

/-- Whether a chase at some stage heeded its failures: no request before the last one failed for
good, and if the last one did it is under way, or the chase ended with its failure. -/
def Heeds (c : Chase) : Stage → Prop
  | .busy _ _ (some (_, failure)) => ∃ before r, c.requests = before ++ [r] ∧
      (∀ r ∈ before, r.Passing) ∧ r.failure = failure
  | .ended result =>
      ((∀ r ∈ c.requests, r.Passing) ∧
        ∀ before r e, c.requests = before ++ [r] → r.failure = some e → result = .ok ()) ∨
      ∃ before r e, c.requests = before ++ [r] ∧ (∀ r ∈ before, r.Passing) ∧
        r.failure = some e ∧ e.isFinal = true ∧ result = .error e.toSync
  | _ => ∀ r ∈ c.requests, r.Passing

theorem heeds_of_passing {now : Nat} {m : Pursuit.Move} (h : ∀ r ∈ c.requests, r.Passing)
    (hstop : ∀ before r e result, c.requests = before ++ [r] → r.failure = some e →
      m = .stop result → result = .ok ()) : c.Heeds (.after now m) := by
  cases m with
  | fetch p => exact h
  | wait ms p => exact h
  | stop result => exact .inl ⟨h, fun before r e hr he => hstop before r e result hr he rfl⟩

theorem heeds_begin (q : Quest) (w : World Empty β) (m : Pursuit.Move) :
    (begin q w).Heeds (.after w.now m) :=
  heeds_of_passing (List.forall_mem_nil _) fun before r _ _ hr => by
    cases before <;> cases hr

/-- The end of an attempt whose last request failed for good ends the chase; else it goes on, or
ends as if nothing had failed. -/
theorem heeds_ended {now : Nat} {p : Pursuit} {result : Except SyncError Unit} {reached : Bool}
    {before : List Asked} {r : Asked} (hrequests : c.requests = before ++ [r])
    (hbefore : ∀ r ∈ before, r.Passing)
    (hresult : ∀ e, r.failure = some e → result = .error e.toSync) :
    c.Heeds (.after now (p.next settings result reached)) := by
  by_cases hfinal : ∃ e, r.failure = some e ∧ e.isFinal = true
  · obtain ⟨e, he, hfinal⟩ := hfinal
    have hcured : e.toSync.retryable = false := by simpa [FetchError.isFinal] using hfinal
    rw [hresult e he, Pursuit.next_of_not_retryable hcured]
    exact .inr ⟨before, r, e, hrequests, hbefore, he, hfinal, rfl⟩
  · have hpassing : r.Passing := fun e he => Bool.eq_false_iff.mpr fun h => hfinal ⟨e, he, h⟩
    refine heeds_of_passing ?_ fun before' r' e result' hr he hstop => ?_
    · rw [hrequests]
      exact List.forall_mem_append.mpr ⟨hbefore, List.forall_mem_singleton.mpr hpassing⟩
    · obtain rfl := List.singleton_inj.mp (List.append_inj' (hrequests.symm.trans hr) rfl).2
      have hcured : e.toSync.retryable = true := by
        simpa [FetchError.isFinal] using hpassing e he
      rw [hresult e he] at hstop
      exact Pursuit.eq_ok_of_next_stop hcured hstop

/-- **Every turn heeds the failures.** -/
theorem heeds_record {now : Nat} {work : Work Empty} {asked : List FetchOptions}
    {ending : Option (Except SyncError Unit × Bool)} (hc : c.Heeds stage)
    (hshown : c.quest.Shows work stage')
    (hturn : stage.Turn settings fails c.quest.till now asked ending stage') :
    (c.record now work asked ending).Heeds stage' := by
  have hrecord : (c.record now work asked ending).requests =
      c.requests ++ asked.map fun o => ⟨c.past.length, o, work.failure?⟩ := rfl
  cases hturn with
  | begins hwake =>
    rw [List.map_nil, List.append_nil] at hrecord
    show ∀ r ∈ (c.record now work [] none).requests, r.Passing
    rw [hrecord]
    exact hc
  | fetches hstep =>
    cases hstep with
    | asks hfails => exact ⟨c.requests, _, hrecord, hc, hshown.failure?_eq⟩
    | goesOn hdue =>
      obtain ⟨before, r, hrequests, hbefore, hr⟩ := hc
      rw [List.map_nil, List.append_nil] at hrecord
      show ∀ r ∈ (c.record now work [] none).requests, r.Passing
      rw [hrecord, hrequests]
      refine List.forall_mem_append.mpr ⟨hbefore, List.forall_mem_singleton.mpr fun e he => ?_⟩
      cases hr.symm.trans he
  | ends hstep =>
    cases hstep with | ends hdue hfailure
    obtain ⟨before, r, hrequests, hbefore, hr⟩ := hc
    rw [List.map_nil, List.append_nil] at hrecord
    exact heeds_ended (hrecord.trans hrequests) hbefore fun e he => hfailure e (hr.symm.trans he)

theorem failures_record {now : Nat} {work : Work Empty} {asked : List FetchOptions}
    {ending : Option (Except SyncError Unit × Bool)}
    (hc : ∀ r ∈ c.requests, ∀ e, r.failure = some e → fails e)
    (hshown : c.quest.Shows work stage')
    (hturn : stage.Turn settings fails c.quest.till now asked ending stage') :
    ∀ r ∈ (c.record now work asked ending).requests, ∀ e, r.failure = some e → fails e := by
  refine List.forall_mem_append.mpr ⟨hc, ?_⟩
  cases hturn with
  | begins hwake => exact List.forall_mem_nil _
  | fetches hstep =>
    cases hstep with
    | asks hfails =>
      refine List.forall_mem_singleton.mpr fun e he => hfails e ?_
      exact hshown.failure?_eq.symm.trans he
    | goesOn hdue => exact List.forall_mem_nil _
  | ends hstep =>
    cases hstep
    exact List.forall_mem_nil _

/-! ### The last request -/

variable {before after : List Asked} {r : Asked} {e : FetchError}

theorem last_of_not_passing {before' : List Asked} {r' : Asked}
    (h : before ++ r :: after = before' ++ [r']) (hbefore : ∀ r ∈ before', r.Passing)
    (hnot : ¬ r.Passing) : after = [] ∧ r = r' := by
  rcases List.eq_nil_or_concat after with rfl | ⟨front, x, rfl⟩
  · exact ⟨rfl, List.singleton_inj.mp (List.append_inj' h rfl).2⟩
  · have hsplit : (before ++ r :: front) ++ [x] = before' ++ [r'] := by simpa using h
    have hmem : r ∈ before' := by
      rw [← (List.append_inj' hsplit rfl).1]
      simp
    exact absurd (hbefore r hmem) hnot

/-- A request that failed for good is the last one. Either its answer is still to arrive, or the
chase ended with its failure. -/
theorem Heeds.of_final (h : c.Heeds stage) (hrequests : c.requests = before ++ r :: after)
    (he : r.failure = some e) (hfinal : e.isFinal = true) :
    after = [] ∧ ((∃ p o due, stage = .busy p o (some (due, some e))) ∨
      stage = .ended (.error e.toSync)) := by
  have hnot : ¬ r.Passing := fun hr => by
    cases (hr e he).symm.trans hfinal
  have hmem : r ∈ c.requests := by
    rw [hrequests]
    simp
  cases stage with
  | idle p wake => exact absurd (h r hmem) hnot
  | busy p o arrival =>
    cases arrival with
    | none => exact absurd (h r hmem) hnot
    | some arrival =>
      obtain ⟨before', r', hr', hbefore, hfailure⟩ := h
      obtain ⟨hlast, rfl⟩ := last_of_not_passing (hrequests.symm.trans hr') hbefore hnot
      refine ⟨hlast, .inl ⟨p, o, arrival.1, ?_⟩⟩
      rw [← he, hfailure]
  | ended result =>
    obtain ⟨hall, -⟩ | ⟨before', r', e', hr', hbefore, he', -, hresult⟩ := h
    · exact absurd (hall r hmem) hnot
    · obtain ⟨hlast, rfl⟩ := last_of_not_passing (hrequests.symm.trans hr') hbefore hnot
      obtain rfl := Option.some.inj (he.symm.trans he')
      exact ⟨hlast, .inr (congrArg Stage.ended hresult)⟩

/-- A chase that is over, and whose last request failed but not for good, has no failure to tell. -/
theorem Heeds.of_passing {result : Except SyncError Unit} (h : c.Heeds (.ended result))
    (hrequests : c.requests = before ++ [r]) (he : r.failure = some e)
    (hpassing : e.isFinal = false) :
    result = .ok () := by
  obtain ⟨-, hresult⟩ | ⟨before', r', e', hr', -, he', hfinal, -⟩ := h
  · exact hresult before r e hrequests he
  · obtain rfl := List.singleton_inj.mp (List.append_inj' (hrequests.symm.trans hr') rfl).2
    obtain rfl := Option.some.inj (he.symm.trans he')
    cases hpassing.symm.trans hfinal

/-- A chase that is over has a failure to tell, and none of its requests followed a failed one,
exactly if that one failed for good. -/
theorem Heeds.fails_iff {result : Except SyncError Unit} (h : c.Heeds (.ended result))
    (hrequests : c.requests = before ++ r :: after) (he : r.failure = some e) :
    (after = [] ∧ ∃ reason, result = .error reason) ↔ e.isFinal = true := by
  refine ⟨fun ⟨hlast, reason, hreason⟩ => ?_, fun hfinal => ?_⟩
  · refine Classical.byContradiction fun hnot => ?_
    rw [hlast] at hrequests
    cases hreason.symm.trans (h.of_passing hrequests he (Bool.eq_false_iff.mpr hnot))
  · obtain ⟨hlast, ⟨p, o, due, hbusy⟩ | hended⟩ := h.of_final hrequests he hfinal
    · cases hbusy
    · exact ⟨hlast, _, Stage.ended.inj hended⟩

theorem result_turn_of_final {p : Pursuit} {o : FetchOptions} {due : Nat}
    (hshows : c.quest.Shows c.work (.busy p o (some (due, some e)))) (hfinal : e.isFinal = true)
    (f : World.Interject Empty β) {v : World Empty β} (hdue : due ≤ v.now) :
    (c.turn f v).result? = some (.error e.toSync) := by
  have hcured : e.toSync.retryable = false := by simpa [FetchError.isFinal] using hfinal
  have hsome := (hshows.isSome_waiting (f := f)).mpr hdue
  rcases turn_cases (f := f) (w := v) hshows with ⟨-, hnone | ⟨r, hover⟩⟩ |
    ⟨work, asked, ending, stage', hrec, hshown, hturn⟩
  · rw [hnone] at hsome
    cases hsome
  · cases hover
  · have hresult : (c.turn f v).result? = stage'.result? := by
      rw [hrec]
      exact hshown.result?_eq
    rw [hresult]
    cases hturn with
    | fetches hstep => cases hstep
    | ends hstep =>
      cases hstep with | ends hdue' hfailure
      rw [hfailure e rfl, Pursuit.next_of_not_retryable hcured]
      rfl

/-- A chase in which a request failed for good has its failure as the result once nothing more is
waited for. -/
theorem Heeds.result_turn (h : c.Heeds stage) (hshows : c.quest.Shows c.work stage)
    (hrequests : c.requests = before ++ r :: after) (he : r.failure = some e)
    (hfinal : e.isFinal = true) (f : World.Interject Empty β) {v : World Empty β}
    (hdue : ∀ t ∈ c.work.due, t ≤ v.now) :
    (c.turn f v).result? = some (.error e.toSync) := by
  obtain ⟨-, ⟨p, o, due, rfl⟩ | rfl⟩ := h.of_final hrequests he hfinal
  · refine result_turn_of_final hshows hfinal f (hdue due ?_)
    rw [hshows.due_eq]
    exact List.mem_singleton_self due
  · obtain ⟨r', hsettled⟩ := hshows.settled_of_ended
    have hsame : c.turn f v = c := course_of_settled hsettled [v]
    rw [hsame]
    exact hshows.result?_eq

/-- **What a chase heeds after a course of events.** -/
theorem heeds_course (f : World.Interject Empty β) (q : Quest) (w : World Empty β)
    (ws : List (World Empty β)) (hws : ∀ v ∈ ws, v.onDemand = settings ∧ ∀ e, v.Fails e → fails e) :
    let c := (begin q w).course f ws
    ∃ stage, c.quest.Shows c.work stage ∧ c.Heeds stage ∧
      ∀ r ∈ c.requests, ∀ e, r.failure = some e → fails e := by
  refine course_induction (f := f)
    (P := fun c stage => c.Heeds stage ∧ ∀ r ∈ c.requests, ∀ e, r.failure = some e → fails e)
    ?_ ws hws (c := begin q w) (Quest.shows_begin q w) ⟨heeds_begin q w _, List.forall_mem_nil _⟩
  exact fun _ _ _ _ _ _ _ hP hshown hturn =>
    ⟨heeds_record hP.1 hshown hturn, failures_record hP.2 hshown hturn⟩

end Chase

namespace Quest

/-- **A rejection ends a pursuit if it is for the key.** A status with which a request over HTTP
fails is no success, and is classified as it is by the exchange. If it is not retriable, the
request is the last one and the pursuit comes to a failure exactly if the status says that the key
is refused; then it does so as soon as the response is there. Another request follows a failed
one only if there was no answer, the URL was none, or the status is retriable or does not say that
the key is refused. -/
theorem rejection_ends_iff (a : Api) (f : World.Interject Empty β) (q : Quest) (w : World Empty β)
    (ws : List (World Empty β)) (hws : ∀ v ∈ ws, v.onDemand = settings ∧ v.ServedBy a) :
    let c := (Chase.begin q w).course f ws
    ∀ before r after e, c.requests = before ++ r :: after → r.failure = some e →
      (∀ code retryable, e = .status code retryable →
        Status.isSuccess code = false ∧ retryable = Status.isRetriable code) ∧
      (∀ code, e = .status code false →
        (∀ result, c.result? = some result →
          ((after = [] ∧ ∃ reason, result = .error reason) ↔ FetchError.RefusesKey code)) ∧
        (FetchError.RefusesKey code → after = [] ∧
          ∀ v, (∀ t ∈ c.work.due, t ≤ v.now) →
            (c.turn f v).result? = some (.error (.authRejected e.message)))) ∧
      (after ≠ [] → e = .transport ∨ (∃ url, e = .invalidUrl url) ∨
        ∃ code, e = .status code (Status.isRetriable code) ∧
          (Status.isRetriable code = true ∨ ¬ FetchError.RefusesKey code)) := by
  intro c before r after e hrequests he
  obtain ⟨stage, hshows, hheeds, hfails⟩ := Chase.heeds_course f q w ws
    fun v hv => ⟨(hws v hv).1, fun e => (hws v hv).2.fails⟩
  have hmem : r ∈ c.requests := by
    rw [hrequests]
    simp
  have hfailed : Fails e := hfails r hmem e he
  have hresult : c.result? = stage.result? := hshows.result?_eq
  refine ⟨?_, ?_, fun hmore => ?_⟩
  · rintro code retryable rfl
    cases hfailed with
    | status hsuccess => exact ⟨hsuccess, rfl⟩
  · rintro code rfl
    have hkey : (FetchError.status code false).isFinal = true ↔ FetchError.RefusesKey code := by
      rw [FetchError.isFinal_status]
      exact and_iff_right rfl
    refine ⟨fun result hover => ?_, fun hrefused => ?_⟩
    · obtain rfl := Stage.eq_ended_of_result? (hresult.symm.trans hover)
      exact (hheeds.fails_iff hrequests he).trans hkey
    · have hfinal := hkey.mpr hrefused
      refine ⟨(hheeds.of_final hrequests he hfinal).1, fun v hv => ?_⟩
      rw [← FetchError.toSync_of_refusesKey hrefused]
      exact hheeds.result_turn hshows hrequests he hfinal f hv
  · have hpassing : e.isFinal = false :=
      Bool.eq_false_iff.mpr fun h => hmore (hheeds.of_final hrequests he h).1
    obtain h | h | ⟨code, retryable, rfl, hnot⟩ := FetchError.isFinal_eq_false_iff.mp hpassing
    · exact .inl h
    · exact .inr (.inl h)
    · cases hfailed with
      | status hsuccess =>
        refine .inr (.inr ⟨code, rfl, ?_⟩)
        cases hretriable : Status.isRetriable code with
        | true => exact .inl rfl
        | false => exact .inr fun hrefused => hnot ⟨hretriable, hrefused⟩

end Quest

/-! ### A segment that is refused -/

/-- The endpoints of the own machine. -/
def ownMachine : Api := ⟨"key", "http://[::1]", "http://[::1]", Names.empty, 3⟩

/-- A path on the own machine. -/
def ownUrl (path : List String) : Text.Url :=
  ⟨"http".toList, some ⟨[], [], "[::1]".toList, none⟩, .segments (path.map String.toList), none,
    none⟩

/-- A network that has only refusals. -/
def refusals (code : Nat) : Network :=
  fun _ _ => some ⟨code, []⟩

/-- A world in which the segment `staff` is to be answered with a refusal. -/
def World.refusing (settings : OnDemandSettings) (code now : Nat) : World Empty Unit :=
  { World.initial Names.empty settings with
    now := now
    segmentReplies := Dict.empty.insert "staff" [⟨0, [], fun _ => .error (.status code false)⟩] }

theorem fetchSegment_ownMachine {code : Nat} (hsuccess : Status.isSuccess code = false)
    (hretriable : Status.isRetriable code = false) (since : ChangeNumber) :
    ownMachine.fetchSegment (refusals code) "staff" since .onDemand =
      .error (.status code false) := by
  have hparse : Text.Url.parse? ("http://[::1]" ++ "/" ++ "segmentChanges") =
      some (ownUrl ["segmentChanges"]) := by decide +kernel
  have hsegment : (ownUrl ["segmentChanges"]).withSegment? "staff" =
      some (ownUrl ["segmentChanges", "staff"]) := by decide +kernel
  have hurl : ownMachine.segmentUrl "staff" since .onDemand =
      .ok ((ownUrl ["segmentChanges", "staff"]).withQuery [("since", toString since)]) := by
    simp only [Api.segmentUrl, ownMachine, urlBelow, hparse, bind, Except.bind, hsegment]
    rfl
  have hresponse : ∀ r, refusals code r 0 = some ⟨code, []⟩ := fun _ => rfl
  exact Api.fetchSegment_of_refused _ _ _ hurl rfl (hresponse _) hsuccess hretriable

theorem refusing_servedBy {code : Nat} (hsuccess : Status.isSuccess code = false)
    (hretriable : Status.isRetriable code = false) (settings : OnDemandSettings) (now : Nat) :
    (World.refusing settings code now).ServedBy ownMachine where
  rules := List.forall_mem_nil _
  segments := by
    intro name r hr since
    have hentry : (World.refusing settings code now).segmentReplies.get? name =
        if name = "staff" then some [⟨0, [], fun _ => .error (.status code false)⟩]
        else Dict.empty.get? name := Dict.get?_insert _ _ _ _
    rw [hentry] at hr
    split at hr
    · rename_i hname
      obtain rfl := List.mem_singleton.mp hr
      exact ⟨refusals code, .onDemand,
        hname ▸ (fetchSegment_ownMachine hsuccess hretriable since).symm⟩
    · cases hr

/-- A refused key ends the pursuit with its first request. -/
theorem Quest.refused_key_ends_pursuit :
    let settings : OnDemandSettings := ⟨1, 100, 0⟩
    let ws := [0, 0].map (World.refusing settings 401)
    let c := (Chase.begin (.segment "staff" 5) (World.refusing settings 401 0)).course
      (fun i w => (w, i.elim)) ws
    (∀ v ∈ ws, v.onDemand = settings ∧ v.ServedBy ownMachine) ∧
      c.requests = [] ++ ⟨0, .onDemand, some (.status 401 false)⟩ :: [] ∧
      (c.turn (fun i w => (w, i.elim)) (World.refusing settings 401 0)).result? =
        some (.error (.authRejected "unexpected status 401")) := by
  intro settings ws c
  have hws : ∀ v ∈ ws, v.onDemand = settings ∧ v.ServedBy ownMachine := by
    intro v hv
    obtain ⟨now, -, rfl⟩ := List.mem_map.mp hv
    exact ⟨rfl, refusing_servedBy (by decide) (by decide) settings now⟩
  have hrequests : c.requests = [] ++ ⟨0, .onDemand, some (.status 401 false)⟩ :: [] := by
    decide +kernel
  have hdue : ∀ t ∈ c.work.due, t ≤ (World.refusing settings 401 0).now := by decide +kernel
  have hrefused := ((rejection_ends_iff ownMachine (fun i w => (w, i.elim)) (.segment "staff" 5)
    (World.refusing settings 401 0) ws hws [] _ [] _ hrequests rfl).2.1 401 rfl).2 (.inr (.inl rfl))
  exact ⟨hws, hrequests, hrefused.2 _ hdue⟩

/-- A page that is missing is asked for again, and the pursuit ends as if all were well. -/
theorem Quest.missing_page_asked_again :
    let settings : OnDemandSettings := ⟨1, 100, 0⟩
    let ws := [0, 0, 0, 100, 100, 100, 100, 100, 100].map (World.refusing settings 404)
    let c := (Chase.begin (.segment "staff" 5) (World.refusing settings 404 0)).course
      (fun i w => (w, i.elim)) ws
    (∀ v ∈ ws, v.onDemand = settings ∧ v.ServedBy ownMachine) ∧
      Status.isRetriable 404 = false ∧
      c.requests.map (·.failure) = List.replicate 3 (some (.status 404 false)) ∧
      c.result?.bind Except.toOption = some () := by
  intro settings ws c
  refine ⟨fun v hv => ?_, by decide, by decide +kernel, by decide +kernel⟩
  obtain ⟨now, -, rfl⟩ := List.mem_map.mp hv
  exact ⟨rfl, refusing_servedBy (by decide) (by decide) settings now⟩

end Halyard.Virtual

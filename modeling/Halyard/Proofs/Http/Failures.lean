/-
# How requests over HTTP fail

A request for a document is repeated while its status says that it may succeed later,
so an exchange that fails was not answered, or ends in a status that is no success,
with the classification of that status (`Http.Fails`, `Http.fails_of_run`). A status
that is not retriable ends an exchange with its first response (`Http.run_of_refused`).

As the end of a fetch such a failure gets another classification. It is final if the
document could not be read, or if the status is not retriable and among three that
stand for a key that is refused. Any other status may be tried again, whatever the
exchange said of it (`FetchError.isFinal_iff`).

Key definitions: `FetchError.isFinal`, `FetchError.RefusesKey`, `Http.Fails`, `Http.Sound`.
Key theorems: `FetchError.isFinal_status`, `Http.fails_of_run`, `Http.run_of_refused`,
`Http.Api.sound_fetchRules`, `Http.Api.sound_fetchSegment`.
-/
import Halyard.Http.Api

namespace Halyard

namespace FetchError

/-- Whether trying again is of no use after a fetch that ended in a failure. -/
def isFinal (e : FetchError) : Bool :=
  !e.toSync.retryable

/-- Whether a status says that the key is refused. -/
def RefusesKey (code : Nat) : Prop :=
  code = 400 ∨ code = 401 ∨ code = 403

theorem refusesKey_iff {code : Nat} :
    (code = 400 || code = 401 || code = 403) = true ↔ RefusesKey code := by
  simp only [Bool.or_eq_true, decide_eq_true_eq, RefusesKey, or_assoc]

theorem toSync_of_refusesKey {code : Nat} (h : RefusesKey code) :
    (status code false).toSync = .authRejected (status code false).message := by
  simp only [toSync, refusesKey_iff.mpr h, if_true]

/-- **A status is final only if it says that the key is refused.** -/
theorem isFinal_status (code : Nat) (retryable : Bool) :
    (status code retryable).isFinal = true ↔ retryable = false ∧ RefusesKey code := by
  cases retryable with
  | true => simp [isFinal, toSync, SyncError.retryable]
  | false =>
    rw [← refusesKey_iff]
    simp only [isFinal, toSync]
    cases code = 400 || code = 401 || code = 403 <;> simp [SyncError.retryable]

/-- A failure that is not final is the lack of an answer, a URL that is none, or a status that does
not say that the key is refused. -/
theorem isFinal_eq_false_iff {e : FetchError} : e.isFinal = false ↔
    e = .transport ∨ (∃ url, e = .invalidUrl url) ∨
      ∃ code retryable, e = .status code retryable ∧ ¬ (retryable = false ∧ RefusesKey code) := by
  cases e with
  | transport => simp [isFinal, toSync, SyncError.retryable]
  | decode => simp [isFinal, toSync, SyncError.retryable]
  | invalidUrl url => simp [isFinal, toSync, SyncError.retryable]
  | token t => simp [isFinal, toSync, SyncError.retryable]
  | status code retryable =>
    rw [← Bool.not_eq_true, isFinal_status]
    refine ⟨fun h => .inr (.inr ⟨code, retryable, rfl, h⟩), ?_⟩
    rintro (h | ⟨url, h⟩ | ⟨code', retryable', h, hnot⟩)
    · cases h
    · cases h
    · cases h
      exact hnot

end FetchError

namespace Http

/-- How a request for a document may fail. -/
inductive Fails : FetchError → Prop
  | transport : Fails .transport
  | decode : Fails .decode
  | invalidUrl (url : String) : Fails (.invalidUrl url)
  | status {code : Nat} : Status.isSuccess code = false →
      Fails (.status code (Status.isRetriable code))

/-! ### Exchanges -/

theorem eq_of_verdict_rejected {limit repeated status : Nat} {e : FetchError}
    (h : verdict limit repeated status = .rejected e) :
    Status.isSuccess status = false ∧ e = .status status (Status.isRetriable status) := by
  unfold verdict at h
  split at h
  · cases h
  · rename_i hsuccess
    split at h
    · cases h
    · cases h
      exact ⟨Bool.eq_false_iff.mpr hsuccess, rfl⟩

theorem fails_of_resume {attempts : Attempts} {limit repeated : Nat} {e : FetchError}
    (h : (Exchange.resume attempts limit repeated).result = .error e) : Fails e := by
  fun_induction Exchange.resume attempts limit repeated with
  | case1 repeated hnone =>
    cases h
    exact .transport
  | case2 repeated r hr haccepted => cases h
  | case3 repeated r hr e' hrejected =>
    cases h
    obtain ⟨hsuccess, rfl⟩ := eq_of_verdict_rejected hrejected
    exact .status hsuccess
  | case4 repeated r hr ms hagain rest ih => exact ih h

/-- **An exchange fails without an answer, or with a status as it is classified.** -/
theorem fails_of_run {network : Network} {limit : Nat} {r : Request} {e : FetchError}
    (h : (Exchange.run network limit r).result = .error e) : Fails e :=
  fails_of_resume h

theorem run_of_refused {network : Network} {r : Request} {response : Response}
    (hsendable : r.isSendable = true) (hresponse : network r 0 = some response)
    (hsuccess : Status.isSuccess response.status = false)
    (hretriable : Status.isRetriable response.status = false) (limit : Nat) :
    Exchange.run network limit r = ⟨[], .error (.status response.status false)⟩ := by
  have hverdict : verdict limit 0 response.status = .rejected (.status response.status false) := by
    simp [verdict, hsuccess, hretriable]
  rw [Exchange.run, if_pos hsendable, Exchange.resume, hresponse]
  simp only
  split
  · rename_i h
    cases hverdict.symm.trans h
  · rename_i e h
    cases hverdict.symm.trans h
    rfl
  · rename_i ms h
    cases hverdict.symm.trans h

/-! ### Documents -/

/-- Whether a result is as it should be, or a failure of a request. -/
def Sound {α : Type} (x : Except FetchError α) : Prop :=
  ∀ e, x = .error e → Fails e

theorem sound_ok {α : Type} (a : α) : Sound (.ok a) := nofun

theorem sound_error {α : Type} {e : FetchError} (h : Fails e) :
    Sound (.error e : Except FetchError α) := by
  intro e' he
  cases he
  exact h

theorem Sound.bind {α γ : Type} {x : Except FetchError α} {f : α → Except FetchError γ}
    (hx : Sound x) (hf : ∀ a, Sound (f a)) : Sound (x >>= f) := by
  cases x with
  | error e => exact sound_error (hx e rfl)
  | ok a => exact hf a

theorem sound_document {α : Type} (read : Json.Value → Option α) (r : Response) :
    Sound (document read r) := by
  unfold document
  split
  · exact sound_ok _
  · exact sound_error .decode

theorem sound_urlBelow (base path : String) : Sound (urlBelow base path) := by
  unfold urlBelow
  split
  · exact sound_ok _
  · exact sound_error (.invalidUrl _)

namespace Api

variable (a : Api) (network : Network) (o : FetchOptions)

theorem sound_get {α : Type} (url : Text.Url) (noCache : Bool) (read : Json.Value → Option α) :
    Sound (a.get network url noCache read) :=
  .bind (fun _ => fails_of_run) (sound_document read)

theorem sound_rulesUrl (since ruleSince : ChangeNumber) : Sound (a.rulesUrl since ruleSince o) :=
  .bind (sound_urlBelow _ _) fun _ => sound_ok _

theorem sound_segmentUrl (name : String) (since : ChangeNumber) :
    Sound (a.segmentUrl name since o) := by
  refine .bind (sound_urlBelow _ _) fun u => ?_
  split
  · exact sound_ok _
  · exact sound_error (.invalidUrl _)

/-- **How asking for rules fails.** -/
theorem sound_fetchRules (since ruleSince : ChangeNumber) :
    Sound (a.fetchRules network since ruleSince o) :=
  (a.sound_rulesUrl o since ruleSince).bind fun _ => a.sound_get network _ _ _

/-- **How asking for a segment fails.** -/
theorem sound_fetchSegment (name : String) (since : ChangeNumber) :
    Sound (a.fetchSegment network name since o) :=
  (a.sound_segmentUrl o name since).bind fun _ =>
    (a.sound_get network _ _ _).bind fun _ => sound_ok _

theorem fetchSegment_of_refused {name : String} {since : ChangeNumber} {url : Text.Url}
    {response : Response} (hurl : a.segmentUrl name since o = .ok url)
    (hsendable : (a.request url o.noCache).isSendable = true)
    (hresponse : network (a.request url o.noCache) 0 = some response)
    (hsuccess : Status.isSuccess response.status = false)
    (hretriable : Status.isRetriable response.status = false) :
    a.fetchSegment network name since o = .error (.status response.status false) := by
  have hrun := run_of_refused hsendable hresponse hsuccess hretriable a.retries
  simp only [fetchSegment, get, hurl, hrun, bind, Except.bind]

end Api

end Http

end Halyard

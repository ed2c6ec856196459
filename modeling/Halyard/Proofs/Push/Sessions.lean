/-
# The status of push within a session

A session begins when a connection is accepted and lasts until the next failure.
Two things pause push within it, independently of each other: no channel has
publishers, or the backend paused the stream. Of the two the availability only
remembers how they stand, and it passes through statuses only when a message
changes what they call for. Every message that counts therefore is one update of
the two followed by the passage from the status that was called for to the one
that is (`Availability.occupancy_eq`, `Availability.control_eq`), and nothing
that happens in a session leaves the status behind (`Session.Coherent.step`).

Key definitions: `Availability.Input`, `Availability.calledFor`,
`Availability.passage`, `Session`, `Session.Orderly`, `Session.Coherent`,
`Session.Answers`.
Key theorems: `Availability.occupancy_eq`, `Availability.control_eq`,
`Session.status_as_called_for`, `Manager.tells_in_order`.
-/
import Halyard.Proofs.Push.Manager

namespace Halyard.Push

namespace Availability

variable {a : Availability}

/-! ### What the availability is told -/

/-- What the availability of push is told. -/
inductive Input where
  /-- A connection was accepted. -/
  | connected
  /-- A channel reported its publishers. -/
  | occupancy (channel : String) (publishers : Nat) (timestamp : Int)
  | control (c : Control)
  /-- The connection or the authentication failed. -/
  | failed (retryable : Bool)

/-- Whether an input is a message, which only a connection can bring. -/
def Input.isMessage : Input → Bool
  | .occupancy .. | .control _ => true
  | _ => false

/-- Takes in an input, with the statuses that it passes through. -/
def tell (a : Availability) : Input → Availability × List PushStatus
  | .connected => a.connected
  | .occupancy channel publishers timestamp => a.occupancy channel publishers timestamp
  | .control c => a.control c
  | .failed retryable => a.failed retryable

theorem tell_of_off (h : a.isOff = true) (i : Input) : a.tell i = (a, []) := by
  cases i with
  | connected => exact if_pos h
  | occupancy => exact if_pos (by rw [h, Bool.true_or])
  | control => exact if_pos h
  | failed => exact if_pos h

theorem tell_connected (hon : a.isOff = false) :
    a.tell .connected = (⟨Dict.empty, true, false, some .ready⟩, [.ready]) :=
  if_neg (by simp [hon])

theorem tell_failed (hon : a.isOff = false) (retryable : Bool) :
    a.tell (.failed retryable) = a.transition [if retryable then .backoff else .off] :=
  if_neg (by simp [hon])

theorem tell_disabled (hon : a.isOff = false) :
    a.tell (.control .disabled) = a.transition [.off] :=
  if_neg (by simp [hon])

theorem tell_outdated {channel : String} {timestamp : Int}
    (h : a.outdated channel timestamp = true) (publishers : Nat) :
    a.tell (.occupancy channel publishers timestamp) = (a, []) :=
  if_pos (by rw [h, Bool.or_true])

/-! ### What a message does -/

/-- The status that the reasons to pause push call for. -/
def calledFor (a : Availability) : PushStatus :=
  if a.publishersAvailable && !a.pausedByControl then .ready else .paused

/-- Whether some channel has publishers. -/
def SomePublishers (a : Availability) : Prop :=
  ∃ channel report, a.channels.get? channel = some report ∧ 0 < report.publishers

/-- The statuses between two that are called for. -/
def passage (before after : PushStatus) : List PushStatus :=
  if before = after then []
  else if after = .ready then [.resumed, .ready] else [.paused]

/-- The availability with a channel's report, before its status follows. -/
def withReport (a : Availability) (channel : String) (publishers : Nat) (timestamp : Int) :
    Availability :=
  { a with
    channels := a.channels.insert channel ⟨publishers, timestamp⟩
    publishersAvailable := anyPublishers (a.channels.insert channel ⟨publishers, timestamp⟩) }

/-- The availability of a stream that the backend paused or resumed, before its status
follows. -/
def withPause (a : Availability) (paused : Bool) : Availability :=
  { a with pausedByControl := paused }

theorem anyPublishers_iff : anyPublishers a.channels = true ↔ a.SomePublishers := by
  unfold anyPublishers SomePublishers
  simp only [List.any_eq_true, decide_eq_true_eq, Dict.get?_eq_some_iff]
  constructor
  · rintro ⟨⟨channel, report⟩, hmem, hpos⟩
    exact ⟨channel, report, hmem, hpos⟩
  · rintro ⟨channel, report, hmem, hpos⟩
    exact ⟨(channel, report), hmem, hpos⟩

/-- Whether publishers came or went decides what is passed through, unless the backend paused
the stream. -/
theorem transition_passage {b : Availability} (hb : b.pausedByControl = a.pausedByControl) :
    (if b.publishersAvailable == a.publishersAvailable || a.pausedByControl then (b, [])
      else if b.publishersAvailable then b.transition [.resumed, .ready]
      else b.transition [.paused]) =
      b.transition (passage a.calledFor b.calledFor) := by
  obtain ⟨channels, available, paused, current⟩ := a
  obtain ⟨channels', available', paused', current'⟩ := b
  obtain rfl : paused' = paused := hb
  cases available <;> cases available' <;> cases paused' <;> rfl

/-- A report that is not older than the last one of its channel is noted, and the status
follows. -/
theorem occupancy_eq (hon : a.isOff = false) {channel : String} {timestamp : Int}
    (hnew : a.outdated channel timestamp = false) (publishers : Nat) :
    a.occupancy channel publishers timestamp =
      (a.withReport channel publishers timestamp).transition
        (passage a.calledFor (a.withReport channel publishers timestamp).calledFor) := by
  have hskip : ¬ (a.isOff || a.outdated channel timestamp) = true := by simp [hon, hnew]
  have hfollow := transition_passage (a := a)
    (b := a.withReport channel publishers timestamp) rfl
  rw [← hfollow, occupancy, if_neg hskip]
  rfl

theorem control_eq (hon : a.isOff = false) {c : Control} (hc : c ≠ .disabled) :
    a.control c =
      (a.withPause (c == .paused)).transition
        (passage a.calledFor (a.withPause (c == .paused)).calledFor) := by
  have hskip : ¬ a.isOff = true := by simp [hon]
  obtain ⟨channels, available, paused, current⟩ := a
  unfold control
  rw [if_neg hskip]
  cases c with
  | disabled => exact absurd rfl hc
  | paused => cases available <;> cases paused <;> rfl
  | resumed => cases available <;> cases paused <;> rfl

theorem calledFor_cases : a.calledFor = .ready ∨ a.calledFor = .paused := by
  unfold calledFor
  split
  · exact .inl rfl
  · exact .inr rfl

/-- A passage ends at the status that is called for, wherever push stood before it. -/
theorem current_passage {b : Availability} (hcurrent : b.current = some a.calledFor) :
    (b.transition (passage a.calledFor b.calledFor)).1.current = some b.calledFor := by
  have htransition : (b.transition (passage a.calledFor b.calledFor)).1.current =
      (passage a.calledFor b.calledFor).getLast?.or (some a.calledFor) := by
    rw [← hcurrent]
    rfl
  rw [htransition]
  rcases calledFor_cases (a := a) with ha | ha <;>
    rcases calledFor_cases (a := b) with hb | hb <;> rw [ha, hb] <;> rfl

end Availability

/-! ### Sessions -/

open Availability (Input)

/-- The availability of push, with whether a session lasts and whether a report of publishers
was accepted in it. -/
structure Session where
  availability : Availability
  opened : Bool
  reported : Bool

namespace Session

variable {s : Session} {i : Input}

/-- Before the first connection. -/
def start : Session := ⟨.initial, false, false⟩

/-- Whether a session lasts after an input. -/
def lasts (s : Session) : Input → Bool
  | .connected => true
  | .failed _ => false
  | _ => s.opened

/-- Whether a report was accepted in the session, up to an input. -/
def heard (s : Session) : Input → Bool
  | .connected => false
  | .occupancy channel _ timestamp =>
    s.reported || !(s.availability.isOff || s.availability.outdated channel timestamp)
  | _ => s.reported

/-- Takes in an input. -/
def step (s : Session) (i : Input) : Session :=
  ⟨(s.availability.tell i).1, s.lasts i, s.heard i⟩

/-- Takes in several inputs. -/
def run (s : Session) (inputs : List Input) : Session :=
  inputs.foldl step s

/-- Whether messages come while a session lasts only. -/
def Orderly (s : Session) : List Input → Prop
  | [] => True
  | i :: inputs => (i.isMessage = true → s.opened = true) ∧ (s.step i).Orderly inputs

theorem run_append (inputs more : List Input) : s.run (inputs ++ more) = (s.run inputs).run more :=
  List.foldl_append

theorem orderly_append_iff {more : List Input} : ∀ {inputs : List Input} {s : Session},
    s.Orderly (inputs ++ more) ↔ s.Orderly inputs ∧ (s.run inputs).Orderly more
  | [], _ => (true_and _).symm.to_iff
  | i :: inputs, s => by
    have ih : (s.step i).Orderly (inputs ++ more) ↔
        (s.step i).Orderly inputs ∧ ((s.step i).run inputs).Orderly more := orderly_append_iff
    rw [List.cons_append, Orderly, Orderly, ih, and_assoc]
    rfl

/-- How push stands in a session: unless it is off, its status is the one that is called for,
and once a report was accepted, publishers are taken to be there if some channel has them. -/
structure Coherent (s : Session) : Prop where
  status : s.opened = true → s.availability.isOff = false →
    s.availability.current = some s.availability.calledFor
  reports : s.reported = true →
    (s.availability.publishersAvailable = true ↔ s.availability.SomePublishers)

theorem coherent_start : start.Coherent :=
  ⟨fun h => Bool.noConfusion h, fun h => Bool.noConfusion h⟩

theorem Coherent.passage {b : Availability} (h : s.Coherent)
    (hon : s.availability.isOff = false) (hb : b.current = s.availability.current)
    (hopened : s.opened = true) :
    (b.transition (Availability.passage s.availability.calledFor b.calledFor)).1.current =
      some b.calledFor :=
  Availability.current_passage (hb.trans (h.status hopened hon))

theorem Coherent.occupancy (h : s.Coherent) (hon : s.availability.isOff = false)
    (channel : String) (publishers : Nat) (timestamp : Int) :
    (s.step (.occupancy channel publishers timestamp)).Coherent := by
  by_cases hnew : s.availability.outdated channel timestamp = true
  · have hskip : s.step (.occupancy channel publishers timestamp) = s := by
      simp [step, Availability.tell_outdated hnew, lasts, heard, hnew]
    rw [hskip]
    exact h
  · have hnew' : s.availability.outdated channel timestamp = false := by simpa using hnew
    have htell : s.availability.tell (.occupancy channel publishers timestamp) = _ :=
      Availability.occupancy_eq hon hnew' publishers
    refine ⟨fun hopened _ => ?_, fun _ => ?_⟩
    · rw [step, htell]
      exact h.passage hon rfl hopened
    · rw [step, htell]
      exact Availability.anyPublishers_iff
        (a := s.availability.withReport channel publishers timestamp)

theorem Coherent.control (h : s.Coherent) (hon : s.availability.isOff = false) (c : Control) :
    (s.step (.control c)).Coherent := by
  by_cases hc : c = .disabled
  · subst hc
    refine ⟨fun _ hoff => ?_, fun hreported => ?_⟩
    · rw [step, Availability.tell_disabled hon] at hoff
      exact Bool.noConfusion hoff
    · rw [step, Availability.tell_disabled hon]
      exact h.reports hreported
  · have htell : s.availability.tell (.control c) = _ := Availability.control_eq hon hc
    refine ⟨fun hopened _ => ?_, fun hreported => ?_⟩
    · rw [step, htell]
      exact h.passage hon rfl hopened
    · rw [step, htell]
      exact h.reports hreported

/-- **Nothing that happens leaves the status behind.** -/
theorem Coherent.step (h : s.Coherent) (i : Input) : (s.step i).Coherent := by
  by_cases hoff : s.availability.isOff = true
  · have htell := Availability.tell_of_off hoff i
    refine ⟨fun _ hon => ?_, fun hreported => ?_⟩
    · rw [Session.step, htell] at hon
      exact absurd (hon.symm.trans hoff) Bool.false_ne_true
    · rw [Session.step, htell]
      refine h.reports ?_
      cases i with
      | connected => exact Bool.noConfusion hreported
      | occupancy => simpa [Session.step, heard, hoff] using hreported
      | _ => exact hreported
  have hon : s.availability.isOff = false := by simpa using hoff
  cases i with
  | connected =>
    refine ⟨fun _ _ => ?_, fun hreported => Bool.noConfusion hreported⟩
    rw [Session.step, Availability.tell_connected hon]
    rfl
  | occupancy channel publishers timestamp => exact h.occupancy hon channel publishers timestamp
  | control c => exact h.control hon c
  | failed retryable =>
    refine ⟨fun hopened => Bool.noConfusion hopened, fun hreported => ?_⟩
    rw [Session.step, Availability.tell_failed hon]
    exact h.reports hreported

/-- In a run that began coherently push stands coherently at any time. -/
theorem coherent_run : ∀ (inputs : List Input) {s : Session}, s.Coherent → (s.run inputs).Coherent
  | [], _, h => h
  | i :: inputs, _, h => coherent_run inputs (h.step i)

/-! ### What is passed through -/

/-- What an input may be answered with. -/
inductive Answers (a : Availability) : Input → List PushStatus → Prop
  | silent {i : Input} : Answers a i []
  | opens : Answers a .connected [.ready]
  | pauses {i : Input} (hi : i.isMessage = true) (h : a.current = some .ready) :
    Answers a i [.paused]
  | resumes {i : Input} (hi : i.isMessage = true) (h : a.current = some .paused) :
    Answers a i [.resumed, .ready]
  | backsOff : Answers a (.failed true) [.backoff]
  | givesUp : Answers a (.failed false) [.off]
  | disabled : Answers a (.control .disabled) [.off]

theorem answers_passage {a b : Availability} {i : Input} (hi : i.isMessage = true)
    (hcurrent : a.current = some a.calledFor) :
    Answers a i (Availability.passage a.calledFor b.calledFor) := by
  rcases Availability.calledFor_cases (a := a) with ha | ha <;>
    rcases Availability.calledFor_cases (a := b) with hb | hb <;> rw [ha, hb]
  · exact .silent
  · exact .pauses hi (hcurrent.trans (congrArg some ha))
  · exact .resumes hi (hcurrent.trans (congrArg some ha))
  · exact .silent

theorem Coherent.answers (h : s.Coherent) (hi : i.isMessage = true → s.opened = true) :
    Answers s.availability i (s.availability.tell i).2 := by
  by_cases hoff : s.availability.isOff = true
  · rw [Availability.tell_of_off hoff]
    exact .silent
  have hon : s.availability.isOff = false := by simpa using hoff
  cases i with
  | connected =>
    rw [Availability.tell_connected hon]
    exact .opens
  | failed retryable =>
    rw [Availability.tell_failed hon]
    cases retryable with
    | true => exact .backsOff
    | false => exact .givesUp
  | occupancy channel publishers timestamp =>
    have hcurrent := h.status (hi rfl) hon
    by_cases hnew : s.availability.outdated channel timestamp = true
    · rw [Availability.tell_outdated hnew]
      exact .silent
    · have htell : s.availability.tell (.occupancy channel publishers timestamp) = _ :=
        Availability.occupancy_eq hon (by simpa using hnew) publishers
      rw [htell]
      exact answers_passage rfl hcurrent
  | control c =>
    by_cases hc : c = .disabled
    · subst hc
      rw [Availability.tell_disabled hon]
      exact .disabled
    · have htell : s.availability.tell (.control c) = _ := Availability.control_eq hon hc
      rw [htell]
      exact answers_passage rfl (h.status (hi rfl) hon)

/-- **The status is the one that is called for.** Let messages come within sessions only. Then
after every input of a run: in a session push is off, or ready if publishers are taken to be
there and the stream is not paused, and paused otherwise; and once a report was accepted in the
session, publishers are taken to be there exactly if some channel of the table has them. What is
passed through is nothing, or what the input calls for from the status before it. Push that is
off stays as it is, and answers nothing. -/
theorem status_as_called_for (inputs : List Input) (i : Input)
    (h : start.Orderly (inputs ++ [i])) :
    let s := start.run inputs
    (s.step i).Coherent ∧ Answers s.availability i (s.availability.tell i).2 ∧
      (s.availability.isOff = true → s.availability.tell i = (s.availability, [])) := by
  intro s
  have hs : s.Coherent := coherent_run inputs coherent_start
  have hi : i.isMessage = true → s.opened = true := (orderly_append_iff.mp h).2.1
  exact ⟨hs.step i, hs.answers hi, fun hoff => Availability.tell_of_off hoff i⟩

/-- A session that the backend paused, in which publishers went and came back meanwhile. -/
def pausedMeanwhile : List Input :=
  [.connected, .control .paused, .occupancy "control_pri" 0 1, .occupancy "control_sec" 2 1]

/-- The stream is resumed, and push with it. -/
theorem resumed_after_pause :
    start.Orderly (pausedMeanwhile ++ [.control .resumed]) ∧
      ((start.run pausedMeanwhile).step (.control .resumed)).Coherent ∧
      Answers (start.run pausedMeanwhile).availability (.control .resumed) [.resumed, .ready] ∧
      ((start.run pausedMeanwhile).availability.isOff = true →
        (start.run pausedMeanwhile).availability.tell (.control .resumed) =
          ((start.run pausedMeanwhile).availability, [])) := by
  have horderly : start.Orderly (pausedMeanwhile ++ [.control .resumed]) := by
    simp [pausedMeanwhile, Orderly, Input.isMessage, start, step, lasts]
  exact ⟨horderly, status_as_called_for pausedMeanwhile (.control .resumed) horderly⟩

end Session

/-! ### What the manager tells

That messages come within sessions only is the manager's doing. It hands on what a connection
brings, which begins with the news that the connection was accepted, and after a failure it opens
another one. -/

namespace Manager

variable {m : Manager}

/-- The availability after an input, if there is one. -/
def informed (a : Availability) (i : Option Availability.Input) : Availability :=
  (i.map fun i => (a.tell i).1).getD a

/-- The failure that an answer of the auth endpoint is. -/
def refusal? (r : Except FetchError Token) : Option Availability.Input :=
  match r.mapError FetchError.toSync with
  | .ok t => if t.pushEnabled then none else some (.failed false)
  | .error (.authRejected _) => some (.failed false)
  | .error _ => some (.failed true)

/-- The message that a notification is. -/
def message? : Notification → Option Availability.Input
  | .control _ c => some (.control c)
  | .occupancy channel publishers timestamp => some (.occupancy channel publishers timestamp)
  | _ => none

/-- The failure that the end of a session is. -/
def loss? : SessionEnd → ConnectionOutcome → Option Availability.Input
  | .closed, .retryable _ => some (.failed true)
  | .closed, .nonRetryable _ => some (.failed false)
  | _, _ => none

/-- What the manager tells its availability when it takes in an input. -/
def told? (m : Manager) (i : Input) : Option Availability.Input :=
  match m.phase, i with
  | .authenticating, .answered r => refusal? r
  | .streaming, .event .connected => some .connected
  | .streaming, .event (.notification n) => message? n
  | .closing e, .ended outcome => loss? e outcome
  | _, _ => none

theorem availability_answered (r : Except FetchError Token) :
    (m.answered r).1.availability = informed m.availability (refusal? r) := by
  unfold answered refusal?
  cases r.mapError FetchError.toSync with
  | error e => cases e <;> rfl
  | ok t =>
    dsimp only
    cases t.pushEnabled with
    | false => rfl
    | true =>
      cases t.connectDelay with
      | none => rfl
      | some secs => cases secs <;> rfl

theorem availability_notified (n : Notification) :
    (m.notified n).1.availability = informed m.availability (message? n) := by
  unfold notified
  cases n <;> dsimp only <;> split <;> rfl

theorem availability_again : m.again.1.availability = m.availability := by
  rcases again_cases (m := m) with h | h <;> rw [h]

theorem availability_closed (e : SessionEnd) (outcome : ConnectionOutcome) :
    (m.closed e outcome).1.availability = informed m.availability (loss? e outcome) := by
  cases e with
  | tokenRefresh => exact availability_again
  | closed => cases outcome <;> rfl
  | _ => rfl

/-- The availability changes only as it is told. -/
theorem availability_step (i : Input) :
    (m.step i).1.availability = informed m.availability (m.told? i) := by
  obtain ⟨availability, backoff, phase, leaving⟩ := m
  cases phase with
  | authenticating =>
    cases i with
    | answered r => exact availability_answered r
    | _ => rfl
  | streaming =>
    cases i with
    | event e =>
      cases e with
      | connected => rfl
      | notification n => exact availability_notified n
    | _ => rfl
  | closing e =>
    cases i with
    | ended outcome => exact availability_closed e outcome
    | _ => rfl
  | backingOff =>
    cases i with
    | elapsed => exact availability_again
    | _ => rfl
  | _ => cases i <;> rfl

/-- Everything that the manager tells its availability while it takes in some inputs. -/
def tells (m : Manager) : List Input → List Availability.Input
  | [] => []
  | i :: inputs => (m.told? i).toList ++ (m.step i).1.tells inputs

/-- Whether the connection of a session was accepted, after an input. -/
def greeted (m : Manager) (before : Bool) (i : Input) : Bool :=
  match m.phase, i with
  | .streaming, .event .connected => true
  | .streaming, _ => before
  | _, _ => false

/-- Whether every connection hands over first that it was accepted. -/
def Greets (m : Manager) (before : Bool) : List Input → Prop
  | [] => True
  | i :: inputs =>
    (∀ n, m.phase = .streaming → i = .event (.notification n) → before = true) ∧
      (m.step i).1.Greets (m.greeted before i) inputs

/-- What a manager knows of a session while its connection streams. -/
structure Attends (m : Manager) (before : Bool) (s : Session) : Prop where
  availability : s.availability = m.availability
  opened : m.phase = .streaming → before = true → s.opened = true

theorem phase_of_greeted {before : Bool} {i : Input} (h : m.greeted before i = true) :
    m.phase = .streaming := by
  unfold greeted at h
  split at h
  · assumption
  · assumption
  · cases h

theorem opened_message (s : Session) (n : Notification) :
    (s.run (message? n).toList).opened = s.opened := by
  cases n <;> rfl

theorem not_isMessage_refusal {r : Except FetchError Token} {j : Availability.Input}
    (h : refusal? r = some j) : j.isMessage = false := by
  unfold refusal? at h
  split at h
  · split at h
    · cases h
    · cases h
      rfl
  · cases h
    rfl
  · cases h
    rfl

theorem not_isMessage_loss {e : SessionEnd} {outcome : ConnectionOutcome} {j : Availability.Input}
    (h : loss? e outcome = some j) : j.isMessage = false := by
  unfold loss? at h
  split at h
  · cases h
    rfl
  · cases h
    rfl
  · cases h

theorem notified_of_isMessage {i : Input} {j : Availability.Input} (h : m.told? i = some j)
    (hj : j.isMessage = true) :
    m.phase = .streaming ∧ ∃ n, i = .event (.notification n) := by
  unfold told? at h
  split at h
  · rw [not_isMessage_refusal h] at hj
    cases hj
  · cases h
    cases hj
  · exact ⟨by assumption, _, rfl⟩
  · rw [not_isMessage_loss h] at hj
    cases hj
  · cases h

theorem Attends.step {before : Bool} {s : Session} (h : m.Attends before s) (i : Input) :
    (m.step i).1.Attends (m.greeted before i) (s.run (m.told? i).toList) where
  availability := by
    rw [availability_step, ← h.availability]
    cases m.told? i <;> rfl
  opened _ hgreeted := by
    have hphase := phase_of_greeted hgreeted
    have hopened : before = true → s.opened = true := h.opened hphase
    unfold told?
    unfold greeted at hgreeted
    rw [hphase] at hgreeted ⊢
    cases i with
    | event e =>
      cases e with
      | connected => rfl
      | notification n =>
        rw [opened_message]
        exact hopened hgreeted
    | _ => exact hopened hgreeted

theorem Attends.orderly : ∀ {inputs : List Input} {m : Manager} {before : Bool} {s : Session},
    m.Attends before s → m.Greets before inputs → s.Orderly (m.tells inputs)
  | [], _, _, _, _, _ => trivial
  | i :: inputs, m, before, s, h, hgreets => by
    rw [tells, Session.orderly_append_iff]
    refine ⟨?_, (h.step i).orderly hgreets.2⟩
    cases htold : m.told? i with
    | none => trivial
    | some j =>
      refine ⟨fun hj => ?_, trivial⟩
      obtain ⟨hphase, n, hn⟩ := notified_of_isMessage htold hj
      exact h.opened hphase (hgreets.1 n hphase hn)

/-- **Messages come within sessions only.** If every connection begins with the news that it was
accepted, then what a manager tells its availability from its beginning on is in order, whatever
else it takes in. -/
theorem tells_in_order (backoff : Backoff) {inputs : List Input}
    (h : (begin backoff).1.Greets false inputs) :
    Session.start.Orderly ((begin backoff).1.tells inputs) := by
  have hbegin : (begin backoff).1.Attends false Session.start :=
    ⟨rfl, fun _ hbefore => Bool.noConfusion hbefore⟩
  exact hbegin.orderly h

end Manager

end Halyard.Push

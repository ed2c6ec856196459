/-
# What subscribers learn of the status

Statuses are published, subscribers join, and each of them takes now and then what
waits for it, all in any order. Two things must not disturb each other then: a status
that repeats the current one is held back by comparing it with the current one, and
what a slow subscriber can no longer be told is dropped from its own backlog.

The transitions of a run are the statuses without the repetitions
(`Publisher.cons_sent_eq_destutter`). A subscriber holds the newest of a backlog and the
number of the others, transition by transition (`Subscriber.receive_holding`), so that it
is told what an unbounded backlog would have told it, up to the ones that did not fit:
the transitions since it joined, from the first one on that it was neither handed nor
told to have lost (`Publisher.holding_run`).

Key definitions: `Subscriber.holding`, `Subscriber.HandsOver`, `Publisher.Operation`,
`Publisher.sent`, `Publisher.answers`, `Publisher.accounted`.
Key theorems: `Subscriber.receive_holding`, `Publisher.cons_sent_eq_destutter`,
`Publisher.holding_run`, `Publisher.subscribers_see_true_history`.
-/
import Halyard.Proofs.Push.Status
import Mathlib.Data.List.Destutter

namespace Halyard.Push

/-! ### A subscriber and its backlog -/

namespace Subscriber

variable {backlog : List PushStatus}

/-- The subscriber for whom the transitions of a backlog came in since it was last drained. -/
def holding (backlog : List PushStatus) : Subscriber where
  pending := backlog.drop (backlog.length - capacity)
  lost := backlog.length - capacity

/-- Whether an answer hands over a backlog: all of it if it fits, and otherwise the newest that
fit, after the number of those that do not. -/
structure HandsOver (backlog : List PushStatus) (answer : Nat × List PushStatus) : Prop where
  all : backlog.length ≤ capacity → answer = (0, backlog)
  newest : capacity < backlog.length →
    answer.2 <:+ backlog ∧ answer.2.length = capacity ∧ answer.1 + capacity = backlog.length

theorem holding_nil : holding [] = joined := rfl

/-- **A transition joins the backlog**, whether or not an older one has to give way. -/
theorem receive_holding (backlog : List PushStatus) (s : PushStatus) :
    (holding backlog).receive s = holding (backlog ++ [s]) := by
  have hpending : backlog.drop (backlog.length - capacity) ++ [s] =
      (backlog ++ [s]).drop (backlog.length - capacity) :=
    (List.drop_append_of_le_length (Nat.sub_le _ _)).symm
  have hskipped : backlog.length - capacity +
      (backlog.length + 1 - (backlog.length - capacity) - capacity) =
        backlog.length + 1 - capacity := by
    omega
  unfold receive holding
  simp only [hpending, List.length_drop, List.drop_drop, List.length_append,
    List.length_singleton, hskipped]

theorem handsOver_drain_holding (backlog : List PushStatus) :
    HandsOver backlog (holding backlog).drain.1 := by
  have hdrain : (holding backlog).drain.1 =
      (backlog.length - capacity, backlog.drop (backlog.length - capacity)) := rfl
  rw [hdrain]
  refine ⟨fun hfits => ?_, fun hlong => ⟨List.drop_suffix _ _, ?_, ?_⟩⟩
  · rw [Nat.sub_eq_zero_of_le hfits, List.drop_zero]
  · rw [List.length_drop]
    omega
  · exact Nat.sub_add_cancel (Nat.le_of_lt hlong)

theorem length_drain_holding (backlog : List PushStatus) :
    (holding backlog).drain.1.1 + (holding backlog).drain.1.2.length = backlog.length := by
  change backlog.length - capacity + (backlog.drop (backlog.length - capacity)).length = _
  rw [List.length_drop]
  omega

end Subscriber

/-! ### Any number of operations -/

namespace Publisher

open Subscriber

variable {p : Publisher} {i : Nat} {backlog : List PushStatus}

/-- What can be done with a publisher. -/
inductive Operation where
  | publish (status : PushStatus)
  /-- Someone joins. Subscribers are numbered in the order in which they join. -/
  | subscribe
  /-- A subscriber takes what waits for it. -/
  | drain (i : Nat)
deriving DecidableEq

/-- The status that an operation publishes. -/
def Operation.status? : Operation → Option PushStatus
  | .publish s => some s
  | _ => none

/-- The publisher after an operation. -/
def perform (p : Publisher) : Operation → Publisher
  | .publish s => p.publish s
  | .subscribe => p.subscribe
  | .drain i => { p with subscribers := p.subscribers.modify i fun s => s.drain.2 }

/-- The publisher after several operations. -/
def run (p : Publisher) (ops : List Operation) : Publisher :=
  ops.foldl perform p

/-- What a subscriber is handed if it drains now. -/
def handed? (p : Publisher) (i : Nat) : Option (Nat × List PushStatus) :=
  p.subscribers[i]?.map fun s => s.drain.1

/-- The statuses that some operations publish. -/
def statuses (ops : List Operation) : List PushStatus :=
  ops.filterMap Operation.status?

/-- The transition that an operation is. -/
def sent? (p : Publisher) (op : Operation) : Option PushStatus :=
  op.status?.filter p.changes

/-- The transitions that some operations are. -/
def sent (p : Publisher) : List Operation → List PushStatus
  | [] => []
  | op :: ops => (p.sent? op).toList ++ (p.perform op).sent ops

/-- What an operation hands a subscriber. -/
def answer? (p : Publisher) (i : Nat) (op : Operation) : Option (Nat × List PushStatus) :=
  if op = .drain i then p.handed? i else none

/-- What a subscriber is handed in the course of some operations. -/
def answers (p : Publisher) (i : Nat) : List Operation → List (Nat × List PushStatus)
  | [] => []
  | op :: ops => (p.answer? i op).toList ++ (p.perform op).answers i ops

/-- How many transitions a subscriber was handed, or told to have lost. -/
def accounted : List (Nat × List PushStatus) → Nat
  | [] => 0
  | answer :: answers => answer.1 + answer.2.length + accounted answers

theorem current_perform (p : Publisher) (op : Operation) :
    (p.perform op).current = op.status?.or p.current := by
  cases op with
  | publish s => exact current_publish p s
  | subscribe => rfl
  | drain i => rfl

/-- **The current status is the last one that was published**, whether or not it was a
transition. -/
theorem current_run (ops : List Operation) :
    ∀ p : Publisher, (p.run ops).current = (statuses ops).getLast?.or p.current := by
  induction ops with
  | nil => exact fun p => rfl
  | cons op ops ih =>
    intro p
    have hrun : (p.run (op :: ops)).current = _ := ih (p.perform op)
    rw [hrun, current_perform]
    cases op with
    | publish s =>
      have hstatuses : statuses (.publish s :: ops) = s :: statuses ops := rfl
      rw [hstatuses, List.getLast?_cons]
      cases (statuses ops).getLast? <;> rfl
    | subscribe => rfl
    | drain i => rfl

/-- **The transitions of a run are the published statuses without the repetitions.** Each is
compared with the one that was current then. -/
theorem cons_sent_eq_destutter (ops : List Operation) : ∀ p : Publisher,
    p.current :: (p.sent ops).map some =
      ((statuses ops).map some).destutter' (· ≠ ·) p.current := by
  induction ops with
  | nil => exact fun p => rfl
  | cons op ops ih =>
    intro p
    have hrest := ih (p.perform op)
    cases op with
    | publish s =>
      have hstatuses : (statuses (.publish s :: ops)).map some =
          some s :: (statuses ops).map some := rfl
      have hcurrent : (p.perform (.publish s)).current = some s := current_publish p s
      rw [hcurrent] at hrest
      rw [hstatuses, sent]
      by_cases hrepeats : p.current = some s
      · have hsent : p.sent? (.publish s) = none := by
          simp [sent?, Operation.status?, changes, hrepeats]
        rw [hsent, List.destutter'_cons_neg _ (by simpa using hrepeats), hrepeats]
        exact hrest
      · have hsent : p.sent? (.publish s) = some s := by
          simp [sent?, Operation.status?, changes, hrepeats]
        rw [hsent, List.destutter'_cons_pos _ hrepeats, ← hrest]
        rfl
    | subscribe => exact hrest
    | drain i => exact hrest

/-! ### What a subscriber is told -/

/-- What an operation does to a subscriber with a backlog: a transition joins the backlog, and
draining empties it. -/
theorem holding_perform (h : p.subscribers[i]? = some (holding backlog)) (op : Operation) :
    (p.perform op).subscribers[i]? =
      some (holding (if op = .drain i then [] else backlog ++ (p.sent? op).toList)) := by
  cases op with
  | publish s =>
    have hother : Operation.publish s ≠ .drain i := Operation.noConfusion
    rw [if_neg hother]
    by_cases hchanges : p.changes s = true
    · have hsent : p.sent? (.publish s) = some s := Option.filter_some_pos hchanges
      have hsubscribers : (p.perform (.publish s)).subscribers =
          p.subscribers.map fun x => x.receive s := by
        simp only [perform, publish, if_pos hchanges]
      rw [hsubscribers, List.getElem?_map, h, Option.map_some, receive_holding, hsent]
      rfl
    · have hsent : p.sent? (.publish s) = none :=
        Option.filter_some_neg (Bool.eq_false_iff.mpr hchanges)
      have hsubscribers : (p.perform (.publish s)).subscribers = p.subscribers := by
        simp only [perform, publish, if_neg hchanges]
      rw [hsubscribers, h, hsent]
      simp
  | subscribe =>
    have hother : Operation.subscribe ≠ .drain i := Operation.noConfusion
    have hlt : i < p.subscribers.length := (List.getElem?_eq_some_iff.mp h).1
    have hsubscribers : (p.perform .subscribe).subscribers = p.subscribers ++ [joined] := rfl
    have hsent : p.sent? .subscribe = none := rfl
    rw [if_neg hother, hsubscribers, List.getElem?_append_left hlt, h, hsent]
    simp
  | drain j =>
    have hsubscribers : (p.perform (.drain j)).subscribers =
        p.subscribers.modify j fun x => x.drain.2 := rfl
    have hsent : p.sent? (.drain j) = none := rfl
    rw [hsubscribers, hsent]
    by_cases hij : j = i
    · subst hij
      rw [List.getElem?_modify_eq, h, if_pos rfl]
      rfl
    · have hother : Operation.drain j ≠ .drain i := fun heq => hij (Operation.drain.inj heq)
      rw [List.getElem?_modify_ne _ _ hij, h, if_neg hother]
      simp

/-- What a subscriber is handed accounts for its backlog when it drains, and for nothing else. -/
theorem accounted_answer? (h : p.subscribers[i]? = some (holding backlog)) (op : Operation) :
    accounted (p.answer? i op).toList = if op = .drain i then backlog.length else 0 := by
  unfold answer?
  by_cases hdrains : op = .drain i
  · have hhanded : p.handed? i = some (holding backlog).drain.1 := by
      rw [handed?, h, Option.map_some]
    rw [if_pos hdrains, if_pos hdrains, hhanded]
    exact length_drain_holding backlog
  · rw [if_neg hdrains, if_neg hdrains]
    rfl

theorem accounted_append : ∀ as bs : List (Nat × List PushStatus),
    accounted (as ++ bs) = accounted as + accounted bs
  | [], bs => (Nat.zero_add _).symm
  | a :: as, bs => by
    have ih := accounted_append as bs
    rw [List.cons_append, accounted, accounted, ih]
    omega

/-- **A subscriber holds the transitions that it was neither handed nor told to have lost.** What
carries the induction is the backlog that it began with. -/
theorem holding_run (ops : List Operation) : ∀ {p : Publisher} {backlog : List PushStatus},
    p.subscribers[i]? = some (holding backlog) →
    accounted (p.answers i ops) ≤ (backlog ++ p.sent ops).length ∧
      (p.run ops).subscribers[i]? =
        some (holding ((backlog ++ p.sent ops).drop (accounted (p.answers i ops)))) := by
  induction ops with
  | nil =>
    intro p backlog h
    have hbacklog : (backlog ++ p.sent []).drop (accounted (p.answers i [])) = backlog :=
      List.append_nil backlog
    rw [hbacklog]
    exact ⟨Nat.zero_le _, h⟩
  | cons op ops ih =>
    intro p backlog h
    obtain ⟨hle, hrun⟩ := ih (holding_perform h op)
    have hanswers : accounted (p.answers i (op :: ops)) =
        (if op = .drain i then backlog.length else 0) +
          accounted ((p.perform op).answers i ops) := by
      rw [answers, accounted_append, accounted_answer? h]
    have hsent : backlog ++ p.sent (op :: ops) =
        (backlog ++ (p.sent? op).toList) ++ (p.perform op).sent ops := by
      rw [sent, List.append_assoc]
    rw [hanswers, hsent]
    by_cases hdrains : op = .drain i
    · have hnone : p.sent? op = none := by
        rw [hdrains]
        rfl
      rw [if_pos hdrains] at hle hrun ⊢
      rw [hnone, Option.toList_none, List.append_nil]
      rw [List.nil_append] at hle hrun
      refine ⟨?_, hrun.trans ?_⟩
      · rw [List.length_append]
        omega
      · rw [List.drop_append, List.drop_of_length_le (Nat.le_add_right _ _), List.nil_append,
          Nat.add_sub_cancel_left]
    · rw [if_neg hdrains] at hle hrun ⊢
      rw [Nat.zero_add]
      exact ⟨hle, hrun⟩

/-- **Subscribers see the true history.** Whoever joins after some operations and looks back after
some more: the transitions since then are the statuses published since then, without those that
repeat the one that was current; no two of them in a row are the same, nor is the first one the
status that was current then. If it drains now, it is handed the transitions that it was neither
handed nor told to have lost before: all of them if they are at most 64, and otherwise the newest 64
after the number of the others. The current status, which is also what those see who only watch it,
is the last one that was published. -/
theorem subscribers_see_true_history (before later : List Operation) :
    let joined := (start.run before).subscribe
    let i := (start.run before).subscribers.length
    let seen := joined.sent later
    let told := accounted (joined.answers i later)
    (joined.current :: seen.map some =
        ((statuses later).map some).destutter' (· ≠ ·) joined.current ∧
      (joined.current :: seen.map some).IsChain (· ≠ ·)) ∧
    (told ≤ seen.length ∧ ∃ answer,
      (joined.run later).handed? i = some answer ∧ HandsOver (seen.drop told) answer) ∧
    (joined.run later).current = (statuses (before ++ later)).getLast? := by
  intro joined i seen told
  have hseen := cons_sent_eq_destutter later joined
  have hjoined : joined.subscribers[i]? = some (holding []) := by
    rw [holding_nil]
    exact List.getElem?_concat_length
  obtain ⟨htold, hholding⟩ := holding_run later hjoined
  rw [List.nil_append] at htold hholding
  refine ⟨⟨hseen, ?_⟩, ⟨htold, _, ?_, handsOver_drain_holding (seen.drop told)⟩, ?_⟩
  · rw [hseen]
    exact List.isChain_destutter' _ _ _
  · rw [handed?, hholding, Option.map_some]
  · have hcurrent : joined.current = (statuses before).getLast? := by
      have hrun := current_run before start
      rw [show start.current = none from rfl, Option.or_none] at hrun
      exact hrun
    have hstatuses : statuses (before ++ later) = statuses before ++ statuses later :=
      List.filterMap_append
    rw [current_run, hcurrent, hstatuses, List.getLast?_append]

end Publisher

end Halyard.Push

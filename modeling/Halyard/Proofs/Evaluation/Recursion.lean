/-
# Evaluation keeps to its stack

Flags may depend on each other in circles. What keeps an evaluation from going
on for ever is its stack: a flag is evaluated only while it takes a place there
that is free, and gives it back however its evaluation ends. So there are never
more evaluations inside each other than there are places, whatever the flags
say and whatever the evaluator asks; and since every question leaves the stack
as it finds it, a question may be answered by what the flag evaluates to, without
looking at the stack that comes back (`Inquiry.resolve`).

This takes an evaluator that leaves the flags on the stack that it finds there,
also while it asks (`Evaluator.KeepsToStack`). It may add to them. To leave the
stack as it was in the end (`Evaluator.Restores`) is not enough: an evaluation
that ends leaves the stack as it was then, but it need not end. An evaluator that
takes the flag off for the time of a question may ask for it again and again
(`Evaluator.beneath`), although there are never too many flags on the stack
(`Evaluator.StaysSound`).

The number of free places is the measure: `evaluateWithin` needs one level more
than that. `evaluate_of_push` is the recursion without levels, which everything
else about evaluation can be read from.

Key definitions: `EvaluationStack.Sound`, `EvaluationStack.Extends`,
`Inquiry.Keeps`, `Inquiry.StaysSound`, `Inquiry.resolve`, `Inquiry.Asks`,
`Evaluator.Restores`, `Evaluator.StaysSound`, `Evaluator.KeepsToStack`, `View.Call`,
`View.Nests`, `View.NestsIn`.
Key theorems: `View.evaluateWithin_restores`, `View.evaluateWithin_of_room_lt`,
`View.evaluate_of_push`, `View.NestsIn.sound`, `View.evaluation_keeps_to_stack`,
`View.flag_beneath_itself_never_ends`.
-/
import Mathlib.Tactic.Choose
import Halyard.Matching

namespace Halyard

/-! ### The stack -/

namespace EvaluationStack

variable {s t u : EvaluationStack} {flag : String}

/-- Whether no flag is on the stack twice, and there are no more than there may be. -/
structure Sound (s : EvaluationStack) : Prop where
  nodup : s.flags.Nodup
  depth_le : s.depth ≤ s.maxDepth

theorem push_eq_ok_iff :
    s.push flag = .ok t ↔
      flag ∉ s.flags ∧ s.depth < s.maxDepth ∧ t = { s with flags := flag :: s.flags } := by
  unfold push depth
  by_cases hin : s.flags.contains flag = true
  · have hmem : flag ∈ s.flags := List.contains_iff_mem.mp hin
    simp [hmem]
  have hmem : flag ∉ s.flags := fun h => hin (List.contains_iff_mem.mpr h)
  by_cases hfull : s.maxDepth ≤ s.flags.length
  · simp [hmem, hfull, Nat.not_lt.mpr hfull]
  · have hlt : s.flags.length < s.maxDepth := Nat.not_le.mp hfull
    simp [hmem, hfull, hlt, eq_comm]

theorem pop_of_push (h : s.push flag = .ok t) : t.pop = s := by
  obtain ⟨-, -, rfl⟩ := push_eq_ok_iff.mp h
  rfl

theorem maxDepth_of_push (h : s.push flag = .ok t) : t.maxDepth = s.maxDepth := by
  obtain ⟨-, -, rfl⟩ := push_eq_ok_iff.mp h
  rfl

theorem depth_of_push (h : s.push flag = .ok t) : t.depth = s.depth + 1 := by
  obtain ⟨-, -, rfl⟩ := push_eq_ok_iff.mp h
  rfl

theorem room_of_push (h : s.push flag = .ok t) : t.room + 1 = s.room := by
  have hlt : s.depth < s.maxDepth := (push_eq_ok_iff.mp h).2.1
  have hmax := maxDepth_of_push h
  have hdepth := depth_of_push h
  unfold room
  omega

theorem Sound.push (hs : s.Sound) (h : s.push flag = .ok t) : t.Sound := by
  obtain ⟨hmem, hlt, rfl⟩ := push_eq_ok_iff.mp h
  exact ⟨List.nodup_cons.mpr ⟨hmem, hs.nodup⟩, hlt⟩

theorem Sound.pop (hs : s.Sound) : s.pop.Sound where
  nodup := hs.nodup.sublist (List.tail_sublist _)
  depth_le := Nat.le_trans (List.tail_sublist _).length_le hs.depth_le

/-- Whether a stack comes from another one by flags that take a place each. -/
inductive Extends (s : EvaluationStack) : EvaluationStack → Prop
  | refl : Extends s s
  | push {t u : EvaluationStack} {flag : String} :
      Extends s t → t.push flag = .ok u → Extends s u

namespace Extends

theorem sound (h : s.Extends t) (hs : s.Sound) : t.Sound := by
  induction h with
  | refl => exact hs
  | push _ hpush ih => exact ih.push hpush

theorem maxDepth_eq (h : s.Extends t) : t.maxDepth = s.maxDepth := by
  induction h with
  | refl => rfl
  | push _ hpush ih => exact (maxDepth_of_push hpush).trans ih

theorem depth_le (h : s.Extends t) : s.depth ≤ t.depth := by
  induction h with
  | refl => exact Nat.le_refl _
  | push _ hpush ih =>
    rw [depth_of_push hpush]
    exact Nat.le_succ_of_le ih

theorem room_le (h : s.Extends t) : t.room ≤ s.room := by
  have hmax := h.maxDepth_eq
  have hdepth := h.depth_le
  unfold room
  omega

end Extends

end EvaluationStack

/-! ### Inquiries -/

namespace Inquiry

variable {α β : Type} {given s t : EvaluationStack} {key flag : String}
variable {answer : Answers}

theorem run_bind (f : α → Inquiry β) : ∀ (q : Inquiry α) (s : EvaluationStack),
    (q.bind f).run answer s = (q.run answer s).bind fun x => (f x.1).run answer x.2
  | .done _, _ => rfl
  | .look next, s => run_bind f (next s) s
  | .put s next, _ => run_bind f next s
  | .ask key flag next, s => by
    rw [bind, run, run]
    cases answer key flag s with
    | none => rfl
    | some r => exact run_bind f (next r.1) r.2

/-- Whether questions leave the stack as they find it, if they are answered. -/
def Restoring (answer : Answers) : Prop :=
  ∀ key flag s r, answer key flag s = some r → r.2 = s

/-- Whether questions leave a sound stack when they find one, if they are answered. -/
def Sounding (answer : Answers) : Prop :=
  ∀ key flag s r, s.Sound → answer key flag s = some r → r.2.Sound

/-- Whether an inquiry does nothing with the stack but ask. -/
inductive Plain : Inquiry α → Prop
  | done (a : α) : Plain (.done a)
  | ask {key flag : String} {next : Except EvaluationError String → Inquiry α} :
      (∀ r, Plain (next r)) → Plain (.ask key flag next)

/-- Whether an inquiry that was given one stack and has another one by now asks its questions
with what it was given still there, and gives it back in the end. -/
inductive Keeps (given : EvaluationStack) : EvaluationStack → Inquiry α → Prop
  | done (a : α) : Keeps given given (.done a)
  | ask {s : EvaluationStack} {key flag : String}
      {next : Except EvaluationError String → Inquiry α} :
      given.Extends s → (∀ r, Keeps given s (next r)) → Keeps given s (.ask key flag next)
  | look {s : EvaluationStack} {next : EvaluationStack → Inquiry α} :
      Keeps given s (next s) → Keeps given s (.look next)
  | put {s t : EvaluationStack} {next : Inquiry α} :
      Keeps given t next → Keeps given s (.put t next)

theorem Plain.keeps {q : Inquiry α} (hq : q.Plain) (s : EvaluationStack) : q.Keeps s s := by
  induction hq with
  | done a => exact .done a
  | ask _ ih => exact .ask .refl ih

namespace Keeps

theorem bind {q : Inquiry α} {f : α → Inquiry β} (hq : Keeps given s q)
    (hf : ∀ a, Keeps given given (f a)) : Keeps given s (q.bind f) := by
  induction hq with
  | done a => exact hf a
  | ask hext _ ih => exact .ask hext ih
  | look _ ih => exact .look ih
  | put _ ih => exact .put ih

theorem run_snd (hanswer : Restoring answer) {q : Inquiry α} (hq : Keeps given s q)
    {x : α × EvaluationStack} (h : q.run answer s = some x) : x.2 = given := by
  induction hq with
  | done a =>
    cases h
    rfl
  | @ask s key flag next _ _ ih =>
    rw [run] at h
    cases hr : answer key flag s with
    | none =>
      rw [hr] at h
      cases h
    | some r =>
      obtain ⟨r, t⟩ := r
      have hsame : t = s := hanswer _ _ _ _ hr
      rw [hr, hsame] at h
      exact ih r h
  | look _ ih => exact ih h
  | put _ ih => exact ih h

end Keeps

/-- Whether an inquiry puts sound stacks only in the place of sound ones. Whoever makes stacks
by `EvaluationStack.ofMaxDepth`, `push` and `pop` does. -/
inductive StaysSound : Inquiry α → Prop
  | done (a : α) : StaysSound (.done a)
  | ask {key flag : String} {next : Except EvaluationError String → Inquiry α} :
      (∀ r, StaysSound (next r)) → StaysSound (.ask key flag next)
  | look {next : EvaluationStack → Inquiry α} :
      (∀ s : EvaluationStack, s.Sound → StaysSound (next s)) → StaysSound (.look next)
  | put {s : EvaluationStack} {next : Inquiry α} :
      s.Sound → StaysSound next → StaysSound (.put s next)

theorem Plain.staysSound {q : Inquiry α} (hq : q.Plain) : q.StaysSound := by
  induction hq with
  | done a => exact .done a
  | ask _ ih => exact .ask ih

namespace StaysSound

theorem push (flag : String) : (Inquiry.push flag).StaysSound := by
  refine .look fun s hs => ?_
  cases hpush : s.push flag with
  | error e => exact .done _
  | ok t => exact .put (hs.push hpush) (.done _)

theorem pop : Inquiry.pop.StaysSound :=
  .look fun _ hs => .put hs.pop (.done _)

theorem bind {q : Inquiry α} {f : α → Inquiry β} (hq : q.StaysSound)
    (hf : ∀ a, (f a).StaysSound) : (q.bind f).StaysSound := by
  induction hq with
  | done a => exact hf a
  | ask _ ih => exact .ask ih
  | look _ ih => exact .look ih
  | put hs _ ih => exact .put hs ih

theorem run_snd (hanswer : Sounding answer) {q : Inquiry α} (hq : q.StaysSound) :
    ∀ {s : EvaluationStack}, s.Sound → ∀ {x : α × EvaluationStack},
      q.run answer s = some x → x.2.Sound := by
  induction hq with
  | done a =>
    intro s hs x hx
    cases hx
    exact hs
  | @ask key flag next _ ih =>
    intro s hs x hx
    rw [run] at hx
    cases hr : answer key flag s with
    | none =>
      rw [hr] at hx
      cases hx
    | some r =>
      rw [hr] at hx
      exact ih r.1 (hanswer _ _ _ _ hs hr) hx
  | look _ ih => exact fun hs _ hx => ih _ hs hs hx
  | put hs _ ih => exact fun _ _ hx => ih hs hx

end StaysSound

/-- What an inquiry comes to and the stack that it leaves, if each question is answered and
leaves the stack as it finds it. -/
def resolve (answer : String → String → EvaluationStack → Except EvaluationError String) :
    Inquiry α → EvaluationStack → α × EvaluationStack
  | .done a, s => (a, s)
  | .ask key flag next, s => (next (answer key flag s)).resolve answer s
  | .look next, s => (next s).resolve answer s
  | .put s next, _ => next.resolve answer s

theorem resolve_bind (answer : String → String → EvaluationStack → Except EvaluationError String)
    (f : α → Inquiry β) : ∀ (q : Inquiry α) (s : EvaluationStack),
    (q.bind f).resolve answer s =
      (f (q.resolve answer s).1).resolve answer (q.resolve answer s).2
  | .done _, _ => rfl
  | .ask key flag next, s => resolve_bind answer f (next (answer key flag s)) s
  | .look next, s => resolve_bind answer f (next s) s
  | .put s next, _ => resolve_bind answer f next s

/-- It is enough that the questions with more flags on the stack are answered. -/
theorem Keeps.run_eq_resolve
    {treatment : String → String → EvaluationStack → Except EvaluationError String}
    (h : ∀ key flag t, given.Extends t → answer key flag t = some (treatment key flag t, t))
    {q : Inquiry α} (hq : Keeps given s q) :
    q.run answer s = some ((q.resolve treatment s).1, given) := by
  induction hq with
  | done a => rfl
  | @ask s key flag next hext _ ih =>
    simp only [run, h key flag s hext]
    exact ih _
  | look _ ih => exact ih
  | put _ ih => exact ih

/-- Whether an inquiry that begins with one stack comes to ask for a flag and a key with
another, if its questions are answered by `answer`. -/
inductive Asks (answer : Answers) :
    Inquiry α → EvaluationStack → String → String → EvaluationStack → Prop
  | here {key flag : String} {next : Except EvaluationError String → Inquiry α}
      {s : EvaluationStack} : Asks answer (.ask key flag next) s key flag s
  | later {key flag key' flag' : String} {next : Except EvaluationError String → Inquiry α}
      {s t : EvaluationStack} {r : Except EvaluationError String × EvaluationStack} :
      answer key flag s = some r → Asks answer (next r.1) r.2 key' flag' t →
      Asks answer (.ask key flag next) s key' flag' t
  | look {key flag : String} {next : EvaluationStack → Inquiry α} {s t : EvaluationStack} :
      Asks answer (next s) s key flag t → Asks answer (.look next) s key flag t
  | put {key flag : String} {next : Inquiry α} {s t u : EvaluationStack} :
      Asks answer next t key flag u → Asks answer (.put t next) s key flag u

theorem Asks.run_eq_none {q : Inquiry α} (h : q.Asks answer s key flag t)
    (hnone : answer key flag t = none) : q.run answer s = none := by
  induction h with
  | here => rw [run, hnone]
  | later hr _ ih =>
    rw [run, hr]
    exact ih hnone
  | look _ ih => exact ih hnone
  | put _ ih => exact ih hnone

/-- Who keeps what was given asks with that and more only. -/
theorem Keeps.extends_of_asks (hanswer : Restoring answer) {q : Inquiry α}
    (hq : Keeps given s q) (h : q.Asks answer s key flag t) : given.Extends t := by
  induction h with
  | here =>
    cases hq with
    | ask hext _ => exact hext
  | @later _ _ _ _ _ s _ r hr _ ih =>
    have hsame : r.2 = s := hanswer _ _ _ _ hr
    cases hq with
    | ask _ hnext =>
      rw [hsame] at ih
      exact ih (hnext r.1)
  | look _ ih =>
    cases hq with
    | look hnext => exact ih hnext
  | put _ ih =>
    cases hq with
    | put hnext => exact ih hnext

theorem StaysSound.sound_of_asks (hanswer : Sounding answer) {q : Inquiry α} (hq : q.StaysSound)
    (hs : s.Sound) (h : q.Asks answer s key flag t) : t.Sound := by
  induction h with
  | here => exact hs
  | @later _ _ _ _ _ _ _ r hr _ ih =>
    cases hq with
    | ask hnext => exact ih (hnext r.1) (hanswer _ _ _ _ hs hr)
  | look _ ih =>
    cases hq with
    | look hnext => exact ih (hnext _ hs) hs
  | put _ ih =>
    cases hq with
    | put ht hnext => exact ih hnext ht

end Inquiry

/-! ### Evaluators -/

namespace Evaluator

open Inquiry

variable {evaluator : Evaluator} {v : View} {f : Flag} {key name : String}
variable {s t : EvaluationStack}

/-- Whether an evaluator leaves the stack as it found it, if the evaluations that it asks for
do. What it finds is a stack on which a flag has just taken its place. -/
def Restores (evaluator : Evaluator) : Prop :=
  ∀ v f key answer, Restoring answer → ∀ (name : String) (s t : EvaluationStack),
    s.push name = .ok t → ∀ x, (evaluator v f key).run answer t = some x → x.2 = t

/-- Whether an evaluator puts sound stacks only in the place of sound ones. -/
def StaysSound (evaluator : Evaluator) : Prop :=
  ∀ v f key, (evaluator v f key).StaysSound

/-- Whether an evaluator asks with the flags that it found on the stack still there, and
perhaps more, and leaves the stack as it found it. -/
def KeepsToStack (evaluator : Evaluator) : Prop :=
  ∀ v f key (name : String) (s t : EvaluationStack), s.push name = .ok t →
    (evaluator v f key).Keeps t t

theorem KeepsToStack.restores (h : evaluator.KeepsToStack) : evaluator.Restores :=
  fun v f key _ hanswer name s t hpush _ hrun =>
    (h v f key name s t hpush).run_snd hanswer hrun

end Evaluator

namespace View

open Inquiry

variable {evaluator : Evaluator} {v : View} {key name : String} {stack s t : EvaluationStack}
variable {f : Flag}

/-- A prerequisite is asked for first. After that the other ones are tested, or it is settled
whether all hold; a failure other than a missing flag settles it. -/
theorem prerequisitesHold_cons (key : String) (p : Prerequisite) (ps : List Prerequisite) :
    ∃ next, prerequisitesHold key (p :: ps) = .ask key p.flag next ∧
      (∀ r, next r = prerequisitesHold key ps ∨ ∃ held, next r = .done held) ∧
      ∀ e, e.notFound = false → next (.error e) = .done (.error e) := by
  refine ⟨_, rfl, fun r => ?_, fun e he => ?_⟩
  · cases r with
    | ok treatment =>
      dsimp only
      split
      · exact .inl rfl
      · exact .inr ⟨_, rfl⟩
    | error e =>
      dsimp only
      split
      · split
        · exact .inl rfl
        · exact .inr ⟨_, rfl⟩
      · exact .inr ⟨_, rfl⟩
  · simp only [he, Bool.false_eq_true, if_false]

theorem plain_prerequisitesHold (key : String) :
    ∀ ps : List Prerequisite, (prerequisitesHold key ps).Plain
  | [] => .done _
  | p :: ps => by
    obtain ⟨next, hnext, hrest, -⟩ := prerequisitesHold_cons key p ps
    rw [hnext]
    refine .ask fun r => ?_
    rcases hrest r with hr | ⟨held, hr⟩
    · rw [hr]
      exact plain_prerequisitesHold key ps
    · rw [hr]
      exact .done _

theorem keeps_inquiry (h : evaluator.KeepsToStack) (hpush : s.push name = .ok t) :
    (v.inquiry evaluator key f).Keeps t t := by
  unfold inquiry
  split
  · exact .done _
  refine ((plain_prerequisitesHold key _).keeps t).bind fun r => ?_
  match r with
  | .error e => exact .done _
  | .ok false => exact .done _
  | .ok true => exact (h v f key name s t hpush).bind fun r => .done _

theorem staysSound_inquiry (h : evaluator.StaysSound) :
    (v.inquiry evaluator key f).StaysSound := by
  unfold inquiry
  split
  · exact .done _
  refine (plain_prerequisitesHold key _).staysSound.bind fun r => ?_
  match r with
  | .error e => exact .done _
  | .ok false => exact .done _
  | .ok true => exact (h v f key).bind fun r => .done _

theorem inquiry_restores (h : evaluator.Restores) (hpush : s.push name = .ok t)
    {answer : Answers} (hanswer : Restoring answer)
    {x : Except EvaluationError String × EvaluationStack}
    (hx : (v.inquiry evaluator key f).run answer t = some x) : x.2 = t := by
  unfold inquiry at hx
  split at hx
  · cases hx
    rfl
  rw [run_bind] at hx
  obtain ⟨⟨r, u⟩, hheld, hx⟩ := Option.bind_eq_some_iff.mp hx
  have hsame : u = t := ((plain_prerequisitesHold key _).keeps t).run_snd hanswer hheld
  subst hsame
  match r with
  | .error e =>
    cases hx
    rfl
  | .ok false =>
    cases hx
    rfl
  | .ok true =>
    dsimp only at hx
    rw [run_bind] at hx
    obtain ⟨y, hy, hx⟩ := Option.bind_eq_some_iff.mp hx
    have hleft : y.2 = u := h v f key _ hanswer name s u hpush y hy
    cases hx
    exact hleft

/-! ### Evaluation -/

/-- The stack that an evaluation leaves is the one that it found, or the one that the inquiry
leaves, without the place of its flag. -/
theorem snd_of_evaluateWithin {levels : Nat} {r : Except EvaluationError String × EvaluationStack}
    (h : v.evaluateWithin evaluator (levels + 1) key name stack = some r) :
    r.2 = stack ∨ ∃ s f x, stack.push name = .ok s ∧
      (v.inquiry evaluator key f).run (v.evaluateWithin evaluator levels) s = some x ∧
        r.2 = x.2.pop := by
  rw [evaluateWithin] at h
  cases hpush : stack.push name with
  | error e =>
    rw [hpush] at h
    cases h
    exact .inl rfl
  | ok s =>
    rw [hpush] at h
    dsimp only at h
    cases hflag : v.flag name with
    | error e =>
      rw [hflag] at h
      cases h
      exact .inl (EvaluationStack.pop_of_push hpush)
    | ok f =>
      rw [hflag] at h
      dsimp only at h
      cases hrun : (v.inquiry evaluator key f).run (v.evaluateWithin evaluator levels) s with
      | none =>
        rw [hrun] at h
        cases h
      | some x =>
        rw [hrun] at h
        cases h
        exact .inr ⟨s, f, x, rfl, hrun, rfl⟩

/-- **An evaluation that ends leaves the stack as it was**, however it ends, if the evaluator
does. -/
theorem evaluateWithin_restores (h : evaluator.Restores) (v : View) :
    ∀ levels, Restoring (v.evaluateWithin evaluator levels)
  | 0, _, _, _, _, hr => nomatch hr
  | levels + 1, key, name, stack, r, hr => by
    rcases snd_of_evaluateWithin hr with hsame | ⟨s, f, x, hpush, hrun, hx⟩
    · exact hsame
    · have hleft : x.2 = s := inquiry_restores h hpush (evaluateWithin_restores h v levels) hrun
      rw [hx, hleft]
      exact EvaluationStack.pop_of_push hpush

/-- **Evaluations leave sound stacks** where they find sound ones, if the evaluator does. -/
theorem evaluateWithin_sounding (h : evaluator.StaysSound) (v : View) :
    ∀ levels, Sounding (v.evaluateWithin evaluator levels)
  | 0, _, _, _, _, _, hr => nomatch hr
  | levels + 1, key, name, stack, r, hs, hr => by
    rcases snd_of_evaluateWithin hr with hsame | ⟨s, f, x, hpush, hrun, hx⟩
    · exact hsame ▸ hs
    · have hleft : x.2.Sound := (staysSound_inquiry h).run_snd
        (evaluateWithin_sounding h v levels) (hs.push hpush) hrun
      exact hx ▸ hleft.pop

/-- With more levels than there are places left, an evaluation ends, any further level is of
no use, and the stack is as it was. -/
theorem exists_evaluateWithin (h : evaluator.KeepsToStack) (v : View) :
    ∀ (levels : Nat) (key name : String) (stack : EvaluationStack), stack.room < levels →
      ∃ r, ∀ more, v.evaluateWithin evaluator (levels + more) key name stack = some (r, stack) := by
  intro levels
  induction levels with
  | zero => intro key name stack hroom; omega
  | succ levels ih =>
    intro key name stack hroom
    cases hpush : stack.push name with
    | error e =>
      refine ⟨.error e, fun more => ?_⟩
      rw [Nat.succ_add, evaluateWithin, hpush]
    | ok s =>
      have hpop : s.pop = stack := EvaluationStack.pop_of_push hpush
      have hless : s.room < levels := by
        have := EvaluationStack.room_of_push hpush
        omega
      -- what nested evaluations come to does not depend on the levels that are left for them
      have hnested : ∀ key flag t, ∃ r, t.room < levels → ∀ more,
          v.evaluateWithin evaluator (levels + more) key flag t = some (r, t) := by
        intro key flag t
        by_cases ht : t.room < levels
        · obtain ⟨r, hr⟩ := ih key flag t ht
          exact ⟨r, fun _ => hr⟩
        · exact ⟨.ok controlTreatment, fun ht' => absurd ht' ht⟩
      choose treatment htreatment using hnested
      cases hflag : v.flag name with
      | error e =>
        refine ⟨.error (.lookup e), fun more => ?_⟩
        rw [Nat.succ_add, evaluateWithin, hpush]
        simp only [hflag, hpop]
      | ok f =>
        refine ⟨((v.inquiry evaluator key f).resolve treatment s).1, fun more => ?_⟩
        have hkeeps : (v.inquiry evaluator key f).Keeps s s := keeps_inquiry h hpush
        have hrun := hkeeps.run_eq_resolve
          fun key flag t ht => htreatment key flag t (Nat.lt_of_le_of_lt ht.room_le hless) more
        rw [Nat.succ_add, evaluateWithin, hpush]
        simp only [hflag, hrun, hpop]

/-- **Evaluation ends:** more levels than there are places left are enough. -/
theorem evaluateWithin_of_room_lt (h : evaluator.KeepsToStack) {levels : Nat}
    (hroom : stack.room < levels) :
    v.evaluateWithin evaluator levels key name stack =
      some (v.evaluate evaluator key name stack) := by
  obtain ⟨r, hr⟩ :=
    exists_evaluateWithin h v (stack.room + 1) key name stack (Nat.lt_succ_self _)
  have hevaluate : v.evaluate evaluator key name stack = (r, stack) := by
    unfold evaluate
    rw [hr 0, Option.getD_some]
  obtain ⟨more, rfl⟩ := Nat.exists_eq_add_of_le (Nat.succ_le_of_lt hroom)
  rw [hevaluate, hr more]

theorem evaluate_snd (h : evaluator.KeepsToStack) (v : View) (key name : String)
    (stack : EvaluationStack) : (v.evaluate evaluator key name stack).2 = stack :=
  evaluateWithin_restores h.restores v (stack.room + 1) key name stack _
    (evaluateWithin_of_room_lt h (Nat.lt_succ_self _))

theorem evaluate_of_push_error {e : EvaluationError} (h : stack.push name = .error e) :
    v.evaluate evaluator key name stack = (.error e, stack) := by
  unfold evaluate
  rw [evaluateWithin, h]
  rfl

/-- A flag that has taken its place is looked up, and the questions of its inquiry are
answered by evaluating other flags with that place taken. -/
theorem evaluate_of_push (h : evaluator.KeepsToStack) (hpush : stack.push name = .ok s) :
    v.evaluate evaluator key name stack =
      (match v.flag name with
        | .error e => .error (.lookup e)
        | .ok f => ((v.inquiry evaluator key f).resolve (fun key flag t =>
            (v.evaluate evaluator key flag t).1) s).1, stack) := by
  have hpop : s.pop = stack := EvaluationStack.pop_of_push hpush
  have hroom : s.room < stack.room := by
    have := EvaluationStack.room_of_push hpush
    omega
  have hnested : ∀ key flag t, s.Extends t → v.evaluateWithin evaluator stack.room key flag t =
      some ((v.evaluate evaluator key flag t).1, t) := by
    intro key flag t ht
    rw [evaluateWithin_of_room_lt h (Nat.lt_of_le_of_lt ht.room_le hroom)]
    exact congrArg some (Prod.ext rfl (evaluate_snd h v key flag t))
  unfold evaluate
  rw [evaluateWithin, hpush]
  cases hflag : v.flag name with
  | error e => simp only [hpop, Option.getD_some]
  | ok f =>
    have hkeeps : (v.inquiry evaluator key f).Keeps s s := keeps_inquiry h hpush
    simp only [hkeeps.run_eq_resolve hnested, hpop, Option.getD_some]
    rfl

/-- An evaluation does not end within some levels if one that it asks for does not. -/
theorem evaluateWithin_eq_none {levels : Nat} {key' flag : String} (hpush : stack.push name = .ok s)
    (hflag : v.flag name = .ok f)
    (hasks : (v.inquiry evaluator key f).Asks (v.evaluateWithin evaluator levels) s key' flag t)
    (hnone : v.evaluateWithin evaluator levels key' flag t = none) :
    v.evaluateWithin evaluator (levels + 1) key name stack = none := by
  rw [evaluateWithin, hpush]
  simp only [hflag, hasks.run_eq_none hnone]

/-! ### Evaluations inside each other -/

/-- An evaluation of a flag for a key, and the stack it begins with. -/
structure Call where
  key : String
  flag : String
  stack : EvaluationStack

/-- Whether the one evaluation asks for the other: the inquiry of its flag does, with the
flag on the stack and all questions before it answered. -/
inductive Nests (evaluator : Evaluator) (v : View) (c : Call) : Call → Prop
  | ask {f : Flag} {s : EvaluationStack} {d : Call} {levels : Nat} :
      c.stack.push c.flag = .ok s → v.flag c.flag = .ok f →
      (v.inquiry evaluator c.key f).Asks (v.evaluateWithin evaluator levels) s
        d.key d.flag d.stack →
      Nests evaluator v c d

/-- Whether an evaluation comes up in another, this many evaluations inside it. -/
inductive NestsIn (evaluator : Evaluator) (v : View) (c : Call) : Nat → Call → Prop
  | self : NestsIn evaluator v c 0 c
  | deeper {levels : Nat} {d e : Call} :
      NestsIn evaluator v c levels d → Nests evaluator v d e →
      NestsIn evaluator v c (levels + 1) e

variable {c d : Call}

/-- A nested evaluation begins with a stack on which the flag around it has a place. -/
theorem Nests.extends_push (h : evaluator.KeepsToStack) (hnests : Nests evaluator v c d) :
    ∃ s, c.stack.push c.flag = .ok s ∧ s.Extends d.stack := by
  cases hnests with
  | @ask f s d levels hpush _ hasks =>
    have hrestores := evaluateWithin_restores h.restores v levels
    exact ⟨s, hpush, (keeps_inquiry h hpush).extends_of_asks hrestores hasks⟩

theorem NestsIn.staysSound (h : evaluator.StaysSound) (hc : c.stack.Sound) {levels : Nat}
    (hnests : NestsIn evaluator v c levels d) : d.stack.Sound := by
  induction hnests with
  | self => exact hc
  | deeper _ hnests ih =>
    cases hnests with
    | @ask f s _ levels hpush _ hasks =>
      exact (staysSound_inquiry h).sound_of_asks (evaluateWithin_sounding h v levels)
        (ih.push hpush) hasks

/-- Evaluations inside each other have sound stacks, each one deeper than the one around. -/
theorem NestsIn.sound (h : evaluator.KeepsToStack) (hc : c.stack.Sound) {levels : Nat}
    (hnests : NestsIn evaluator v c levels d) :
    d.stack.Sound ∧ d.stack.maxDepth = c.stack.maxDepth ∧
      c.stack.depth + levels ≤ d.stack.depth := by
  induction hnests with
  | self => exact ⟨hc, rfl, Nat.le_refl _⟩
  | @deeper levels d e _ hnests ih =>
    obtain ⟨hsound, hmax, hdepth⟩ := ih
    obtain ⟨s, hpush, hext⟩ := hnests.extends_push h
    refine ⟨hext.sound (hsound.push hpush), ?_, ?_⟩
    · rw [hext.maxDepth_eq, EvaluationStack.maxDepth_of_push hpush, hmax]
    · have hplace := EvaluationStack.depth_of_push hpush
      have hmore := hext.depth_le
      omega

/-- **Evaluation ends, leaves the stack as it was, and keeps to its places.** If the evaluator
leaves the stack as it found it, so does every evaluation that ends, with a treatment and with
an error. If the stack was sound and the evaluator makes no other ones, every evaluation inside
begins with a sound stack. If moreover what the evaluator found is there whenever it asks, one
level more than there are places left is enough, and there are no more evaluations inside each
other than there are places. -/
theorem evaluation_keeps_to_stack (evaluator : Evaluator) (v : View) (key name : String)
    (stack : EvaluationStack) :
    (evaluator.Restores → ∀ levels r,
      v.evaluateWithin evaluator levels key name stack = some r → r.2 = stack) ∧
    (evaluator.StaysSound → stack.Sound →
      ∀ levels d, NestsIn evaluator v ⟨key, name, stack⟩ levels d → d.stack.Sound) ∧
    (evaluator.KeepsToStack →
      (∀ levels, stack.room < levels →
        v.evaluateWithin evaluator levels key name stack =
          some (v.evaluate evaluator key name stack)) ∧
      (v.evaluate evaluator key name stack).2 = stack ∧
      (stack.Sound → ∀ levels d, NestsIn evaluator v ⟨key, name, stack⟩ levels d →
        d.stack.Sound ∧ d.stack.maxDepth = stack.maxDepth ∧
          stack.depth + levels ≤ d.stack.depth ∧ stack.depth + levels ≤ stack.maxDepth)) := by
  refine ⟨fun h levels => evaluateWithin_restores h v levels key name stack,
    fun h hstack levels d hd => hd.staysSound h hstack, fun h =>
    ⟨fun levels => evaluateWithin_of_room_lt h, evaluate_snd h v key name stack,
      fun hstack levels d hd => ?_⟩⟩
  obtain ⟨hsound, hmax, hdepth⟩ := hd.sound h hstack
  have hle : d.stack.depth ≤ d.stack.maxDepth := hsound.depth_le
  refine ⟨hsound, hmax, hdepth, ?_⟩
  rw [← hmax]
  exact Nat.le_trans hdepth hle

end View

/-! ### Asking again -/

/-- An evaluator that asks for the flag again with a place taken on top of it. -/
def Evaluator.above (mark : String) : Evaluator := fun _ f key =>
  (Inquiry.push mark).bind fun
    | .error e => .done (.error e)
    | .ok () => .ask key f.name fun r => Inquiry.pop.bind fun () => .done (r.map some)

/-- An evaluator that takes the flag off the stack, asks for it again, and puts it back. -/
def Evaluator.beneath : Evaluator := fun _ f key => .look fun found =>
  Inquiry.pop.bind fun () => .ask key f.name fun r =>
    (Inquiry.push (found.flags.headD f.name)).bind fun _ => .done (r.map some)

namespace Evaluator

open Inquiry

theorem above_keepsToStack (mark : String) : (Evaluator.above mark).KeepsToStack := by
  intro v f key name s t _
  refine .look ?_
  cases hpush : t.push mark with
  | error e =>
    simp only [hpush]
    exact .done _
  | ok u =>
    have hpop : u.pop = t := EvaluationStack.pop_of_push hpush
    simp only [hpush]
    refine .put (.ask (.push .refl hpush) fun r => .look (.put ?_))
    rw [hpop]
    exact .done _

theorem above_staysSound (mark : String) : (Evaluator.above mark).StaysSound := by
  intro v f key
  refine (StaysSound.push mark).bind fun r => ?_
  cases r with
  | error e => exact .done _
  | ok _ => exact .ask fun r => StaysSound.pop.bind fun _ => .done _

theorem beneath_staysSound : Evaluator.beneath.StaysSound := fun _ _ _ =>
  .look fun _ _ => StaysSound.pop.bind fun _ => .ask fun _ =>
    (StaysSound.push _).bind fun _ => .done _

theorem beneath_restores : Evaluator.beneath.Restores := by
  intro v f key answer hanswer name s t hpush x hx
  have hpop : t.pop = s := EvaluationStack.pop_of_push hpush
  have hfound : t.flags.headD f.name = name := by
    obtain ⟨-, -, rfl⟩ := EvaluationStack.push_eq_ok_iff.mp hpush
    rfl
  simp only [Evaluator.beneath, Inquiry.pop, Inquiry.push, Inquiry.bind, Inquiry.run, hpop,
    hfound] at hx
  cases hr : answer key f.name s with
  | none =>
    rw [hr] at hx
    cases hx
  | some r =>
    have hsame : r.2 = s := hanswer _ _ _ _ hr
    simp only [hr, hsame, hpush] at hx
    cases hx
    rfl

end Evaluator

/-- A flag that is "on" for every key if some other flags are. -/
def Flag.needing (name : String) (flags : List String) : Flag where
  name := name
  trafficType := none
  changeNumber := 1
  status := .active
  killed := false
  defaultTreatment := "on"
  trafficAllocation := none
  trafficAllocationSeed := none
  seed := none
  algo := none
  conditions := []
  configurations := none
  sets := none
  prerequisites := some (flags.map fun n => ⟨n, ["on"]⟩)
  impressionsDisabled := false

namespace View

/-- A view of some flags, with everything ready. -/
def ofFlags (fs : List Flag) : View :=
  ⟨{ Stores.empty with flags := fs.foldl RuleStore.insert .empty }, ⟨true, true⟩, false⟩

/-- A flag that needs no other one. -/
def single : View := ofFlags [.needing "a" []]

/-- The flag comes up again, on a stack on which it has its place. -/
theorem nestsIn_above : NestsIn (Evaluator.above "x") single ⟨"k", "a", .ofMaxDepth 10⟩ 1
    ⟨"k", "a", ⟨["x", "a"], 10⟩⟩ := by
  have hpush : (EvaluationStack.ofMaxDepth 10).push "a" = .ok ⟨["a"], 10⟩ := rfl
  have hflag : single.flag "a" = .ok (.needing "a" []) := rfl
  -- there is room for the mark, so it is on the stack when the flag is asked for
  have hasks : (single.inquiry (Evaluator.above "x") "k" (.needing "a" [])).Asks
      (single.evaluateWithin (Evaluator.above "x") 0) ⟨["a"], 10⟩ "k" "a" ⟨["x", "a"], 10⟩ :=
    .look (.put .here)
  exact .deeper .self (.ask hpush hflag hasks)

/-- A flag that is asked for with itself on the stack is not evaluated again. -/
theorem flag_above_itself_ends :
    (Evaluator.above "x").KeepsToStack ∧ (Evaluator.above "x").StaysSound ∧
    (EvaluationStack.ofMaxDepth 10).room < 11 ∧
    (EvaluationStack.ofMaxDepth 10).Sound ∧
    single.evaluateWithin (Evaluator.above "x") 11 "k" "a" (.ofMaxDepth 10) =
      some (.error (.cycle "a"), .ofMaxDepth 10) ∧
    (single.evaluate (Evaluator.above "x") "k" "a" (.ofMaxDepth 10)).2 = .ofMaxDepth 10 ∧
    (⟨["x", "a"], 10⟩ : EvaluationStack).Sound ∧
    (EvaluationStack.ofMaxDepth 10).depth + 1 ≤ 10 := by
  have hkeeps := Evaluator.above_keepsToStack "x"
  have hroom : (EvaluationStack.ofMaxDepth 10).room < 11 := by decide
  have hsound : (EvaluationStack.ofMaxDepth 10).Sound := ⟨List.nodup_nil, Nat.zero_le _⟩
  obtain ⟨hrestores, hsounds, hends⟩ :=
    evaluation_keeps_to_stack (Evaluator.above "x") single "k" "a" (.ofMaxDepth 10)
  obtain ⟨henough, -, hinside⟩ := hends hkeeps
  have hcircle : single.evaluate (Evaluator.above "x") "k" "a" (.ofMaxDepth 10) =
      (.error (.cycle "a"), .ofMaxDepth 10) := rfl
  have hrun := henough 11 hroom
  obtain ⟨-, -, -, hplaces⟩ := hinside hsound 1 _ nestsIn_above
  exact ⟨hkeeps, Evaluator.above_staysSound "x", hroom, hsound, hrun.trans (congrArg some hcircle),
    hrestores hkeeps.restores 11 _ hrun,
    hsounds (Evaluator.above_staysSound "x") hsound 1 _ nestsIn_above, hplaces⟩

/-- **A flag that is asked for without itself on the stack is evaluated again and again**: no
number of levels is enough, though the evaluator leaves the stack as it found it. -/
theorem flag_beneath_itself_never_ends :
    Evaluator.beneath.Restores ∧ Evaluator.beneath.StaysSound ∧
    (EvaluationStack.ofMaxDepth 10).Sound ∧
    (∀ levels, single.evaluateWithin Evaluator.beneath levels "k" "a" (.ofMaxDepth 10) = none) ∧
    ∀ levels, NestsIn Evaluator.beneath single ⟨"k", "a", .ofMaxDepth 10⟩ levels
      ⟨"k", "a", .ofMaxDepth 10⟩ := by
  have hpush : (EvaluationStack.ofMaxDepth 10).push "a" = .ok ⟨["a"], 10⟩ := rfl
  have hflag : single.flag "a" = .ok (.needing "a" []) := rfl
  -- the place is given up before the flag is asked for
  have hasks : ∀ levels, (single.inquiry Evaluator.beneath "k" (.needing "a" [])).Asks
      (single.evaluateWithin Evaluator.beneath levels) ⟨["a"], 10⟩ "k" "a" (.ofMaxDepth 10) :=
    fun levels => .look (.look (.put .here))
  have hsound : (EvaluationStack.ofMaxDepth 10).Sound := ⟨List.nodup_nil, Nat.zero_le _⟩
  refine ⟨Evaluator.beneath_restores, Evaluator.beneath_staysSound, hsound, fun levels => ?_,
    fun levels => ?_⟩
  · induction levels with
    | zero => rfl
    | succ levels ih => exact evaluateWithin_eq_none hpush hflag (hasks levels) ih
  · induction levels with
    | zero => exact .self
    | succ levels ih => exact .deeper ih (.ask hpush hflag (hasks 0))

/-- Each of two flags needs the other. -/
example : (ofFlags [.needing "a" ["b"], .needing "b" ["a"]]).evaluate Matching.evaluator "k" "a"
    (.ofMaxDepth 10) = (.error (.cycle "a"), .ofMaxDepth 10) := rfl

end View

end Halyard

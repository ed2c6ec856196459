/-
# The flags around an evaluation do not change what it comes to

An evaluation inside another finds other flags on the stack. They can cut it
short: a flag may turn out to be on the stack already, or to have no place left.
They cannot do anything else. Looking a flag up, testing prerequisites and
matching conditions never see the stack, and an evaluation that was cut short
cuts the one around it short as well: a prerequisite that is missing counts as
the control treatment, one that was cut short does not. So taking flags off the
stack or adding places may turn such a failure into a treatment, and leaves
every other result as it is.

Evaluators are trusted with two things (`Evaluator.Transparent`): that they do
not touch the stack, not even look at it, and that they pass such failures on. The
plain evaluator does both (`Matching.transparent_evaluator`). So it keeps to the
stack as well (`Inquiry.Plain.keeps`), and its evaluations end.

Key definitions: `EvaluationError.ofStack`, `CutShort`, `Inquiry.PassesOn`,
`Evaluator.Transparent`.
Key theorems: `Inquiry.resolve_of_agrees`, `View.passesOn_inquiry`,
`Matching.transparent_evaluator`, `View.context_only_cuts_short`.
-/
import Mathlib.Tactic.SplitIfs
import Halyard.Proofs.Evaluation.Recursion

namespace Halyard

variable {α β : Type}

/-- Whether it is the stack that an evaluation failed for. -/
def EvaluationError.ofStack : EvaluationError → Bool
  | .lookup _ => false
  | .cycle _ | .tooDeep _ => true

/-- Whether a flag turned out to be on the stack already, or to have no place there. -/
def CutShort (r : Except EvaluationError α) : Prop :=
  ∃ e, e.ofStack = true ∧ r = .error e

theorem EvaluationError.notFound_of_ofStack {e : EvaluationError} (h : e.ofStack = true) :
    e.notFound = false := by
  cases e with
  | lookup e => cases h
  | cycle flag => rfl
  | tooDeep n => rfl

namespace EvaluationStack

variable {s t u : EvaluationStack} {flag : String}

theorem ofStack_of_push_error {e : EvaluationError} (h : s.push flag = .error e) :
    e.ofStack = true := by
  unfold push at h
  split at h
  · cases h
    rfl
  · split at h
    · cases h
      rfl
    · cases h

/-- Whether the one stack has no other flags than the other, and no fewer places. -/
structure Spares (s t : EvaluationStack) : Prop where
  flags : s.flags.Sublist t.flags
  maxDepth : t.maxDepth ≤ s.maxDepth

theorem Spares.push (h : s.Spares t) (ht : t.push flag = .ok u) :
    ∃ w, s.push flag = .ok w ∧ w.Spares u := by
  obtain ⟨hmem, hlt, rfl⟩ := push_eq_ok_iff.mp ht
  have hnot : flag ∉ s.flags := fun hs => hmem (h.flags.subset hs)
  have hdepth : s.depth < s.maxDepth :=
    calc s.depth ≤ t.depth := h.flags.length_le
      _ < t.maxDepth := hlt
      _ ≤ s.maxDepth := h.maxDepth
  exact ⟨_, push_eq_ok_iff.mpr ⟨hnot, hdepth, rfl⟩, h.flags.cons_cons flag, h.maxDepth⟩

end EvaluationStack

/-! ### Failures that are passed on -/

namespace Inquiry

/-- Whether an inquiry does nothing with the stack but ask, and comes to the failure of a
question, if the question was cut short, whatever it asks after that. -/
inductive PassesOn : Inquiry (Except EvaluationError α) → Prop
  | done (r : Except EvaluationError α) : PassesOn (.done r)
  | ask {key flag : String}
      {next : Except EvaluationError String → Inquiry (Except EvaluationError α)} :
      (∀ e, e.ofStack = true → ∀ answer s, ((next (.error e)).resolve answer s).1 = .error e) →
      (∀ r, PassesOn (next r)) → PassesOn (.ask key flag next)

theorem PassesOn.plain {q : Inquiry (Except EvaluationError α)} (hq : q.PassesOn) :
    q.Plain := by
  induction hq with
  | done r => exact .done r
  | ask _ _ ih => exact .ask ih

/-- What follows an inquiry has to pass on the failures that the inquiry comes to. -/
theorem PassesOn.bind {q : Inquiry (Except EvaluationError α)}
    {f : Except EvaluationError α → Inquiry (Except EvaluationError β)} (hq : q.PassesOn)
    (herror : ∀ e, e.ofStack = true → ∀ answer s, ((f (.error e)).resolve answer s).1 = .error e)
    (hf : ∀ r, (f r).PassesOn) : (q.bind f).PassesOn := by
  induction hq with
  | done r => exact hf r
  | ask hcut _ ih =>
    refine .ask (fun e he answer s => ?_) ih
    rw [resolve_bind, hcut e he answer s]
    exact herror e he answer _

/-- **Answers may differ where questions were cut short.** If an inquiry passes that on and
was not cut short itself, it comes to the same. -/
theorem resolve_of_agrees
    {outer inner : String → String → EvaluationStack → Except EvaluationError String}
    {s t : EvaluationStack}
    (h : ∀ key flag, ¬ CutShort (outer key flag s) → inner key flag t = outer key flag s)
    {q : Inquiry (Except EvaluationError α)} (hq : q.PassesOn)
    (hcut : ¬ CutShort (q.resolve outer s).1) :
    (q.resolve inner t).1 = (q.resolve outer s).1 := by
  induction hq with
  | done r => rfl
  | @ask key flag next herror _ ih =>
    have hasked : ¬ CutShort (outer key flag s) := by
      rintro ⟨e, he, hanswer⟩
      refine hcut ⟨e, he, ?_⟩
      rw [resolve, hanswer]
      exact herror e he outer s
    rw [resolve, resolve, h key flag hasked]
    exact ih _ hcut

end Inquiry

/-- Whether an evaluator sees of the stack only that questions are cut short, and passes
that on. -/
structure Evaluator.Transparent (evaluator : Evaluator) : Prop where
  passesOn : ∀ v f key, (evaluator v f key).PassesOn

theorem Evaluator.Transparent.keepsToStack {evaluator : Evaluator}
    (h : evaluator.Transparent) : evaluator.KeepsToStack :=
  fun v f key _ _ t _ => (h.passesOn v f key).plain.keeps t

namespace View

variable {evaluator : Evaluator} {v : View} {key name : String}

/-- A prerequisite that is missing is tested all the same; one that was cut short is not. -/
theorem passesOn_prerequisitesHold (key : String) :
    ∀ ps : List Prerequisite, (prerequisitesHold key ps).PassesOn
  | [] => .done _
  | p :: ps => by
    obtain ⟨next, hnext, hrest, hfail⟩ := prerequisitesHold_cons key p ps
    rw [hnext]
    refine .ask (fun e he answer s => ?_) fun r => ?_
    · rw [hfail e (EvaluationError.notFound_of_ofStack he)]
      rfl
    · rcases hrest r with hr | ⟨held, hr⟩
      · rw [hr]
        exact passesOn_prerequisitesHold key ps
      · rw [hr]
        exact .done _

theorem passesOn_inquiry (h : Evaluator.Transparent evaluator) (v : View) (key : String)
    (f : Flag) : (v.inquiry evaluator key f).PassesOn := by
  unfold inquiry
  split
  · exact .done _
  refine (passesOn_prerequisitesHold key _).bind (fun e _ answer s => rfl) fun r => ?_
  match r with
  | .error e => exact .done _
  | .ok false => exact .done _
  | .ok true =>
    exact (h.passesOn v f key).bind (fun e _ answer s => rfl) fun r => .done _

/-- The induction is on the places that the stack with more flags has left: nested
evaluations begin with one fewer. -/
theorem evaluate_of_spares (h : Evaluator.Transparent evaluator) (v : View) :
    ∀ (room : Nat) (key name : String) (stack around : EvaluationStack), around.room = room →
      stack.Spares around → ¬ CutShort (v.evaluate evaluator key name around).1 →
      (v.evaluate evaluator key name stack).1 = (v.evaluate evaluator key name around).1 := by
  intro room
  induction room using Nat.strongRecOn with
  | _ room ih =>
    intro key name stack around hroom hspares hcut
    cases hpush : around.push name with
    | error e =>
      -- a flag without a place is cut short
      refine absurd ⟨e, EvaluationStack.ofStack_of_push_error hpush, ?_⟩ hcut
      rw [evaluate_of_push_error hpush]
    | ok u =>
      obtain ⟨w, hw, hwu⟩ := hspares.push hpush
      have hless : u.room < room := by
        have := EvaluationStack.room_of_push hpush
        omega
      rw [evaluate_of_push h.keepsToStack hpush] at hcut ⊢
      rw [evaluate_of_push h.keepsToStack hw]
      cases hflag : v.flag name with
      | error e => rfl
      | ok f =>
        simp only [hflag] at hcut ⊢
        exact Inquiry.resolve_of_agrees (fun key flag => ih u.room hless key flag w u rfl hwu)
          (passesOn_inquiry h v key f) hcut

end View

/-! ### The plain evaluator -/

namespace Matching

open Inquiry

variable {v : View} {key : String}

theorem passesOn_bind {x : Trial α} {f : α → Trial β} (hx : PassesOn x.run)
    (hf : ∀ a, PassesOn (f a).run) : PassesOn (x >>= f).run := by
  refine PassesOn.bind hx (fun e _ answer s => rfl) fun r => ?_
  cases r with
  | ok a => exact hf a
  | error e => exact .done _

theorem passesOn_all : ∀ ts : List (Trial Bool), (∀ t ∈ ts, PassesOn t.run) →
    PassesOn (all ts).run
  | [], _ => .done _
  | t :: ts, h =>
    passesOn_bind (h t List.mem_cons_self) fun _ =>
      passesOn_bind (passesOn_all ts fun u hu => h u (List.mem_cons_of_mem _ hu)) fun _ =>
        .done _

theorem passesOn_any : ∀ ts : List (Trial Bool), (∀ t ∈ ts, PassesOn t.run) →
    PassesOn (any ts).run
  | [], _ => .done _
  | t :: ts, h => by
    refine passesOn_bind (h t List.mem_cons_self) fun b => ?_
    cases b with
    | true => exact .done _
    | false => exact passesOn_any ts fun u hu => h u (List.mem_cons_of_mem _ hu)

theorem passesOn_excluded (s : RuleBasedSegment) : PassesOn (excluded v key s).run := by
  unfold excluded
  split
  · exact .done _
  · refine passesOn_any _ fun t ht => ?_
    obtain ⟨e, -, rfl⟩ := List.mem_map.mp ht
    exact .done _

theorem passesOn_matchesCondition {levels : Nat}
    (hhit : ∀ m, PassesOn (hit v key levels m).run) (c : Condition) :
    PassesOn (matchesCondition v key levels c).run := by
  rw [matchesCondition]
  refine passesOn_all _ fun t ht => ?_
  obtain ⟨m, -, rfl⟩ := List.mem_map.mp ht
  exact passesOn_bind (hhit m) fun _ => .done _

theorem passesOn_inRuleBasedSegment {levels : Nat}
    (hhit : ∀ m, PassesOn (hit v key levels m).run) (name : String) :
    PassesOn (inRuleBasedSegment v key levels name).run := by
  rw [inRuleBasedSegment]
  refine passesOn_bind (.done _) fun s => passesOn_bind (passesOn_excluded s) fun b => ?_
  cases b with
  | true => exact .done _
  | false =>
    refine passesOn_any _ fun t ht => ?_
    obtain ⟨c, -, rfl⟩ := List.mem_map.mp ht
    exact passesOn_matchesCondition hhit c

theorem passesOn_hit_of {levels : Nat}
    (hsegment : ∀ n, levels = n + 1 → ∀ name, PassesOn (inRuleBasedSegment v key n name).run)
    (m : Matcher) : PassesOn (hit v key levels m).run := by
  rw [hit.eq_def]
  split_ifs
  · exact .done _
  · exact .done _
  · exact .done _
  · cases levels with
    | zero => exact .done _
    | succ n => exact hsegment n rfl _
  · cases dependency? m with
    | none => exact .done _
    | some d =>
      exact passesOn_bind (.ask (fun e _ answer s => rfl) fun _ => .done _) fun _ => .done _
  · exact .done _

/-- The induction is on the rule-based segments that may still be followed. -/
theorem passesOn_hit : ∀ (levels : Nat) (m : Matcher), PassesOn (hit v key levels m).run := by
  intro levels
  induction levels with
  | zero => exact passesOn_hit_of fun n hn => absurd hn (Nat.succ_ne_zero n).symm
  | succ levels ih =>
    refine passesOn_hit_of fun n hn => ?_
    cases hn
    exact passesOn_inRuleBasedSegment ih

theorem passesOn_firstMatch (levels : Nat) : ∀ cs : List Condition,
    PassesOn (firstMatch v key levels cs).run
  | [] => .done _
  | c :: cs => by
    refine passesOn_bind (passesOn_matchesCondition (passesOn_hit levels) c) fun b => ?_
    cases b with
    | true => exact .done _
    | false => exact passesOn_firstMatch levels cs

theorem transparent_evaluator : Evaluator.Transparent evaluator where
  passesOn _ f _ := passesOn_firstMatch _ f.conditions

end Matching

namespace View

/-- **The flags around an evaluation only cut it short.** An evaluation that was not cut short
comes to the same with some flags taken off the stack and with more places. -/
theorem context_only_cuts_short {evaluator : Evaluator} (h : Evaluator.Transparent evaluator)
    (v : View) (key name : String) {stack around : EvaluationStack}
    (hflags : stack.flags.Sublist around.flags) (hplaces : around.maxDepth ≤ stack.maxDepth)
    (hcut : ¬ CutShort (v.evaluate evaluator key name around).1) :
    (v.evaluate evaluator key name stack).1 = (v.evaluate evaluator key name around).1 :=
  evaluate_of_spares h v around.room key name stack around rfl ⟨hflags, hplaces⟩ hcut

/-- A flag needs another one, both of which are stored. -/
def chained : View := ofFlags [.needing "a" ["b"], .needing "b" []]

/-- A flag that is evaluated for a third one is as if it were evaluated on its own. -/
theorem chained_alike :
    ["c", "d"].Sublist ["c", "x", "d"] ∧ (5 : Nat) ≤ 10 ∧
    ¬ CutShort (chained.evaluate Matching.evaluator "k" "a" ⟨["c", "x", "d"], 5⟩).1 ∧
    (chained.evaluate Matching.evaluator "k" "a" ⟨["c", "d"], 10⟩).1 =
      (chained.evaluate Matching.evaluator "k" "a" ⟨["c", "x", "d"], 5⟩).1 := by
  have hflags : ["c", "d"].Sublist ["c", "x", "d"] := by decide
  have hon : (chained.evaluate Matching.evaluator "k" "a" ⟨["c", "x", "d"], 5⟩).1 = .ok "on" := rfl
  have hcut : ¬ CutShort (chained.evaluate Matching.evaluator "k" "a" ⟨["c", "x", "d"], 5⟩).1 := by
    rintro ⟨e, -, he⟩
    rw [hon] at he
    cases he
  exact ⟨hflags, by decide, hcut,
    context_only_cuts_short Matching.transparent_evaluator chained "k" "a" hflags (by decide) hcut⟩

end View

end Halyard

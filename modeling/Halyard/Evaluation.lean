/-
# Evaluating flags

The read side of the stores. Matching a key against conditions is left to an
evaluator, which sees other flags only by asking for their treatments; here
flags, segments and prerequisites are looked up, and recursion between flags is
guarded by an explicit stack of the flags under evaluation.

The evaluator has that stack in its hands, and nothing keeps it from taking flags
off or from asking with another stack: evaluations need not end then, and
`View.evaluateWithin` says what they come to with so many of them inside each
other. If it leaves on the stack what it found there, each evaluation inside
another takes a place, so `View.evaluate` goes one level further than there are
places left.

Key definitions: `View`, `EvaluationStack`, `Inquiry`, `Evaluator`,
`View.evaluateWithin`, `View.evaluate`, `View.treatment`.
-/
import Halyard.Readiness
import Halyard.Store

namespace Halyard

/-- The treatment of a flag that cannot be evaluated. -/
def controlTreatment : String := "control"

/-- Why a look-up fails. -/
inductive LookupError where
  | notReady
  | destroyed
  | flagNotFound (name : String)
  | segmentNotFound (name : String)
deriving DecidableEq

namespace LookupError

/-- The wording of a look-up error. -/
def message : LookupError → String
  | .notReady => "the caches are not ready yet"
  | .destroyed => "the client was destroyed"
  | .flagNotFound name => "flag " ++ name ++ " not found"
  | .segmentNotFound name => "rule-based segment " ++ name ++ " not found"

/-- Whether something was looked up that is not there. -/
def notFound : LookupError → Bool
  | .flagNotFound _ | .segmentNotFound _ => true
  | _ => false

end LookupError

/-- Why an evaluation fails. -/
inductive EvaluationError where
  | lookup (e : LookupError)
  | cycle (flag : String)
  | tooDeep (maxDepth : Nat)
deriving DecidableEq

namespace EvaluationError

/-- The wording of an evaluation error. -/
def message : EvaluationError → String
  | .lookup e => e.message
  | .cycle flag => "flag " ++ flag ++ " depends on itself"
  | .tooDeep maxDepth => "dependency chain deeper than " ++ toString maxDepth

/-- Whether something was looked up that is not there. -/
def notFound : EvaluationError → Bool
  | .lookup e => e.notFound
  | _ => false

end EvaluationError

/-- The flags under evaluation, innermost first, and how many there may be. -/
structure EvaluationStack where
  flags : List String
  maxDepth : Nat
deriving DecidableEq

namespace EvaluationStack

/-- How many flags may be under evaluation unless something else is said. -/
def defaultMaxDepth : Nat := 10

/-- The stack without flags. -/
def ofMaxDepth (maxDepth : Nat) : EvaluationStack := ⟨[], maxDepth⟩

/-- Begins the evaluation of a flag. -/
def push (s : EvaluationStack) (flag : String) : Except EvaluationError EvaluationStack :=
  if s.flags.contains flag then .error (.cycle flag)
  else if s.maxDepth ≤ s.flags.length then .error (.tooDeep s.maxDepth)
  else .ok { s with flags := flag :: s.flags }

/-- Ends the innermost evaluation. -/
def pop (s : EvaluationStack) : EvaluationStack :=
  { s with flags := s.flags.tail }

/-- How many flags are under evaluation. -/
def depth (s : EvaluationStack) : Nat :=
  s.flags.length

/-- How many more flags there may be. -/
def room (s : EvaluationStack) : Nat :=
  s.maxDepth - s.depth

end EvaluationStack

/-- A computation that may ask for the treatments of flags for keys on its way to a
result, and has the stack in its hands. Questions are asked with the stack as it is then. -/
inductive Inquiry (α : Type) where
  | done (a : α)
  | ask (key flag : String) (next : Except EvaluationError String → Inquiry α)
  /-- Looks at the stack. -/
  | look (next : EvaluationStack → Inquiry α)
  /-- Puts another stack in its place. -/
  | put (stack : EvaluationStack) (next : Inquiry α)

namespace Inquiry

variable {α β : Type}

/-- Continues with the result. -/
def bind : Inquiry α → (α → Inquiry β) → Inquiry β
  | .done a, f => f a
  | .ask key flag next, f => .ask key flag fun answer => (next answer).bind f
  | .look next, f => .look fun stack => (next stack).bind f
  | .put stack next, f => .put stack (next.bind f)

instance : Monad Inquiry where
  pure := .done
  bind := bind

/-- Puts a flag on the stack. -/
def push (flag : String) : Inquiry (Except EvaluationError Unit) :=
  .look fun stack =>
    match stack.push flag with
    | .ok stack => .put stack (.done (.ok ()))
    | .error e => .done (.error e)

/-- Takes the innermost flag off the stack. -/
def pop : Inquiry Unit :=
  .look fun stack => .put stack.pop (.done ())

/-- What a question for a key and a flag comes to with some stack: an answer and the stack
that it leaves, or nothing. -/
abbrev Answers := String → String → EvaluationStack →
  Option (Except EvaluationError String × EvaluationStack)

/-- Answers every question, which may change the stack. -/
def run (answer : Answers) : Inquiry α → EvaluationStack → Option (α × EvaluationStack)
  | .done a, s => some (a, s)
  | .ask key flag next, s =>
    match answer key flag s with
    | none => none
    | some (r, s) => (next r).run answer s
  | .look next, s => (next s).run answer s
  | .put s next, _ => next.run answer s

end Inquiry

/-- Consistent reads over the stores of a client. -/
structure View where
  stores : Stores
  readiness : Readiness
  destroyed : Bool

/-- How the conditions of a flag are matched against a key: the treatment of the first
condition that matches. Other flags are to be asked for with the stack of the ongoing
evaluation, to which an evaluator has access all the same. -/
abbrev Evaluator :=
  View → Flag → String → Inquiry (Except EvaluationError (Option String))

namespace View

/-- Refuses look-ups before their resource is ready and after the end. -/
def check (v : View) (r : Resource) : Except LookupError Unit :=
  if v.destroyed then .error .destroyed
  else if v.readiness.ready r then .ok ()
  else .error .notReady

/-- The flag of the given name. -/
def flag (v : View) (name : String) : Except LookupError Flag := do
  v.check .flags
  let some f := v.stores.flags.get? name | throw (.flagNotFound name)
  return f

/-- The rule-based segment of the given name. -/
def ruleBasedSegment (v : View) (name : String) : Except LookupError RuleBasedSegment := do
  v.check .flags
  let some s := v.stores.ruleSegments.get? name | throw (.segmentNotFound name)
  return s

/-- Whether `key` belongs to a segment. A segment that was never fetched has no members. -/
def inSegment (v : View) (segment key : String) : Except LookupError Bool := do
  v.check .segments
  return (v.stores.segments.contains? segment key).getD false

/-- Evaluates the prerequisites of a flag in order, up to the first one that fails.
Answers whether all of them hold. -/
def prerequisitesHold (key : String) :
    List Prerequisite → Inquiry (Except EvaluationError Bool)
  | [] => .done (.ok true)
  | p :: ps => .ask key p.flag fun
    | .ok treatment =>
      if p.treatments.contains treatment then prerequisitesHold key ps else .done (.ok false)
    | .error e =>
      if e.notFound then
        if p.treatments.contains controlTreatment then prerequisitesHold key ps
        else .done (.ok false)
      else .done (.error e)

/-- What finding the treatment of a flag needs to know of other flags. -/
def inquiry (evaluator : Evaluator) (v : View) (key : String) (f : Flag) :
    Inquiry (Except EvaluationError String) :=
  if f.killed then .done (.ok f.defaultTreatment)
  else (prerequisitesHold key (f.prerequisites.getD [])).bind fun
    | .error e => .done (.error e)
    | .ok false => .done (.ok f.defaultTreatment)
    | .ok true => (evaluator v f key).bind fun r =>
      .done (r.map fun treatment => treatment.getD f.defaultTreatment)

/-- Evaluates a flag with at most `levels` evaluations inside each other; `none` if
that is not enough. -/
def evaluateWithin (evaluator : Evaluator) (v : View) : Nat → Inquiry.Answers
  | 0, _, _, _ => none
  | levels + 1, key, name, stack =>
    match stack.push name with
    | .error e => some (.error e, stack)
    | .ok stack =>
      match v.flag name with
      | .error e => some (.error (.lookup e), stack.pop)
      | .ok f =>
        match (v.inquiry evaluator key f).run (v.evaluateWithin evaluator levels) stack with
        | none => none
        | some (r, stack) => some (r, stack.pop)

/-- Evaluates a flag within an ongoing evaluation. There is a level for every place that is
left, which is all that an evaluator needs that leaves on the stack what it found there. -/
def evaluate (evaluator : Evaluator) (v : View) (key name : String) (stack : EvaluationStack) :
    Except EvaluationError String × EvaluationStack :=
  (v.evaluateWithin evaluator (stack.room + 1) key name stack).getD
    (.error (.tooDeep stack.maxDepth), stack)

/-- The treatment of a flag for a key, or the control treatment if it cannot be
evaluated. -/
def treatment (evaluator : Evaluator) (v : View) (key name : String) : String :=
  match (v.evaluate evaluator key name (.ofMaxDepth EvaluationStack.defaultMaxDepth)).1 with
  | .ok treatment => treatment
  | .error _ => controlTreatment

end View

end Halyard

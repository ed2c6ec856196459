/-
# How work goes on

One step of a fetch or a pursuit: making the next request, taking in an answer
that has arrived, or waking up after a delay. Work that waits for something has
no step.

Key definitions: `World.stepRules`, `World.stepSegment`, `World.stepWork`.
-/
import Halyard.Virtual.World

namespace Halyard.Virtual

namespace World

variable {ρ β : Type}

/-- How the surroundings react to an interjection. -/
abbrev Interject (ρ β : Type) := ρ → World ρ β → World ρ β × β

/-- Lets interjections happen. -/
def interjectAll (f : Interject ρ β) (w : World ρ β) (is : List ρ) : World ρ β :=
  is.foldl (fun w i =>
    let (w, b) := f i w
    { w with interjected := w.interjected ++ [b] }) w

/-- Asks for rules. -/
def requestRules (w : World ρ β) (options : FetchOptions) :
    World ρ β × Pending ρ RuleChanges :=
  let since := w.replica.stores.flags.watermark
  let ruleSince := w.replica.stores.ruleSegments.watermark
  let entry : RuleRequest := ⟨w.now, since, ruleSince, options⟩
  let w := { w with ruleLog := w.ruleLog ++ [entry] }
  match w.ruleReplies with
  | [] => (w, ⟨w.now, [], .ok (nothingNew since ruleSince)⟩)
  | r :: rest =>
    ({ w with ruleReplies := rest }, ⟨w.now + r.delay, r.during, r.answer since ruleSince⟩)

/-- Asks for a segment. -/
def requestSegment (w : World ρ β) (name : String) (options : FetchOptions) :
    World ρ β × Pending ρ SegmentChanges :=
  let since := w.replica.stores.segments.watermark name
  let entry : SegmentRequest := ⟨w.now, name, since, options⟩
  let w := { w with segmentLog := w.segmentLog ++ [entry] }
  match (w.segmentReplies.get? name).getD [] with
  | [] => (w, ⟨w.now, [], .ok (nothingNewIn name since)⟩)
  | r :: rest =>
    ({ w with segmentReplies := w.segmentReplies.insert name rest },
      ⟨w.now + r.delay, r.during, r.answer since⟩)

/-- A fetch of rules, which takes a place in the queue for the rule stores. -/
def startRules (w : World ρ β) (options : FetchOptions) : World ρ β × RuleCall ρ :=
  let (ticket, w) := w.takeTicket
  ({ w with ruleQueue := w.ruleQueue ++ [ticket] }, ⟨ticket, options, .start, none⟩)

/-- A fetch of a segment. -/
def startSegment (name : String) (options : FetchOptions) : SegmentCall ρ :=
  ⟨name, options, .start, none⟩

/-- Records how a fetch ended. -/
def recordFetch {α : Type} (w : World ρ β) (resource : String) (r : Except SyncError α) :
    World ρ β :=
  match r with
  | .ok _ => w.count .fetchDuration (some ("resource", resource))
  | .error _ => w.count .fetchErrors (some ("resource", resource))

/-- One step of a fetch of rules. -/
def stepRules (f : Interject ρ β) (w : World ρ β) (c : RuleCall ρ) :
    Option (World ρ β × (RuleCall ρ ⊕ Except SyncError Names)) :=
  match c.pending with
  | none =>
    if w.ruleQueue.head? = some c.ticket then
      let (w, p) := w.requestRules c.options
      some (w, .inl { c with pending := some p })
    else none
  | some p =>
    if w.now < p.due then none
    else
      let w := w.interjectAll f p.during
      match c.fetch.receive w.filter w.replica.stores p.answer with
      | (s, .again fetch) => some (w.setStores s, .inl { c with fetch := fetch, pending := none })
      | (s, .over r) =>
        some (((w.setStores s).release (some c.ticket)).recordFetch "flags" r, .inr r)

/-- One step of a fetch of a segment. -/
def stepSegment (f : Interject ρ β) (w : World ρ β) (c : SegmentCall ρ) :
    Option (World ρ β × (SegmentCall ρ ⊕ Except SyncError Unit)) :=
  match c.pending with
  | none =>
    let (w, p) := w.requestSegment c.name c.options
    some (w, .inl { c with pending := some p })
  | some p =>
    if w.now < p.due then none
    else
      let w := w.interjectAll f p.during
      let (s, keys, reception) := c.fetch.receive c.name w.replica.stores.segments p.answer
      let w := w.setStores { w.replica.stores with segments := s }
      let w := (keys.map fun n => { w with telemetry := w.telemetry.recordKeys n }).getD w
      match reception with
      | .again fetch => some (w, .inl { c with fetch := fetch, pending := none })
      | .over r => some (w.recordFetch "segments" r, .inr r)

/-- The pursuit of rules after a move. -/
def moveRules (w : World ρ β) (p : RulePursuit ρ) : Pursuit.Move → World ρ β × Work ρ
  | .stop (.ok ()) => (w, .settled (.ok p.referenced))
  | .stop (.error e) => (w, .settled (.error e))
  | .wait ms pursuit =>
    (w, .pursueRules { p with pursuit := pursuit, call := none, wake := w.now + ms })
  | .fetch pursuit =>
    (w, .pursueRules { p with pursuit := pursuit, call := none, wake := w.now })

/-- The pursuit of a segment after a move. -/
def moveSegment (w : World ρ β) (p : SegmentPursuit ρ) : Pursuit.Move → Work ρ
  | .stop r => .settled (r.map fun _ => Names.empty)
  | .wait ms pursuit =>
    .pursueSegment { p with pursuit := pursuit, call := none, wake := w.now + ms }
  | .fetch pursuit => .pursueSegment { p with pursuit := pursuit, call := none, wake := w.now }

/-- Begins to pursue a target. -/
def pursueRules (w : World ρ β) (t : FetchTarget) : World ρ β × Work ρ :=
  w.moveRules ⟨t, Names.empty, .atPhase w.onDemand false, none, w.now⟩
    (Pursuit.start w.onDemand (t.reached w.replica.stores))

/-- Begins to pursue a change number of a segment. -/
def pursueSegment (w : World ρ β) (name : String) (target : ChangeNumber) : Work ρ :=
  w.moveSegment ⟨name, target, .atPhase w.onDemand false, none, w.now⟩
    (Pursuit.start w.onDemand (target ≤ w.replica.stores.segments.watermark name))

/-- One step of a pursuit of rules. -/
def stepRulePursuit (f : Interject ρ β) (w : World ρ β) (p : RulePursuit ρ) :
    Option (World ρ β × Work ρ) :=
  match p.call with
  | none =>
    if w.now < p.wake then none
    else
      let (w, c) := w.startRules (p.pursuit.options p.target.till)
      some (w, .pursueRules { p with call := some c })
  | some c =>
    match w.stepRules f c with
    | none => none
    | some (w, .inl c) => some (w, .pursueRules { p with call := some c })
    | some (w, .inr r) =>
      let p :=
        match r with
        | .ok names => { p with referenced := p.referenced.union names }
        | .error _ => p
      some (w.moveRules p (p.pursuit.next w.onDemand (r.map fun _ => ())
        (p.target.reached w.replica.stores)))

/-- One step of a pursuit of a segment. -/
def stepSegmentPursuit (f : Interject ρ β) (w : World ρ β) (p : SegmentPursuit ρ) :
    Option (World ρ β × Work ρ) :=
  match p.call with
  | none =>
    if w.now < p.wake then none
    else
      some (w, .pursueSegment
        { p with call := some (startSegment p.name (p.pursuit.options (some p.target))) })
  | some c =>
    match w.stepSegment f c with
    | none => none
    | some (w, .inl c) => some (w, .pursueSegment { p with call := some c })
    | some (w, .inr r) =>
      some (w, w.moveSegment p (p.pursuit.next w.onDemand r
        (p.target ≤ w.replica.stores.segments.watermark p.name)))

/-- One step of work, which may be its last. -/
def stepWork (f : Interject ρ β) (w : World ρ β) :
    Work ρ → Option (World ρ β × (Work ρ ⊕ Except SyncError Names))
  | .settled r => some (w, .inr r)
  | .rules c =>
    (w.stepRules f c).map fun
      | (w, .inl c) => (w, .inl (.rules c))
      | (w, .inr r) => (w, .inr r)
  | .segment c =>
    (w.stepSegment f c).map fun
      | (w, .inl c) => (w, .inl (.segment c))
      | (w, .inr r) => (w, .inr (r.map fun _ => Names.empty))
  | .pursueRules p => (w.stepRulePursuit f p).map fun (w, work) => (w, .inl work)
  | .pursueSegment p => (w.stepSegmentPursuit f p).map fun (w, work) => (w, .inl work)

end World

end Halyard.Virtual

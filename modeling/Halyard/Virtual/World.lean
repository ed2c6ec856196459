/-
# The world of an engine on a virtual clock

Everything that an engine and its scripted surroundings consist of at one
moment: the replica, the fetches under way and those that wait for a worker,
the polling tasks, push, the scripts of the endpoints, and the logs. Parts that
an engine runs without are absent.

`ρ` is the type of interjections, which are things that happen while an answer
is on its way, and `β` the type of what they yield.

Key definitions: `World`, `World.enqueue`, `World.dispatch`, `World.publish`.
-/
import Halyard.Poll.Cadence
import Halyard.Poll.Periodic
import Halyard.Push.Dispatch
import Halyard.Push.Manager
import Halyard.Push.Publisher
import Halyard.Virtual.Work

namespace Halyard.Virtual

open Push

/-- A segment that waits for a worker. Who waits for the outcome holds the ticket. -/
structure SegmentJob where
  name : String
  till : Option ChangeNumber
  ticket : Option Nat

/-- A worker of the segment pool. -/
inductive Worker (ρ : Type) where
  | idle
  | busy (job : SegmentJob) (work : Work ρ)
  | gone

/-- The worker for fetches of rules that push asks for. -/
inductive RuleWorker (ρ : Type) where
  | absent
  | idle
  | busy (work : Work ρ)
  | gone

/-- A session that the push endpoint will play: events with the time before each, and
how it ends. A session without an end stays open. -/
structure Session where
  events : List (Nat × StreamEvent)
  endAfter : Nat
  outcome : Option ConnectionOutcome

/-- A session that is being played: what is left of it, when it goes on, and whether its
next event was read already and waits for room. -/
structure Playback where
  events : List (Nat × StreamEvent)
  endAfter : Nat
  outcome : Option ConnectionOutcome
  wake : Nat
  wasRead : Bool

/-- A session that begins to be played. -/
def Playback.ofSession (now : Nat) (s : Session) : Playback where
  events := s.events
  endAfter := s.endAfter
  outcome := s.outcome
  wake := now + (s.events.head?.map (·.1)).getD s.endAfter
  wasRead := false

/-- The token that is granted when the script has no answer left. -/
def defaultToken : Token := ⟨true, "default", [], none, none, none⟩

/-- The channel between a connection and the manager. -/
structure Link where
  connection : Option Playback
  queued : List StreamEvent
  told : Bool
  ended : Option ConnectionOutcome

/-- Push on the virtual clock: the manager and what it waits for. -/
structure PushSide (ρ : Type) where
  manager : Manager
  timer : Option Nat
  refreshAt : Option Nat
  answer : Option (Pending ρ Token)
  link : Option Link
  buffer : Nat
  stoppedAt : Option Nat

/-- A polling task of flags with the fetch under way. -/
structure FlagsTask (ρ : Type) where
  task : Periodic
  body : Option (Work ρ)

/-- A polling task of segments with the sweep under way: whether flags were ready when
it began, and the tickets it waits for. -/
structure SegmentsTask where
  task : Periodic
  body : Option (Bool × List Nat)

/-- Polling: both tasks, their cadence, and the status that the cadence follows. -/
structure Polling (ρ : Type) where
  flags : FlagsTask ρ
  segments : SegmentsTask
  cadence : Cadence
  /-- How many transitions were seen, if push is followed at all. -/
  followed : Option Nat

/-- Everything at one moment. -/
structure World (ρ β : Type) where
  now : Nat
  replica : Replica
  filter : Names
  onDemand : OnDemandSettings
  telemetry : Telemetry
  publisher : Publisher
  /-- How many transitions were published. -/
  transitionCount : Nat
  transitions : List (Nat × PushStatus)
  ruleReplies : List (RuleReply ρ)
  segmentReplies : Dict (List (SegmentReply ρ))
  authReplies : List (Reply ρ (Except FetchError Token))
  sessions : List Session
  ruleLog : List RuleRequest
  segmentLog : List SegmentRequest
  authLog : List Nat
  connectLog : List (Nat × String)
  interjected : List β
  nextTicket : Nat
  /-- Who has or waits for the rule stores, first come first. -/
  ruleQueue : List Nat
  shutdown : Bool
  workers : List (Worker ρ)
  /-- Whether the workers were told to drop what they do. -/
  aborted : Bool
  jobs : List SegmentJob
  outcomes : List (Nat × Except SyncError Unit)
  ruleWorker : RuleWorker ρ
  targets : List FetchTarget
  front : Option (Work ρ)
  frontResult : Option (Except SyncError Names)
  polling : Option (Polling ρ)
  push : Option (PushSide ρ)

namespace World

variable {ρ β : Type}

/-- The world at the beginning, without any task. -/
def initial (filter : Names) (onDemand : OnDemandSettings) : World ρ β where
  now := 0
  replica := .initial
  filter := filter
  onDemand := onDemand
  telemetry := .empty
  publisher := .start
  transitionCount := 0
  transitions := []
  ruleReplies := []
  segmentReplies := Dict.empty
  authReplies := []
  sessions := []
  ruleLog := []
  segmentLog := []
  authLog := []
  connectLog := []
  interjected := []
  nextTicket := 0
  ruleQueue := []
  shutdown := false
  workers := []
  aborted := false
  jobs := []
  outcomes := []
  ruleWorker := .absent
  targets := []
  front := none
  frontResult := none
  polling := none
  push := none

/-- The world with idle workers. -/
def withWorkers (w : World ρ β) (size : Nat) : World ρ β :=
  { w with workers := List.replicate (max size 1) .idle, aborted := false }

/-- Counts an occurrence. -/
def count (w : World ρ β) (m : Metric) (label : Option (String × String)) : World ρ β :=
  { w with telemetry := w.telemetry.count m label }

/-- Replaces the stores. -/
def setStores (w : World ρ β) (s : Stores) : World ρ β :=
  { w with replica := { w.replica with stores := s } }

/-- A number that was not given out before. -/
def takeTicket (w : World ρ β) : Nat × World ρ β :=
  (w.nextTicket, { w with nextTicket := w.nextTicket + 1 })

/-- Whether a fetch of rules is under way. -/
def rulesBusy (w : World ρ β) : Bool :=
  !w.ruleQueue.isEmpty

/-- Whether the segment pool takes jobs: not all of its workers are gone. -/
def poolOpen (w : World ρ β) : Bool :=
  w.workers.any fun
    | .gone => false
    | _ => true

/-- Whether the rule worker takes targets. -/
def ruleWorkerOpen (w : World ρ β) : Bool :=
  match w.ruleWorker with
  | .idle | .busy _ => true
  | _ => false

/-- Hands a job to the segment pool and tells whether it was taken. -/
def enqueueSegment (w : World ρ β) (job : SegmentJob) : World ρ β × Bool :=
  if w.poolOpen then ({ w with jobs := w.jobs ++ [job] }, true) else (w, false)

/-- Hands a target to the rule worker and tells whether it was taken. -/
def enqueueRules (w : World ρ β) (t : FetchTarget) : World ρ β × Bool :=
  if w.ruleWorkerOpen then ({ w with targets := w.targets ++ [t] }, true) else (w, false)

/-- Changes the push side, if there is one. -/
def onPush (w : World ρ β) (f : PushSide ρ → PushSide ρ) : World ρ β :=
  { w with push := w.push.map f }

/-- Hands jobs to those who do them. -/
def enqueue (w : World ρ β) (jobs : List FetchJob) : World ρ β :=
  jobs.foldl (fun w job =>
    match job with
    | .rules t => (w.enqueueRules t).1
    | .segment name till => (w.enqueueSegment ⟨name, till, none⟩).1) w

/-- Hands a segment to the pool and gives the ticket for its outcome. -/
def enqueueAwaited (w : World ρ β) (name : String) : World ρ β × Nat :=
  let (ticket, w) := w.takeTicket
  ((w.enqueueSegment ⟨name, none, some ticket⟩).1, ticket)

/-- Registers segments; those that are new are fetched. -/
def track (w : World ρ β) (names : Names) : World ρ β :=
  let (r, jobs) := w.replica.track names
  { w with replica := r }.enqueue jobs

/-- Counts a definition that an arriving notification announced and that could not be read. -/
def countLost (w : World ρ β) (n : Notification) : World ρ β :=
  if n.lostDefinition then w.count .malformedPayloads none else w

/-- Takes in a notification. -/
def dispatch (w : World ρ β) (n : Notification) : World ρ β :=
  let (r, jobs) := w.replica.dispatch w.filter w.rulesBusy n
  { w with replica := r }.enqueue jobs

/-- Publishes a push status. -/
def publish (w : World ρ β) (s : PushStatus) : World ρ β :=
  if w.publisher.changes s then
    { w with
      publisher := w.publisher.publish s
      transitionCount := w.transitionCount + 1
      transitions := w.transitions ++ [(w.now, s)] }.count .pushStatus (some ("status", s.name))
  else w

/-- What a ticket stands for: an outcome, nothing any more, or nothing yet. -/
inductive TicketState where
  | outcome (r : Except SyncError Unit)
  | discarded
  | open_

/-- Looks at a ticket. -/
def ticketState (w : World ρ β) (ticket : Nat) : TicketState :=
  match w.outcomes.find? fun o => o.1 = ticket with
  | some (_, r) => .outcome r
  | none => if w.poolOpen then .open_ else .discarded

/-- Whether a ticket has an outcome, or never will. -/
def ticketSettled (w : World ρ β) (ticket : Nat) : Bool :=
  match w.ticketState ticket with
  | .open_ => false
  | _ => true

/-- The outcome of a sweep whose tickets are settled: the first failure, if any. -/
def sweepResult (w : World ρ β) (tickets : List Nat) : Except SyncError Unit :=
  tickets.foldl (fun r ticket =>
    match r, w.ticketState ticket with
    | .error e, _ => .error e
    | .ok (), .outcome (.error e) => .error e
    | .ok (), .outcome (.ok ()) => .ok ()
    | .ok (), _ => .error .cancelled) (.ok ())

/-- Hands every registered segment to the pool. -/
def enqueueSweep (w : World ρ β) : World ρ β × List Nat :=
  w.replica.registry.names.foldl (fun (w, tickets) name =>
    let (w, ticket) := w.enqueueAwaited name
    (w, tickets ++ [ticket])) (w, [])

/-- Gives up a place in the queue for the rule stores. -/
def release (w : World ρ β) (ticket : Option Nat) : World ρ β :=
  match ticket with
  | some t => { w with ruleQueue := w.ruleQueue.filter (· ≠ t) }
  | none => w

/-- Adds replies for the rules. -/
def addRuleReplies (w : World ρ β) (rs : List (RuleReply ρ)) : World ρ β :=
  { w with ruleReplies := w.ruleReplies ++ rs }

/-- Adds replies for a segment. -/
def addSegmentReplies (w : World ρ β) (name : String) (rs : List (SegmentReply ρ)) :
    World ρ β :=
  { w with segmentReplies :=
      w.segmentReplies.insert name ((w.segmentReplies.get? name).getD [] ++ rs) }

/-- Empties the logs, whose content was told. -/
def clearLogs (w : World ρ β) : World ρ β :=
  { w with
    transitions := []
    ruleLog := []
    segmentLog := []
    authLog := []
    connectLog := []
    interjected := [] }

end World

end Halyard.Virtual

/-
# A connection to the push endpoint

One connection from its request to its end. It hands over that it was accepted
and then the notifications of the stream, which its receiver takes one by one
from a queue of limited length. Events that mean nothing are dropped; an error
that the stream reports is the last thing handed over. A connection that waits
for room in the queue looks at nothing else.

Key definitions: `rejection`, `deliveries`, `Connection`, `Connection.step`.
-/
import Halyard.Config
import Halyard.Http.Api
import Halyard.Push.Manager

namespace Halyard.Push

open Text Json Http

/-- The version of the stream that this library understands. -/
def protocolVersion : String := "1.1"

/-- Where the stream for a token is. -/
def streamUrl? (base : Url) (t : Token) : Option Url :=
  (Url.parse? (baseOf base ++ "/sse")).map fun u => u.withQuery
    [("channels", String.intercalate "," t.channels), ("accessToken", t.jwt),
      ("v", protocolVersion)]

/-- The request for a stream. -/
def streamRequest (url : Url) : Request where
  url := url
  authorization := none
  cacheControl := some "no-cache"
  sdkVersion := none
  accept := "text/event-stream"

/-- The request of a connection, or how the connection ends if there is no such URL. -/
def streamRequestFor (base : Url) (t : Token) : Except ConnectionOutcome Request :=
  match streamUrl? base t with
  | some url => .ok (streamRequest url)
  | none => .error (.nonRetryable "invalid streaming URL: not a URL")

/-- How a connection ends after an error. -/
def StreamError.outcome (e : StreamError) (reason : String) : ConnectionOutcome :=
  if e.retryable then .retryable reason else .nonRetryable reason

/-- Reads the body of a refusal, which may tell an error. -/
def rejectionError? (body : String) : Option StreamError := do
  let [e] ← (← Value.parseString? body).record? [["error"]] | none
  e.required? StreamError.ofJson?

/-- How a connection ends that was refused with a status. The error in the body decides
if there is one. -/
def rejection (status : Nat) (body : String) : ConnectionOutcome :=
  match rejectionError? body with
  | some e => e.outcome (e.message ++ " (code " ++ toString e.code ++ ", status " ++
      Status.text status ++ ")")
  | none =>
    let reason := "push endpoint returned " ++ Status.text status
    if Status.isRetriable status then .retryable reason else .nonRetryable reason

/-- How a connection ends after a notification, if it does. -/
def Notification.ending? : Notification → Option ConnectionOutcome
  | .error e => some (e.outcome (e.message ++ " (code " ++ toString e.code ++ ")"))
  | _ => none

/-- What is handed over of some events, how many of them mean nothing, and how the
connection ends if one of them is its last. -/
def deliveries : List Event → List Notification × Nat × Option ConnectionOutcome
  | [] => ([], 0, none)
  | e :: es =>
    match Notification.ofEvent? e with
    | none =>
      let (ns, dropped, ending) := deliveries es
      (ns, dropped + 1, ending)
    | some n =>
      match n.ending? with
      | some o => ([n], 0, some o)
      | none =>
        let (ns, dropped, ending) := deliveries es
        (n :: ns, dropped, ending)

/-- What a connection is doing. -/
inductive Connection.Phase where
  /-- It waits for a response. -/
  | opening
  /-- It waits for data. -/
  | reading
  /-- It waits for room for what it has to hand over. After that it ends, or reads on. -/
  | handing (first : StreamEvent) (rest : List StreamEvent) (ending : Option ConnectionOutcome)
  | ended (outcome : ConnectionOutcome)

/-- A connection: the stream that it reads and what it is doing. -/
structure Connection where
  stream : EventStream
  phase : Connection.Phase

/-- What a connection meets. -/
inductive Connection.Input where
  /-- A response with its status, and with its body unless that is the stream. -/
  | response (status : Nat) (body : String)
  | chunk (bytes : List UInt8)
  /-- The server closed the stream. -/
  | closed
  /-- The transport failed for a reason of its own. -/
  | failed (reason : String)
  /-- Nothing arrived for as long as the stream may be silent. -/
  | silence
  /-- It is told to stop. -/
  | stop
  /-- There is room for the next thing to be handed over. -/
  | room
  /-- The receiver went away. -/
  | abandoned

namespace Connection

/-- A connection whose request was made. -/
def start : Connection := ⟨.start, .opening⟩

/-- Why a connection ends that was silent for too long. -/
def silenceReason (keepaliveSecs : Nat) : Phase → String
  | .opening => "timed out waiting for the push endpoint"
  | _ => "no data received for " ++ toString keepaliveSecs ++ "s"

/-- The phase of a connection that has to hand over events. -/
def Phase.handingOver : List StreamEvent → Option ConnectionOutcome → Phase
  | e :: es, ending => .handing e es ending
  | [], some o => .ended o
  | [], none => .reading

/-- Ends a connection. -/
def finish (c : Connection) (o : ConnectionOutcome) : Connection :=
  { c with phase := .ended o }

/-- Takes in a response. -/
def respond (c : Connection) (status : Nat) (body : String) : Connection :=
  if Status.isSuccess status then { c with phase := .handing .connected [] none }
  else c.finish (rejection status body)

/-- Takes in data. -/
def receive (c : Connection) (bytes : List UInt8) : Connection :=
  let (stream, events) := c.stream.feed bytes
  let (ns, _, ending) := deliveries events
  ⟨stream, .handingOver (ns.map .notification) ending⟩

/-- Takes in an input, with what it hands over. An input that it does not wait for has
no effect. -/
def step (keepaliveSecs : Nat) (c : Connection) (i : Input) : Connection × Option StreamEvent :=
  match c.phase, i with
  | .opening, .response status body => (c.respond status body, none)
  | .reading, .chunk bytes => (c.receive bytes, none)
  | .reading, .closed => (c.finish (.retryable "stream closed by the server"), none)
  | .opening, .failed reason | .reading, .failed reason => (c.finish (.retryable reason), none)
  | .opening, .silence | .reading, .silence =>
    (c.finish (.retryable (silenceReason keepaliveSecs c.phase)), none)
  | .opening, .stop | .reading, .stop => (c.finish .cancelled, none)
  | .handing e rest ending, .room => ({ c with phase := .handingOver rest ending }, some e)
  | .handing _ _ _, .abandoned => (c.finish .cancelled, none)
  | _, _ => (c, none)

/-- Takes in inputs, with what it hands over. -/
def run (keepaliveSecs : Nat) (c : Connection) : List Input → Connection × List StreamEvent
  | [] => (c, [])
  | i :: is =>
    let (c, e) := c.step keepaliveSecs i
    let (c, es) := c.run keepaliveSecs is
    (c, e.toList ++ es)

/-- How a connection ended, if it did. -/
def outcome? (c : Connection) : Option ConnectionOutcome :=
  match c.phase with
  | .ended o => some o
  | _ => none

end Connection

end Halyard.Push

/-
# The push manager

The life of push: authenticate, wait if the token says so, connect, hand on
what arrives, and begin again with a new token before the old one expires or
after a connection is lost. The manager is a machine: each input, among them
the answers to what it asked for, leads to a new state and to effects in order.

Key definitions: `Manager`, `Manager.Input`, `Manager.Effect`, `Manager.begin`,
`Manager.step`.
-/
import Halyard.Backoff
import Halyard.Fetch.Error
import Halyard.Push.Availability
import Halyard.Telemetry

namespace Halyard.Push

/-- What a connection hands over. -/
inductive StreamEvent where
  /-- The connection was accepted. -/
  | connected
  | notification (n : Notification)

/-- How a connection ended. -/
inductive ConnectionOutcome where
  | retryable (reason : String)
  | nonRetryable (reason : String)
  /-- It was told to stop. -/
  | cancelled
deriving DecidableEq

/-- Why a session ends. -/
inductive SessionEnd where
  | shutdown
  | tokenRefresh
  | disabled
  /-- The connection ended by itself. -/
  | closed
deriving DecidableEq

/-- What the manager waits for. -/
inductive Manager.Phase where
  | authenticating
  /-- The wait that a token asks for. -/
  | delaying (token : Token)
  | streaming
  /-- The connection was told to stop. -/
  | closing (e : SessionEnd)
  /-- The delay after a failure. -/
  | backingOff
  | stopped
deriving DecidableEq

/-- What happens to the manager. -/
inductive Manager.Input where
  | answered (r : Except FetchError Token)
  /-- The delay it asked for is over. -/
  | elapsed
  | event (e : StreamEvent)
  /-- The token is about to expire. -/
  | refreshDue
  /-- No more events will come. -/
  | drained
  /-- The connection ended, after it was told to stop or by itself. -/
  | ended (outcome : ConnectionOutcome)
  | shutdown

/-- What the manager does. -/
inductive Manager.Effect where
  | authenticate
  /-- Asks for `elapsed` after some milliseconds. -/
  | sleep (ms : Nat)
  /-- Opens a connection, and asks for `refreshDue` if the token expires. -/
  | connect (token : Token)
  /-- Tells the connection to stop. -/
  | disconnect
  | publish (status : PushStatus)
  | dispatch (n : Notification)
  | count (m : Metric) (label : Option (String × String))

/-- The push manager. -/
structure Manager where
  availability : Availability
  backoff : Backoff
  phase : Manager.Phase
  /-- Whether the shutdown came while its connection was about to end. -/
  leaving : Bool

namespace Manager

/-- The manager after inputs to its availability, with the transitions to publish. -/
def publishing (m : Manager) (r : Availability × List PushStatus) : Manager × List Effect :=
  ({ m with availability := r.1 }, r.2.map .publish)

/-- Begins the next round, unless the shutdown came or push is off. -/
def again (m : Manager) : Manager × List Effect :=
  if m.leaving || m.availability.isOff then ({ m with phase := .stopped }, [])
  else ({ m with phase := .authenticating }, [.authenticate])

/-- The manager and what it does first. -/
def begin (backoff : Backoff) : Manager × List Effect :=
  again ⟨.initial, backoff, .authenticating, false⟩

/-- Stops for good after a failure. -/
def giveUp (m : Manager) : Manager × List Effect :=
  let (m, effects) := m.publishing (m.availability.failed false)
  ({ m with phase := .stopped }, effects)

/-- Waits before it tries again after a failure. -/
def retryLater (m : Manager) : Manager × List Effect :=
  let (m, effects) := m.publishing (m.availability.failed true)
  let (delay, backoff) := m.backoff.next
  ({ m with backoff := backoff, phase := .backingOff }, effects ++ [.sleep delay])

/-- Opens a connection. -/
def connect (m : Manager) (t : Token) : Manager × List Effect :=
  ({ m with phase := .streaming }, [.connect t])

/-- Takes the answer of the auth endpoint. -/
def answered (m : Manager) (r : Except FetchError Token) : Manager × List Effect :=
  match r.mapError FetchError.toSync with
  | .ok t =>
    if !t.pushEnabled then m.giveUp
    else
      match t.connectDelay with
      | some (secs + 1) => ({ m with phase := .delaying t }, [.sleep ((secs + 1) * 1000)])
      | _ => m.connect t
  | .error (.authRejected _) =>
    let (m, effects) := m.giveUp
    (m, .count .authRejections none :: effects)
  | .error _ => m.retryLater

/-- Handles a notification: what concerns the stream itself changes the availability,
the rest is dispatched. -/
def notified (m : Manager) (n : Notification) : Manager × List Effect :=
  let (m, effects) :=
    match n with
    | .control _ c => m.publishing (m.availability.control c)
    | .occupancy channel publishers timestamp =>
      m.publishing (m.availability.occupancy channel publishers timestamp)
    | .error _ => (m, [])
    | n => (m, [.dispatch n])
  let effects := .count .notifications (some ("type", n.kind)) :: effects
  if m.availability.isOff then ({ m with phase := .closing .disabled }, effects ++ [.disconnect])
  else (m, effects)

/-- Ends the session for a reason. -/
def close (m : Manager) (e : SessionEnd) : Manager × List Effect :=
  ({ m with phase := .closing e }, [.disconnect])

/-- What follows a session that ended for reason `e` with a connection that ended in
`outcome`. -/
def closed (m : Manager) (e : SessionEnd) (outcome : ConnectionOutcome) :
    Manager × List Effect :=
  match e, outcome with
  | .tokenRefresh, _ =>
    let (m, effects) := m.again
    (m, .count .tokenRefreshes none :: effects)
  | .closed, .retryable _ => m.retryLater
  | .closed, .nonRetryable _ => m.giveUp
  | _, _ => ({ m with phase := .stopped }, [])

/-- Takes in an input. One that the manager does not wait for has no effect. -/
def step (m : Manager) (i : Input) : Manager × List Effect :=
  match m.phase, i with
  | .authenticating, .answered r => m.answered r
  | .authenticating, .shutdown => ({ m with phase := .stopped }, [])
  | .delaying t, .elapsed => m.connect t
  | .delaying _, .shutdown => ({ m with phase := .stopped }, [])
  | .backingOff, .elapsed => m.again
  | .backingOff, .shutdown => ({ m with phase := .stopped }, [])
  | .streaming, .event .connected =>
    { m with backoff := m.backoff.reset }.publishing m.availability.connected
  | .streaming, .event (.notification n) => m.notified n
  | .streaming, .refreshDue => m.close .tokenRefresh
  | .streaming, .drained => m.close .closed
  | .streaming, .shutdown => m.close .shutdown
  | .closing _, .shutdown => ({ m with leaving := true }, [])
  | .closing e, .ended outcome => m.closed e outcome
  | _, _ => (m, [])

end Manager

end Halyard.Push

/-
# Availability of push

Whether the push stream can be relied on. Messages about publishers and
control messages arrive while a connection is open; `Availability` turns them
into status transitions and answers each input with those it caused. Push that
is off stays off.

Key definitions: `PushStatus`, `Availability`, `Availability.connected`,
`Availability.occupancy`, `Availability.control`, `Availability.failed`.
-/
import Halyard.Push.Notification

namespace Halyard.Push

/-- The status of push. -/
inductive PushStatus where
  /-- Connected, with publishers. -/
  | ready
  /-- Connected, but without publishers or paused by the backend. -/
  | paused
  /-- Publishers came back; always followed by `ready`. -/
  | resumed
  /-- A failure after which a new connection will be tried. -/
  | backoff
  /-- No push any more. -/
  | off
deriving DecidableEq

namespace PushStatus

/-- The name of a status. -/
def name : PushStatus → String
  | .ready => "STREAMING_READY"
  | .paused => "STREAMING_PAUSED"
  | .resumed => "STREAMING_RESUMED"
  | .backoff => "STREAMING_BACKOFF"
  | .off => "STREAMING_OFF"

/-- All statuses. -/
def all : List PushStatus := [.ready, .paused, .resumed, .backoff, .off]

/-- The status with the given name. -/
def ofName? (name : String) : Option PushStatus :=
  all.find? fun s => s.name = name

/-- Whether polling may slow down. -/
def healthy : PushStatus → Bool
  | .ready | .resumed => true
  | _ => false

end PushStatus

/-- What a channel last reported. -/
structure Occupancy where
  publishers : Nat
  timestamp : Int
deriving DecidableEq

/-- What is known about the availability of push. -/
structure Availability where
  channels : Dict Occupancy
  publishersAvailable : Bool
  pausedByControl : Bool
  current : Option PushStatus

namespace Availability

/-- Before the first connection. -/
def initial : Availability := ⟨Dict.empty, false, false, none⟩

/-- Whether push is off for good. -/
def isOff (a : Availability) : Bool :=
  a.current == some .off

/-- Passes through the given statuses. -/
def transition (a : Availability) (statuses : List PushStatus) :
    Availability × List PushStatus :=
  ({ a with current := statuses.getLast?.or a.current }, statuses)

/-- A connection was accepted. Publishers are taken to be there until a channel says
otherwise. -/
def connected (a : Availability) : Availability × List PushStatus :=
  if a.isOff then (a, [])
  else transition ⟨Dict.empty, true, false, a.current⟩ [.ready]

/-- Whether a report is older than the last one of its channel. -/
def outdated (a : Availability) (channel : String) (timestamp : Int) : Bool :=
  match a.channels.get? channel with
  | some last => timestamp < last.timestamp
  | none => false

/-- Whether some channel has publishers. -/
def anyPublishers (channels : Dict Occupancy) : Bool :=
  channels.entries.any fun e => 0 < e.2.publishers

/-- A channel reported its publishers. -/
def occupancy (a : Availability) (channel : String) (publishers : Nat) (timestamp : Int) :
    Availability × List PushStatus :=
  if a.isOff || a.outdated channel timestamp then (a, [])
  else
    let channels := a.channels.insert channel ⟨publishers, timestamp⟩
    let available := anyPublishers channels
    let b := { a with channels := channels, publishersAvailable := available }
    if available == a.publishersAvailable || a.pausedByControl then (b, [])
    else if available then b.transition [.resumed, .ready]
    else b.transition [.paused]

/-- The backend controls the stream. -/
def control (a : Availability) (c : Control) : Availability × List PushStatus :=
  if a.isOff then (a, [])
  else
    match c with
    | .paused =>
      if a.pausedByControl then (a, [])
      else
        let b := { a with pausedByControl := true }
        if a.publishersAvailable then b.transition [.paused] else (b, [])
    | .resumed =>
      if a.pausedByControl then
        let b := { a with pausedByControl := false }
        if a.publishersAvailable then b.transition [.resumed, .ready] else (b, [])
      else (a, [])
    | .disabled => a.transition [.off]

/-- The connection or the authentication failed. -/
def failed (a : Availability) (retryable : Bool) : Availability × List PushStatus :=
  if a.isOff then (a, [])
  else a.transition [if retryable then .backoff else .off]

end Availability

end Halyard.Push

/-
# Notifications

What the events of a push stream mean. An event of type `error` is an error of
the stream. Every other event is an envelope whose data is a JSON text of its
own: with a field `metrics` it reports how many publishers a channel has, else
its field `type` says what changed. An inline definition that cannot be read
does not spoil its announcement.

Key definitions: `Notification`, `StreamError.retryable`,
`Notification.ofEvent?`.
-/
import Halyard.Changes
import Halyard.Json.Reader
import Halyard.Push.EventStream
import Halyard.Push.Payload
import Halyard.Push.Token

namespace Halyard.Push

open Json

/-- A definition inside an announcement. -/
inductive Inline (α : Type) where
  | absent
  | undecodable
  | definition (a : α)

namespace Inline

/-- The definition, if there is one that can be read. -/
def toOption {α : Type} : Inline α → Option α
  | .definition a => some a
  | _ => none

/-- Whether there is one that cannot be read. -/
def lost {α : Type} : Inline α → Bool
  | .undecodable => true
  | _ => false

end Inline

/-- The announcement of a changed rule. `previous` is the change number that the
inline definition was computed against. -/
structure RuleUpdate (α : Type) where
  changeNumber : ChangeNumber
  previous : Option ChangeNumber
  inlined : Inline α

/-- A control message. -/
inductive Control where
  | paused
  | resumed
  | disabled
deriving DecidableEq

/-- An error that the stream reports. -/
structure StreamError where
  message : String
  code : Int
  statusCode : Int
deriving DecidableEq

/-- A message of the push stream. -/
inductive Notification where
  | flagUpdate (update : RuleUpdate Flag)
  | segmentRuleUpdate (update : RuleUpdate RuleBasedSegment)
  | kill (changeNumber : ChangeNumber) (flag defaultTreatment : String)
  | segmentUpdate (changeNumber : ChangeNumber) (segment : String)
  | control (channel : String) (control : Control)
  | occupancy (channel : String) (publishers : Nat) (timestamp : Int)
  | error (e : StreamError)

namespace Control

/-- The wire name of a control message. -/
def name : Control → String
  | .paused => "STREAMING_PAUSED"
  | .resumed => "STREAMING_RESUMED"
  | .disabled => "STREAMING_DISABLED"

/-- The control message of the given wire name. -/
def ofName? : String → Option Control
  | "STREAMING_PAUSED" => some .paused
  | "STREAMING_RESUMED" => some .resumed
  | "STREAMING_DISABLED" => some .disabled
  | _ => none

/-- Reads a control message. -/
def ofJson? (v : Value) : Option Control :=
  v.variant?.bind ofName?

/-- Reads a control message inside a tagged message, where its name may also be the key
of an empty object. -/
def ofPart? : Value → Option Control
  | .object [(k, .object [])] => ofName? k
  | v => ofJson? v

end Control

namespace StreamError

/-- Reads an error. -/
def ofJson? (v : Value) : Option StreamError := do
  let [message, code, statusCode] ← v.record? [["message"], ["code"], ["statusCode"]] | none
  return ⟨← message.withDefault? Value.string? "", ← code.required? (Value.signed? 64),
    ← statusCode.withDefault? (Value.signed? 64) 0⟩

/-- Whether a new connection may help. Token errors are cured by a new token; other
codes of the client family are final. -/
def retryable (e : StreamError) : Bool :=
  (40140 ≤ e.code && e.code ≤ 40149) || !(40000 ≤ e.code && e.code ≤ 49999)

end StreamError

/-- The frame around a message. -/
structure Envelope where
  channel : String
  data : String
  timestamp : Int

/-- Reads a frame. -/
def Envelope.ofJson? (v : Value) : Option Envelope := do
  let [channel, data, timestamp] ← v.record? [["channel"], ["data"], ["timestamp"]] | none
  return ⟨← channel.required? Value.string?, ← data.required? Value.string?,
    ← timestamp.withDefault? (Value.signed? 64) 0⟩

/-- Reads the number of publishers. -/
def publishers? (v : Value) : Option Nat := do
  let [publishers] ← v.record? [["publishers"]] | none
  publishers.required? (Value.unsigned? 32)

/-- Reads an occupancy report, which cannot be written as an array. -/
def occupancy? (v : Value) : Option Nat := do
  let [metrics] ← v.fieldSlots? [["metrics"]] | none
  metrics.required? publishers?

/-- The tags of messages, in their order. -/
def messageTags : List String :=
  ["SPLIT_UPDATE", "RB_SEGMENT_UPDATE", "SPLIT_KILL", "SEGMENT_UPDATE", "CONTROL"]

/-- The tag of a message: its name, or its place among the tags. -/
def tag? : Value → Option String
  | .string s => if messageTags.contains s then some s else none
  | .int i => if 0 ≤ i then messageTags[i.toNat]? else none
  | _ => none

/-- Splits a message into its tag and the rest. -/
def splitTag? : Value → Option (String × Value)
  | .object fields =>
    match fields.filter fun f => f.1 = "type" with
    | [(_, tag)] => (tag? tag).map fun t => (t, .object (fields.filter fun f => f.1 ≠ "type"))
    | _ => none
  | .array (tag :: rest) => (tag? tag).map fun t => (t, .array rest)
  | _ => none

/-- The payload of an update message before its definition is decoded. -/
structure UpdatePayload where
  changeNumber : ChangeNumber
  previous : Option ChangeNumber
  code : Option Nat
  data : Option String

namespace UpdatePayload

/-- Reads the payload of an update message. -/
def ofJson? (v : Value) : Option UpdatePayload := do
  let [changeNumber, previous, code, data] ←
    v.record? [["changeNumber"], ["pcn"], ["c"], ["d"]] | none
  return ⟨← changeNumber.required? (Value.signed? 64),
    ← previous.optionalDefault? (Value.signed? 64), ← code.optionalDefault? (Value.unsigned? 8),
    ← data.optionalDefault? Value.string?⟩

/-- The definition that a payload text carries. -/
def definition? {α : Type} (read : Value → Option α) (code : Nat) (data : String) : Option α := do
  let bytes ← (decodePayload code data).toOption
  read (← Value.parse? bytes)

/-- The announcement with its definition decoded. -/
def toUpdate {α : Type} (read : Value → Option α) (p : UpdatePayload) : RuleUpdate α where
  changeNumber := p.changeNumber
  previous := p.previous
  inlined :=
    match p.data with
    | none => .absent
    | some data =>
      match definition? read (p.code.getD 0) data with
      | none => .undecodable
      | some a => .definition a

end UpdatePayload

namespace Notification

/-- Reads a message without an envelope's help: the rest of a tagged message. -/
def ofTagged? (channel : String) (tag : String) (v : Value) : Option Notification := do
  if tag = "SPLIT_UPDATE" then
    return .flagUpdate ((← UpdatePayload.ofJson? v).toUpdate Flag.ofJson?)
  else if tag = "RB_SEGMENT_UPDATE" then
    return .segmentRuleUpdate ((← UpdatePayload.ofJson? v).toUpdate RuleBasedSegment.ofJson?)
  else if tag = "SPLIT_KILL" then
    let [changeNumber, flag, treatment] ←
      v.record? [["changeNumber"], ["splitName"], ["defaultTreatment"]] | none
    return .kill (← changeNumber.required? (Value.signed? 64)) (← flag.required? Value.string?)
      (← treatment.required? Value.string?)
  else if tag = "SEGMENT_UPDATE" then
    let [changeNumber, segment] ← v.record? [["changeNumber"], ["segmentName"]] | none
    return .segmentUpdate (← changeNumber.required? (Value.signed? 64))
      (← segment.required? Value.string?)
  else
    let [type] ← v.record? [["controlType"]] | none
    return .control channel (← type.required? Control.ofPart?)

/-- Reads the message inside an envelope. -/
def ofMessage? (channel : String) (timestamp : Int) (v : Value) : Option Notification :=
  match occupancy? v with
  | some publishers => some (.occupancy channel publishers timestamp)
  | none => do
    let (tag, rest) ← splitTag? v
    ofTagged? channel tag rest

/-- The notification that an event carries. -/
def ofEvent? (e : Event) : Option Notification := do
  let outer ← Value.parseString? e.data
  if e.kind = "error" then
    return .error (← StreamError.ofJson? outer)
  else
    let envelope ← Envelope.ofJson? outer
    let inner ← (← Value.parseString? envelope.data).whole?
    ofMessage? (channelName envelope.channel) envelope.timestamp inner

/-- The tag under which a notification is counted. -/
def kind : Notification → String
  | .flagUpdate _ => "SPLIT_UPDATE"
  | .segmentRuleUpdate _ => "RB_SEGMENT_UPDATE"
  | .kill .. => "SPLIT_KILL"
  | .segmentUpdate .. => "SEGMENT_UPDATE"
  | .control .. => "CONTROL"
  | .occupancy .. => "OCCUPANCY"
  | .error _ => "ERROR"

/-- Whether the notification announced a definition that could not be read. -/
def lostDefinition : Notification → Bool
  | .flagUpdate u => u.inlined.lost
  | .segmentRuleUpdate u => u.inlined.lost
  | _ => false

end Notification

end Halyard.Push

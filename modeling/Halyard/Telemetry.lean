/-
# Telemetry

What the engine counts and records. A counter is incremented; a histogram
records a value. A label tells occurrences of one metric apart.

Key definitions: `Metric`, `Metric.all`, `Telemetry`, `Telemetry.count`.
-/
import Halyard.Dict

namespace Halyard

/-- How values of a metric are combined. -/
inductive MetricKind where
  | counter
  | gauge
  | histogram
deriving DecidableEq

/-- The name of a kind of metric. -/
def MetricKind.name : MetricKind → String
  | .counter => "Counter"
  | .gauge => "Gauge"
  | .histogram => "Histogram"

/-- What the engine measures. -/
inductive Metric where
  | authRejections
  | tokenRefreshes
  | pushStatus
  | notifications
  | malformedPayloads
  | fetchErrors
  | fetchDuration
  | segmentKeys
deriving DecidableEq

namespace Metric

/-- All metrics, in their order. -/
def all : List Metric :=
  [.authRejections, .tokenRefreshes, .pushStatus, .notifications, .malformedPayloads,
    .fetchErrors, .fetchDuration, .segmentKeys]

/-- The name of a metric. -/
def name : Metric → String
  | .authRejections => "streaming.auth_rejections"
  | .tokenRefreshes => "streaming.token_refreshes"
  | .pushStatus => "streaming.status"
  | .notifications => "streaming.notifications"
  | .malformedPayloads => "streaming.malformed_payloads"
  | .fetchErrors => "sync.fetch.errors"
  | .fetchDuration => "sync.fetch.duration"
  | .segmentKeys => "sync.segment.keys"

/-- How values of a metric are combined. -/
def kind : Metric → MetricKind
  | .fetchDuration | .segmentKeys => .histogram
  | _ => .counter

/-- What a metric tells. -/
def description : Metric → String
  | .authRejections => "Number of times the auth endpoint rejected the SDK key"
  | .tokenRefreshes => "Number of streaming token refreshes before expiry"
  | .pushStatus => "Streaming status transitions, tagged by status"
  | .notifications => "Push notifications received, tagged by type"
  | .malformedPayloads => "SSE messages or inline payloads that could not be decoded"
  | .fetchErrors => "Failed fetches, tagged by resource"
  | .fetchDuration => "Time to bring a cache up to date in seconds, tagged by resource"
  | .segmentKeys => "Number of keys added or removed by a segment delta"

end Metric

/-- What was measured: how often each labelled metric occurred, and the recorded sizes
of segment deltas. -/
structure Telemetry where
  counts : Dict Nat
  segmentKeys : List Nat

namespace Telemetry

/-- Nothing was measured yet. -/
def empty : Telemetry := ⟨Dict.empty, []⟩

/-- The name of a metric with its label. -/
def labelled (m : Metric) : Option (String × String) → String
  | none => m.name
  | some (label, value) => m.name ++ "[" ++ label ++ "=" ++ value ++ "]"

/-- Counts an occurrence. -/
def count (t : Telemetry) (m : Metric) (label : Option (String × String)) : Telemetry :=
  let key := labelled m label
  { t with counts := t.counts.insert key ((t.counts.get? key).getD 0 + 1) }

/-- Records the size of a segment delta. -/
def recordKeys (t : Telemetry) (n : Nat) : Telemetry :=
  { t with segmentKeys := t.segmentKeys ++ [n] }

end Telemetry

end Halyard

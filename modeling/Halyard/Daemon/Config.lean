/-
# Configuration of the daemon

A file that says where to send metrics, how to log, where the admin service
listens, and how to synchronise. Only the last is required.

Settings for the admin service and for synchronisation are read from scalars as
each setting needs them. Everything else in the file is first resolved by its
spelling, so that a host that is spelled like a number is refused there.

Key definitions: `DaemonConfig`, `DaemonConfig.parse?`, `DaemonConfig.load`,
`LoadError.message`.
-/
import Halyard.Config
import Halyard.Text.Utf8
import Halyard.Yaml.Meaning
import Halyard.Yaml.Reader

namespace Halyard

open Json

/-- Where metrics are sent. -/
structure MetricsTarget where
  host : String
  port : Nat
  label : String
deriving DecidableEq

/-- How the daemon logs. -/
structure Logging where
  sentryDsn : Option String
  filter : String
deriving DecidableEq

/-- Where the admin service listens. -/
structure Listener where
  host : String
  port : Nat
deriving DecidableEq

/-- The configuration of the daemon. -/
structure DaemonConfig where
  metrics : Option MetricsTarget
  logging : Option Logging
  admin : Option Listener
  sync : Config
deriving DecidableEq

/-- Why a configuration file is refused. -/
inductive LoadError where
  | unreadable
  | notParsed
  | invalid (e : ValidationError)
deriving DecidableEq

/-- The wording of a refusal. -/
def LoadError.message : LoadError → String
  | .unreadable => "could not load config from file: cannot be opened"
  | .notParsed => "could not parse config: not the expected document"
  | .invalid e => "invalid sync config: " ++ e.message

/-- Reads where metrics are sent. -/
def MetricsTarget.ofJson? (v : Value) : Option MetricsTarget := do
  let [host, port, label] ← v.record? [["statsd_host"], ["statsd_port"], ["prefix"]] | none
  return ⟨← host.required? Value.string?, ← port.required? (Value.unsigned? 16),
    ← label.withDefault? Value.string? "flagsync"⟩

/-- Reads how to log. -/
def Logging.ofJson? (v : Value) : Option Logging := do
  let [dsn, filter] ← v.record? [["sentry_dsn"], ["filter"]] | none
  return ⟨← dsn.optional? Value.string?, ← filter.withDefault? Value.string? "info"⟩

/-- Reads where the admin service listens. -/
def Listener.ofJson? (v : Value) : Option Listener := do
  let [host, port] ← v.fieldSlots? [["host"], ["port"]] | none
  return ⟨← host.required? Value.string?, ← port.required? (Value.unsigned? 16)⟩

namespace DaemonConfig

open Yaml

/-- How deep containers may nest in a file. -/
def maxDepth : Nat := 128

/-- The group of the given single settings. -/
def singles (names : List String) : Shape :=
  .group (names.map (·, .single))

/-- The settings for synchronisation as they are wanted. -/
def syncShape : Shape :=
  .group [("sdk_key", .single), ("urls", singles ["sdk", "auth", "streaming"]),
    ("features_refresh_rate_secs", .single), ("segments_refresh_rate_secs", .single),
    ("streaming_enabled", .single), ("segment_workers", .single), ("flag_sets_filter", .list),
    ("http_timeout_secs", .single), ("http_retries", .single),
    ("streaming", singles ["backoff_base_ms", "backoff_max_ms", "keepalive_timeout_secs",
      "safety_refresh_rate_secs", "notification_buffer"]),
    ("on_demand_fetch", singles ["retries", "backoff_ms", "cdn_bypass_retries"])]

/-- Where the admin service listens, or null. -/
def adminValue (d : Document) (n : Node) : Following Value := do
  match ← target d n with
  | .scalar s => if ← (s.none? : Option Bool) then return .null else failure
  | n => shaped d (singles ["host", "port"]) n

/-- The value of a setting in a file, as its reader wants it. -/
def setting (d : Document) (name : String) (n : Node) : Following Value :=
  match name with
  | "sync" => shaped d syncShape n
  | "admin_listener" => adminValue d n
  | "metrics" => resolvedGroup d ["statsd_host", "statsd_port", "prefix"] (maxDepth - 1) n
  | "logging" => resolvedGroup d ["sentry_dsn", "filter"] (maxDepth - 1) n
  | _ => resolved d (maxDepth - 1) n

/-- The settings in a file. -/
def settings (d : Document) : Following Value := do
  match ← target d d.root with
  | .mapping _ entries =>
    return .object (← entries.mapM fun (k, v) => do
      let name ← keyText d k
      return (name, ← setting d name v))
  | _ => failure

/-- Reads a configuration. -/
def ofValue? (v : Value) : Option DaemonConfig := do
  let [metrics, logging, admin, sync] ←
    v.fieldSlots? [["metrics"], ["logging"], ["admin_listener"], ["sync"]] | none
  return {
    metrics := ← metrics.optional? MetricsTarget.ofJson?
    logging := ← logging.optional? Logging.ofJson?
    admin := ← admin.optional? Listener.ofJson?
    sync := ← sync.required? Config.ofJson? }

/-- Reads the characters of a configuration. -/
def parse? (text : List Char) : Option DaemonConfig := do
  let d ← Document.parse? text
  ofValue? (← d.follow? (settings d))

/-- The configuration in a file, given by its bytes, if it could be opened. -/
def load (file : Option (List UInt8)) : Except LoadError DaemonConfig := do
  let some bytes := file | throw .unreadable
  let some text := Text.Utf8.decode? bytes | throw .notParsed
  let some c := parse? text | throw .notParsed
  c.sync.validate.mapError .invalid
  return c

end DaemonConfig

end Halyard

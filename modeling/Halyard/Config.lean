/-
# Configuration

What a client is told: its key, where the endpoints are, how often to poll, and
how push and on-demand fetches behave. Every setting but the key has a default.

Key definitions: `Config`, `Config.ofJson?`, `Config.validate`,
`ValidationError`.
-/
import Halyard.FlagSet
import Halyard.Json.Decode
import Halyard.Text.Quoted
import Halyard.Text.Url

namespace Halyard

open Json Text

/-- Where the endpoints are. -/
structure Endpoints where
  sdk : Url
  auth : Url
  push : Url
deriving DecidableEq

/-- How push behaves. -/
structure PushSettings where
  backoffBaseMs : Nat
  backoffMaxMs : Nat
  keepaliveSecs : Nat
  /-- The polling interval while push is healthy. -/
  safetyRefreshSecs : Nat
  /-- How many messages may wait between the connection and their handling. -/
  buffer : Nat
deriving DecidableEq

/-- How often fetches that push asks for are tried. -/
structure OnDemandSettings where
  retries : Nat
  backoffMs : Nat
  bypassRetries : Nat
deriving DecidableEq

/-- The configuration of a client. -/
structure Config where
  sdkKey : String
  endpoints : Endpoints
  flagsRefreshSecs : Nat
  segmentsRefreshSecs : Nat
  pushEnabled : Bool
  segmentWorkers : Nat
  flagSets : List String
  httpTimeoutSecs : Nat
  httpRetries : Nat
  push : PushSettings
  onDemand : OnDemandSettings
deriving DecidableEq

/-- Why a configuration is refused. -/
inductive ValidationError where
  | emptySdkKey
  | zero (setting : String)
  | safetyIntervalTooShort
  | invalidFlagSet (raw : String)
deriving DecidableEq

/-- The wording of a validation error. -/
def ValidationError.message : ValidationError → String
  | .emptySdkKey => "sdk_key cannot be empty"
  | .zero setting => setting ++ " must be greater than 0"
  | .safetyIntervalTooShort =>
    "streaming safety refresh rate must not be shorter than the polling refresh rate"
  | .invalidFlagSet raw => "invalid flag set name: " ++ quoted raw

/-- A URL as JSON text gives it. -/
def urlOfJson? (v : Value) : Option Url := do
  Url.parse? (← v.string?)

namespace Endpoints

/-- A web URL without port, user information, query and fragment. -/
def web (host path : String) : Url where
  scheme := "https".toList
  authority := some ⟨[], [], host.toList, none⟩
  path := .segments [path.toList]
  query := none
  fragment := none

/-- The public endpoints. -/
def standard : Endpoints where
  sdk := web "sdk.split.io" "api"
  auth := web "auth.split.io" "api"
  push := web "streaming.split.io" ""

/-- Reads endpoints. -/
def ofJson? (v : Value) : Option Endpoints := do
  let [sdk, auth, push] ← v.record? [["sdk"], ["auth"], ["streaming"]] | none
  return ⟨← sdk.withDefault? urlOfJson? standard.sdk,
    ← auth.withDefault? urlOfJson? standard.auth, ← push.withDefault? urlOfJson? standard.push⟩

end Endpoints

namespace PushSettings

/-- The default settings. -/
def standard : PushSettings := ⟨1000, 60000, 70, 300, 5000⟩

/-- Reads push settings. -/
def ofJson? (v : Value) : Option PushSettings := do
  let [base, max, keepalive, safety, buffer] ← v.record? [["backoff_base_ms"],
    ["backoff_max_ms"], ["keepalive_timeout_secs"], ["safety_refresh_rate_secs"],
    ["notification_buffer"]] | none
  let number? (s : Slot) (default : Nat) : Option Nat := s.withDefault? (Value.unsigned? 64) default
  return ⟨← number? base standard.backoffBaseMs, ← number? max standard.backoffMaxMs,
    ← number? keepalive standard.keepaliveSecs, ← number? safety standard.safetyRefreshSecs,
    ← number? buffer standard.buffer⟩

end PushSettings

namespace OnDemandSettings

/-- The default settings. -/
def standard : OnDemandSettings := ⟨10, 1000, 10⟩

/-- Reads on-demand settings. -/
def ofJson? (v : Value) : Option OnDemandSettings := do
  let [retries, backoff, bypass] ←
    v.record? [["retries"], ["backoff_ms"], ["cdn_bypass_retries"]] | none
  return ⟨← retries.withDefault? (Value.unsigned? 32) standard.retries,
    ← backoff.withDefault? (Value.unsigned? 64) standard.backoffMs,
    ← bypass.withDefault? (Value.unsigned? 32) standard.bypassRetries⟩

end OnDemandSettings

namespace Config

/-- The configuration that says nothing but the key. -/
def ofKey (key : String) : Config where
  sdkKey := key
  endpoints := .standard
  flagsRefreshSecs := 60
  segmentsRefreshSecs := 60
  pushEnabled := true
  segmentWorkers := 10
  flagSets := []
  httpTimeoutSecs := 30
  httpRetries := 2
  push := .standard
  onDemand := .standard

/-- The settings in their order. -/
def fieldNames : List (List String) :=
  [["sdk_key"], ["urls"], ["features_refresh_rate_secs"], ["segments_refresh_rate_secs"],
    ["streaming_enabled"], ["segment_workers"], ["flag_sets_filter"], ["http_timeout_secs"],
    ["http_retries"], ["streaming"], ["on_demand_fetch"]]

/-- Reads a configuration. -/
def ofJson? (v : Value) : Option Config := do
  let [key, urls, flags, segments, enabled, workers, sets, timeout, retries, push, onDemand] ←
    v.record? fieldNames | none
  let d := ofKey ""
  return {
    sdkKey := ← key.required? Value.string?
    endpoints := ← urls.withDefault? Endpoints.ofJson? d.endpoints
    flagsRefreshSecs := ← flags.withDefault? (Value.unsigned? 64) d.flagsRefreshSecs
    segmentsRefreshSecs := ← segments.withDefault? (Value.unsigned? 64) d.segmentsRefreshSecs
    pushEnabled := ← enabled.withDefault? Value.bool? d.pushEnabled
    segmentWorkers := ← workers.withDefault? (Value.unsigned? 64) d.segmentWorkers
    flagSets := ← sets.withDefault? (Value.list? Value.string?) d.flagSets
    httpTimeoutSecs := ← timeout.withDefault? (Value.unsigned? 64) d.httpTimeoutSecs
    httpRetries := ← retries.withDefault? (Value.unsigned? 32) d.httpRetries
    push := ← push.withDefault? PushSettings.ofJson? d.push
    onDemand := ← onDemand.withDefault? OnDemandSettings.ofJson? d.onDemand }

/-- The names of the flag sets that are asked for. -/
def flagSetNames (c : Config) : Except ValidationError Names :=
  (FlagSet.filter c.flagSets).mapError .invalidFlagSet

/-- The settings that must not be zero. -/
def positiveSettings (c : Config) : List (String × Nat) :=
  [("features_refresh_rate_secs", c.flagsRefreshSecs),
    ("segments_refresh_rate_secs", c.segmentsRefreshSecs),
    ("segment_workers", c.segmentWorkers),
    ("http_timeout_secs", c.httpTimeoutSecs),
    ("streaming.keepalive_timeout_secs", c.push.keepaliveSecs),
    ("streaming.notification_buffer", c.push.buffer),
    ("streaming.backoff_base_ms", c.push.backoffBaseMs)]

/-- Refuses a configuration that cannot work, by the first reason. -/
def validate (c : Config) : Except ValidationError Unit := do
  if (trim c.sdkKey.toList).isEmpty then throw .emptySdkKey
  if let some (setting, _) := c.positiveSettings.find? fun s => s.2 = 0 then throw (.zero setting)
  if c.push.safetyRefreshSecs < max c.flagsRefreshSecs c.segmentsRefreshSecs then
    throw .safetyIntervalTooShort
  let _ ← c.flagSetNames

end Config

end Halyard

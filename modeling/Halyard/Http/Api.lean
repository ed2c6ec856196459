/-
# The polling and auth endpoints

What is asked of the backend over HTTP, and how its answers are read: the
changes of rules, the changes of a segment, and a token for push.

Key definitions: `Api`, `Api.ofConfig`, `Api.fetchRules`, `Api.fetchSegment`,
`Api.authenticate`.
-/
import Halyard.Changes
import Halyard.Config
import Halyard.Fetch.Target
import Halyard.Http.Exchange

namespace Halyard.Http

open Text Json

/-- The version of the rules that this library understands. -/
def specVersion : String := "1.3"

/-- How this library names itself. -/
def sdkVersion : String := "flagsync-0.1.0"

/-- The endpoints of a backend for a client: where they are, the key of the client, the
flag sets that it asks for, and how often a request may be repeated. -/
structure Api where
  sdkKey : String
  sdkBase : String
  authBase : String
  flagSets : Names
  retries : Nat

/-- What the auth endpoint answers. -/
structure Grant where
  pushEnabled : Bool
  token : Option String
  channels : Option (List String)
  connectDelay : Option Nat

/-- Reads an answer of the auth endpoint. -/
def Grant.ofJson? (v : Value) : Option Grant := do
  let [enabled, token, channels, delay] ←
    v.record? [["pushEnabled"], ["token"], ["channels"], ["connDelay"]] | none
  return ⟨← enabled.required? Value.bool?, ← token.optionalDefault? Value.string?,
    ← channels.optionalDefault? (Value.list? Value.string?),
    ← delay.optionalDefault? (Value.unsigned? 64)⟩

/-- The token of a grant. Without one push is turned off. -/
def Grant.token? (g : Grant) : Except FetchError Push.Token :=
  match g.token with
  | some jwt =>
    if g.pushEnabled then
      match Push.Token.ofJwt jwt g.connectDelay with
      | .ok t => .ok ((g.channels.map t.withChannels).getD t)
      | .error e => .error (.token e)
    else .ok .disabled
  | none => .ok .disabled

/-- A URL in normal form without slashes at its end. -/
def baseOf (u : Url) : String :=
  String.ofList ((u.text.toList.reverse.dropWhile (· = '/')).reverse)

/-- The URL of a path below a base. -/
def urlBelow (base path : String) : Except FetchError Url :=
  match Url.parse? (base ++ "/" ++ path) with
  | some u => .ok u
  | none => .error (.invalidUrl base)

/-- Reads a body. -/
def document {α : Type} (read : Value → Option α) (r : Response) : Except FetchError α :=
  match (Value.parse? r.body).bind read with
  | some a => .ok a
  | none => .error .decode

namespace Api

/-- The endpoints that a configuration names. -/
def ofConfig (c : Config) : Except ValidationError Api := do
  return {
    sdkKey := c.sdkKey
    sdkBase := baseOf c.endpoints.sdk
    authBase := baseOf c.endpoints.auth
    flagSets := ← c.flagSetNames
    retries := c.httpRetries }

/-- The request for a URL. -/
def request (a : Api) (url : Url) (noCache : Bool) : Request where
  url := url
  authorization := some ("Bearer " ++ a.sdkKey)
  cacheControl := if noCache then some "no-cache" else none
  sdkVersion := some sdkVersion
  accept := "*/*"

/-- Asks for a document. -/
def get {α : Type} (a : Api) (network : Network) (url : Url) (noCache : Bool)
    (read : Value → Option α) : Except FetchError α := do
  document read (← (Exchange.run network a.retries (a.request url noCache)).result)

/-- The field that asks for a change number at least. -/
def tillField (o : FetchOptions) : List (String × String) :=
  o.till.toList.map fun n => ("till", toString n)

/-- Where the changes of rules are. -/
def rulesUrl (a : Api) (since ruleSince : ChangeNumber) (o : FetchOptions) :
    Except FetchError Url := do
  let u ← urlBelow a.sdkBase "splitChanges"
  let sets := if a.flagSets.isEmpty then [] else
    [("sets", String.intercalate "," a.flagSets.toList)]
  return u.withQuery ([("s", specVersion), ("since", toString since),
    ("rbSince", toString ruleSince)] ++ sets ++ tillField o)

/-- Where the changes of a segment are. -/
def segmentUrl (a : Api) (name : String) (since : ChangeNumber) (o : FetchOptions) :
    Except FetchError Url := do
  let u ← urlBelow a.sdkBase "segmentChanges"
  match u.withSegment? name with
  | some u => return u.withQuery (("since", toString since) :: tillField o)
  | none => throw (.invalidUrl a.sdkBase)

/-- Where tokens are granted. -/
def authUrl (a : Api) : Except FetchError Url := do
  return (← urlBelow a.authBase "v2/auth").withQuery [("s", specVersion)]

/-- Asks for the changes of rules. -/
def fetchRules (a : Api) (network : Network) (since ruleSince : ChangeNumber)
    (o : FetchOptions) : Except FetchError RuleChanges := do
  a.get network (← a.rulesUrl since ruleSince o) o.noCache RuleChanges.ofJson?

/-- Asks for the changes of a segment. An answer without a name is for the segment that
was asked for. -/
def fetchSegment (a : Api) (network : Network) (name : String) (since : ChangeNumber)
    (o : FetchOptions) : Except FetchError SegmentChanges := do
  let c ← a.get network (← a.segmentUrl name since o) o.noCache SegmentChanges.ofJson?
  return if c.name = "" then { c with name := name } else c

/-- Asks for a token. -/
def authenticate (a : Api) (network : Network) : Except FetchError Push.Token := do
  (← a.get network (← a.authUrl) false Grant.ofJson?).token?

end Api

end Halyard.Http

/-
# Streaming tokens

The auth endpoint answers with a JWT whose claims name the channels to
subscribe to and the token's lifetime. A channel whose permissions include
publisher metadata is subscribed to with the occupancy prefix. The token is
replaced ten minutes before it expires, or halfway if it does not live longer.

Key definitions: `Token`, `Token.ofJwt`, `Token.withChannels`,
`Token.refreshIn?`.
-/
import Halyard.Bytes.Base64
import Halyard.Json.Decode
import Halyard.Json.Reader
import Halyard.Dict

namespace Halyard.Push

open Json Bytes

/-- The prefix that asks for occupancy messages about a channel. -/
def occupancyPrefix : String := "[?occupancy=metrics.publishers]"

/-- The permission that makes a channel report its publishers. -/
def publishersPermission : String := "channel-metadata:publishers"

/-- What follows one occupancy prefix, if the channel has one. -/
def withoutPrefix? (channel : String) : Option String :=
  let n := occupancyPrefix.length
  if channel.toList.take n = occupancyPrefix.toList then
    some (String.ofList (channel.toList.drop n))
  else none

/-- The channel without one occupancy prefix. -/
def channelName (channel : String) : String :=
  (withoutPrefix? channel).getD channel

/-- Why a token could not be read. -/
inductive TokenError where
  | format
  | base64
  | json
deriving DecidableEq

namespace TokenError

/-- The wording of a token error. -/
def message : TokenError → String
  | .format => "token is not a JWT"
  | .base64 => "invalid base64: not the URL form"
  | .json => "invalid JSON: not the expected document"

end TokenError

/-- What the auth endpoint grants. Times are in seconds. -/
structure Token where
  pushEnabled : Bool
  jwt : String
  channels : List String
  issuedAt : Option Nat
  expiresAt : Option Nat
  /-- How long to wait before connecting. -/
  connectDelay : Option Nat
deriving DecidableEq, Inhabited

/-- The claims of a token that matter here. -/
structure Claims where
  capability : String
  issuedAt : Option Nat
  expiresAt : Option Nat

namespace Claims

/-- Reads the claims. -/
def ofJson? (v : Value) : Option Claims := do
  let [capability, iat, exp] ← v.record? [["x-ably-capability"], ["iat"], ["exp"]] | none
  return ⟨← capability.required? Value.string?, ← iat.optionalDefault? (Value.unsigned? 64),
    ← exp.optionalDefault? (Value.unsigned? 64)⟩

/-- The channels of the capability in ascending order, each with its permissions. -/
def channels? (c : Claims) : Option (List (String × List String)) := do
  let v ← Value.parseString? c.capability
  return (Dict.ofList (← v.dictionary? (Value.list? Value.string?))).entries

end Claims

namespace Token

/-- The token of a key for which push is turned off. -/
def disabled : Token := ⟨false, "", [], none, none, none⟩

/-- The name under which a channel is subscribed to, given its permissions. -/
def subscription (channel : String) (permissions : List String) : String :=
  if permissions.contains publishersPermission then occupancyPrefix ++ channel else channel

/-- The second of the parts between dots. -/
def payloadPart? (jwt : String) : Option (List Char) :=
  match (jwt.toList.dropWhile (· != '.')) with
  | [] => none
  | _ :: rest => some (rest.takeWhile (· != '.'))

/-- The token with channels and lifetime from the claims of the JWT. Padding at the
end of the claims is ignored. -/
def ofJwt (jwt : String) (connectDelay : Option Nat) : Except TokenError Token := do
  let some payload := payloadPart? jwt | throw .format
  let digits := (payload.reverse.dropWhile (· = '=')).reverse
  let some bytes := Base64.decodeUnpadded? Base64.urlSafe digits | throw .base64
  let some claims := (Value.parse? bytes).bind Claims.ofJson? | throw .json
  let some channels := claims.channels? | throw .json
  return {
    pushEnabled := true
    jwt := jwt
    channels := channels.map fun c => subscription c.1 c.2
    issuedAt := claims.issuedAt
    expiresAt := claims.expiresAt
    connectDelay := connectDelay }

/-- Whether the name is that of a control channel. -/
def isControlName (name : String) : Bool :=
  name.toList.take 8 = "control_".toList

/-- The token with an explicit channel list. A channel that carried the occupancy
prefix before, and any control channel, carries it again. -/
def withChannels (t : Token) (channels : List String) : Token :=
  let reporting := t.channels.filterMap withoutPrefix?
  { t with channels := channels.map fun channel =>
      let name := channelName channel
      if reporting.contains name || isControlName name then occupancyPrefix ++ name else channel }

/-- How long before its expiry a token is replaced. -/
def refreshGrace : Nat := 600

/-- How many seconds after its issue the token is replaced, if its lifetime is known. -/
def refreshIn? (t : Token) : Option Nat := do
  let expires ← t.expiresAt
  let issued ← t.issuedAt
  if expires < issued then none
  else
    let lifetime := expires - issued
    return max 1 (if refreshGrace < lifetime then lifetime - refreshGrace else lifetime / 2)

end Token

end Halyard.Push

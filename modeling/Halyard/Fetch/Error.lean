/-
# Why synchronising fails

A `FetchError` is what one request can end in; a `SyncError` is what an update
of the stores can end in. A failed fetch becomes a sync error that keeps
whether trying again may help: a rejection that is not retriable stands for
the key being refused, all other failures of the transport are transient.

Key definitions: `FetchError`, `SyncError`, `FetchError.toSync`,
`SyncError.retryable`.
-/
import Halyard.Push.Token

namespace Halyard

/-- What a request ended in, other than an answer. -/
inductive FetchError where
  | transport
  | status (code : Nat) (retryable : Bool)
  | decode
  | invalidUrl (url : String)
  | token (e : Push.TokenError)
deriving DecidableEq

namespace FetchError

/-- The wording of a fetch error. -/
def message : FetchError → String
  | .transport => "request failed: no answer"
  | .status code _ => "unexpected status " ++ toString code
  | .decode => "invalid response body: not the expected document"
  | .invalidUrl url => "invalid URL: " ++ url
  | .token e => "invalid token: " ++ e.message

end FetchError

/-- What bringing a store up to date ended in, other than success. -/
inductive SyncError where
  | transientNetwork (reason : String)
  | authRejected (reason : String)
  | malformedPayload (reason : String)
  | gap (expected got : Int)
  | cancelled
  | frozen
deriving DecidableEq

namespace SyncError

/-- The wording of a sync error. -/
def message : SyncError → String
  | .transientNetwork reason => "transient network error: " ++ reason
  | .authRejected reason => "authentication rejected: " ++ reason
  | .malformedPayload reason => "malformed payload: " ++ reason
  | .gap expected got => "change number gap: cache is at " ++ toString expected ++
      ", delta starts at " ++ toString got
  | .cancelled => "operation cancelled"
  | .frozen => "cache is frozen"

/-- Whether trying again may help. -/
def retryable : SyncError → Bool
  | .transientNetwork _ => true
  | .gap _ _ => true
  | _ => false

end SyncError

/-- The sync error that a fetch error amounts to. -/
def FetchError.toSync (e : FetchError) : SyncError :=
  match e with
  | .status code false =>
    if code = 400 || code = 401 || code = 403 then .authRejected e.message
    else .transientNetwork e.message
  | .transport | .status _ true | .invalidUrl _ => .transientNetwork e.message
  | .decode | .token _ => .malformedPayload e.message

end Halyard

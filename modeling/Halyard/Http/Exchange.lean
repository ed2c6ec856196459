/-
# Exchanges

A request is repeated while the server says that it may succeed later, with
delays that double, up to a limit. The attempts of an exchange differ in
nothing but the moment, so what the network makes of them is a function of
their number; an attempt that is not answered ends the exchange.

Key definitions: `Attempts`, `retryDelay`, `verdict`, `Exchange`, `Exchange.run`.
-/
import Halyard.Fetch.Error
import Halyard.Http.Message

namespace Halyard.Http

/-- The responses to the attempts at a request, if they arrive. -/
abbrev Attempts := Nat → Option Response

/-- A network, which makes something of every request. -/
abbrev Network := Request → Attempts

/-- What follows a response. -/
inductive Verdict where
  | accepted
  /-- Another attempt after a delay in milliseconds. -/
  | again (ms : Nat)
  | rejected (e : FetchError)
deriving DecidableEq

/-- The delay before the first repetition, in milliseconds. -/
def baseDelay : Nat := 500

/-- The delay before the next attempt after some repetitions, in milliseconds. Delays are
counted in 64 bits. -/
def retryDelay (repeated : Nat) : Nat :=
  baseDelay * Nat.pow 2 repeated % Nat.pow 2 64

/-- What follows a response with the given status after some repetitions, of which
`limit` are allowed. -/
def verdict (limit repeated status : Nat) : Verdict :=
  if Status.isSuccess status then .accepted
  else if Status.isRetriable status && repeated < limit then .again (retryDelay repeated)
  else .rejected (.status status (Status.isRetriable status))

/-- An exchange that came to its end: the delays between its attempts, and its result. -/
structure Exchange where
  delays : List Nat
  result : Except FetchError Response

theorem lt_of_verdict_again {limit repeated status ms : Nat}
    (h : verdict limit repeated status = .again ms) : repeated < limit := by
  simp only [verdict] at h
  split at h
  · simp at h
  · split at h
    · simp_all
    · simp at h

/-- Goes on with an exchange after some repetitions. -/
def Exchange.resume (attempts : Attempts) (limit repeated : Nat) : Exchange :=
  match attempts repeated with
  | none => ⟨[], .error .transport⟩
  | some r =>
    match h : verdict limit repeated r.status with
    | .accepted => ⟨[], .ok r⟩
    | .rejected e => ⟨[], .error e⟩
    | .again ms =>
      let rest := resume attempts limit (repeated + 1)
      { rest with delays := ms :: rest.delays }
termination_by limit - repeated
decreasing_by
  have := lt_of_verdict_again h
  omega

/-- The whole exchange for a request. One that cannot be sent is not answered. -/
def Exchange.run (network : Network) (limit : Nat) (r : Request) : Exchange :=
  Exchange.resume (if r.isSendable then network r else fun _ => none) limit 0

end Halyard.Http

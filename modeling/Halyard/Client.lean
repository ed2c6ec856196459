/-
# Clients

Why a client cannot be made or used. A client that was destroyed cannot be
started again.

Key definitions: `ClientError`, `Config.check`.
-/
import Halyard.Config

namespace Halyard

/-- Why a client cannot be made or used. -/
inductive ClientError where
  | invalidConfiguration (e : ValidationError)
  | destroyed
deriving DecidableEq

namespace ClientError

/-- The wording of a client error. -/
def message : ClientError → String
  | .invalidConfiguration e => "invalid configuration: " ++ e.message
  | .destroyed => "the client was destroyed"

end ClientError

/-- Validates a configuration for a client, and gives the flag sets that it asks for. -/
def Config.check (c : Config) : Except ClientError Names := do
  c.validate.mapError .invalidConfiguration
  c.flagSetNames.mapError .invalidConfiguration

end Halyard

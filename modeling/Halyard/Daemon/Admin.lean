/-
# The admin service

Tells over HTTP whether the daemon lives, whether its rules are ready, and what
the status of push is.

Key definitions: `Admin.respond`.
-/
import Halyard.Http.Message
import Halyard.Push.Availability
import Halyard.Text.Utf8

namespace Halyard.Admin

open Http

/-- What is told about push. Without a status it is not in use. -/
def statusText (status : Option Push.PushStatus) : String :=
  (status.map (·.name)).getD "STREAMING_DISABLED"

/-- A response with a text. -/
def textResponse (status : Nat) (s : String) : Response :=
  ⟨status, Text.Utf8.ofString s⟩

/-- A response that tells no more than its status. -/
def bare (status : Nat) : Response :=
  textResponse status ((Status.reason? status).getD "an error occurred" ++ "\n")

/-- The path of a request target. -/
def pathOf (target : String) : String :=
  String.ofList (target.toList.takeWhile fun c => c != '?' && c != '#')

/-- The response to a request for a target, whatever its method. -/
def respond (ready : Bool) (status target : String) : Response :=
  let path := pathOf target
  if path = "/health" then textResponse 200 "ok\n"
  else if path = "/ready" then if ready then textResponse 200 "ok\n" else bare 503
  else if path = "/status" then textResponse 200 (status ++ "\n")
  else bare 404

end Halyard.Admin

/-
# The local copy of a client

What a client holds of the backend's rules: the stores, which of them are
complete for the first time, the segments that are kept up to date, and
whether the client was destroyed.

Key definitions: `Replica`, `Replica.view`.
-/
import Halyard.Evaluation
import Halyard.Registry

namespace Halyard

/-- What a client holds. -/
structure Replica where
  stores : Stores
  readiness : Readiness
  registry : Registry
  destroyed : Bool

namespace Replica

/-- What a client holds at first. -/
def initial : Replica := ⟨.empty, .closed, .empty, false⟩

/-- What evaluation sees. -/
def view (r : Replica) : View := ⟨r.stores, r.readiness, r.destroyed⟩

/-- Adds segment names and tells which were new. -/
def register (r : Replica) (names : List String) : Replica × List String :=
  let (registry, fresh) := r.registry.register names
  ({ r with registry := registry }, fresh)

end Replica

end Halyard

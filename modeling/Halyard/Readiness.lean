/-
# Readiness

Which resources completed their first synchronisation. A gate that is open
stays open.

Key definitions: `Resource`, `Readiness`, `Readiness.mark`.
-/

namespace Halyard

/-- What has to be there before evaluation can rely on it. -/
inductive Resource where
  | flags
  | segments
deriving DecidableEq

/-- The gate of each resource. -/
structure Readiness where
  flags : Bool
  segments : Bool
deriving DecidableEq

namespace Readiness

/-- Nothing is ready. -/
def closed : Readiness := ⟨false, false⟩

/-- Whether the gate of a resource is open. -/
def ready (r : Readiness) : Resource → Bool
  | .flags => r.flags
  | .segments => r.segments

/-- Whether every gate is open. -/
def allReady (r : Readiness) : Bool :=
  r.flags && r.segments

/-- Opens a gate and tells whether it was closed. -/
def mark (r : Readiness) (resource : Resource) : Readiness × Bool :=
  if r.ready resource then (r, false)
  else
    match resource with
    | .flags => ({ r with flags := true }, true)
    | .segments => ({ r with segments := true }, true)

end Readiness

end Halyard

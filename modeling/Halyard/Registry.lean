/-
# The segment registry

The segments that synchronisation keeps fetching, in the order in which they
were discovered. Names are only ever added: a flag that refers to a segment
may go and come back.

Key definitions: `Registry`, `Registry.register`.
-/

namespace Halyard

/-- Segment names in the order of their discovery. -/
structure Registry where
  names : List String
deriving DecidableEq

namespace Registry

/-- The registry without names. -/
def empty : Registry := ⟨[]⟩

/-- Whether the name was discovered. -/
def contains (r : Registry) (name : String) : Bool :=
  r.names.contains name

/-- The names of a list that are not among `known`, each where it first occurs. -/
def fresh (known : List String) : List String → List String
  | [] => []
  | n :: ns =>
    if known.contains n then fresh known ns else n :: fresh (known ++ [n]) ns

/-- Adds names and tells which of them were new. -/
def register (r : Registry) (names : List String) : Registry × List String :=
  let new := fresh r.names names
  (⟨r.names ++ new⟩, new)

end Registry

end Halyard

/-
# Nodes

What a document says: scalars, sequences and mappings, and aliases, each of which
stands for a node that was given a name before. A node may be tagged.

Names are numbered by how many there are, so that a name that is given again, and
the next new one, have one number; the node that began last keeps it.

Key definitions: `Scalar`, `Node`, `Document`, `Document.target?`.
-/
import Halyard.Yaml.Scalar

namespace Halyard.Yaml

/-- A scalar. -/
structure Scalar where
  text : String
  style : Style
  tag : Option String
deriving DecidableEq

/-- A node. An alias holds the number of its name. -/
inductive Node where
  | scalar (s : Scalar)
  | sequence (tag : Option String) (items : List Node)
  | mapping (tag : Option String) (entries : List (Node × Node))
  | alias (name : Nat)
deriving Inhabited

namespace Node

/-- The scalar without a character. -/
def empty : Node := .scalar ⟨"", .plain, none⟩

mutual

/-- How many steps it takes to go through the node: one for a scalar or an alias, and two more
than for its parts for a collection. -/
def steps : Node → Nat
  | .scalar _ | .alias _ => 1
  | .sequence _ items => itemSteps items + 2
  | .mapping _ entries => entrySteps entries + 2

/-- `steps` for all items. -/
def itemSteps : List Node → Nat
  | [] => 0
  | n :: ns => n.steps + itemSteps ns

/-- `steps` for all keys and values. -/
def entrySteps : List (Node × Node) → Nat
  | [] => 0
  | (k, v) :: es => k.steps + v.steps + entrySteps es

end

end Node

/-- A node with a name: the number of the name, how many named nodes began before, and the
node. -/
structure Named where
  name : Nat
  order : Nat
  node : Node

/-- A document. -/
structure Document where
  root : Node
  named : List Named

/-- The node that a name stands for: of those with its number, the one that began last. -/
def Document.target? (d : Document) (name : Nat) : Option Node :=
  let found := d.named.filter fun n => n.name = name
  (found.foldl (fun best n =>
    match best with
    | some b => if b.order < n.order then some n else some b
    | none => some n) (none : Option Named)).map (·.node)

end Halyard.Yaml

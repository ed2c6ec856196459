/-
# What nodes mean

A node as a JSON value. Where a reader knows what it wants, an unquoted scalar keeps its
spelling, and tags do not matter. Elsewhere scalars are resolved: by their tag if it is
one of the common ones, and otherwise by their spelling unless they are quoted; a tag of
one's own is refused.

Aliases are followed where a value is looked at. How often is bounded by the size of the
document, so that aliases in nodes that aliases stand for do not multiply without end.

Key definitions: `Scalar.resolved?`, `Following`, `resolved`, `Shape`, `shaped`.
-/
import Halyard.Json.Decode
import Halyard.Yaml.Node

namespace Halyard.Yaml

open Json

namespace Scalar

/-- The common tag of a name. -/
def commonTag (name : String) : String :=
  "tag:yaml.org,2002:" ++ name

/-- Whether the scalar has a common tag. -/
def hasTag (s : Scalar) (name : String) : Bool :=
  s.tag = some (commonTag name)

/-- Whether the scalar is unquoted and without a character. -/
def isEmpty (s : Scalar) : Bool :=
  s.style = .plain && s.text = ""

/-- The scalar for a reader that knows what it wants. A literal block with the tag of an integer
or a truth value is read like an unquoted scalar, if it spells one. -/
def value (s : Scalar) : Value :=
  let spelled := s.style = .literal &&
    ((s.hasTag "int" && (plainNat? s.text).isSome) ||
      (s.hasTag "bool" && (plainBool? s.text).isSome))
  if s.style = .plain || spelled then .plain s.text else .string s.text

/-- The integer that a spelling stands for, if it fits. -/
def integer? (text : String) : Option Value := do
  let i ← plainInt? text
  if fitsBits 64 i then return .int i else none

/-- What the scalar means where no reader decides. -/
def resolved? (s : Scalar) : Option Value :=
  if s.hasTag "bool" then (plainBool? s.text).map .bool
  else if s.hasTag "int" then integer? s.text
  else if s.hasTag "float" then
    match realOrText s.text with
    | .string _ => none
    | v => some v
  else if s.hasTag "null" then
    if s.text != "" && nullWords.contains s.text then some .null else none
  else if s.style = .plain && s.tag.isNone then resolve? s.text
  else some (.string s.text)

/-- Whether the scalar says that there is none, if that can be said of it. A tag that is not
that of null says that there is one. -/
def none? (s : Scalar) : Option Bool :=
  if s.style != .plain then some false
  else if s.hasTag "null" then
    if s.text != "" && nullWords.contains s.text then some true else none
  else some (s.tag.isNone && nullWords.contains s.text)

end Scalar

/-- A computation that follows aliases, as often as is still allowed. -/
abbrev Following := StateT Nat Option

/-- How often aliases may be followed for each step through a document. -/
def followFactor : Nat := 100

/-- Runs a computation on a document. -/
def Document.follow? {α : Type} (d : Document) (run : Following α) : Option α :=
  (run.run (followFactor * d.root.steps)).map (·.1)

/-- The node itself, or the one that an alias stands for. -/
def target (d : Document) : Node → Following Node
  | .alias name => do
    let left ← get
    if left = 0 then failure
    set (left - 1)
    (d.target? name : Option Node)
  | n => return n

/-- Whether the tag is one of a document's own. -/
def isOwnTag (tag : Option String) : Bool :=
  (tag.map fun t => t.startsWith "!").getD false

/-- The text of a node that is used as a key. -/
def keyText (d : Document) (n : Node) : Following String := do
  match ← target d n with
  | .scalar s => return s.text
  | _ => failure

/-- The node with all scalars resolved, its collections nesting no deeper than `levels`. Keys
that are not texts are left out, with their values. -/
def resolved (d : Document) : Nat → Node → Following Value
  | levels, n => do
    match ← target d n, levels with
    | .scalar s, _ => if isOwnTag s.tag then failure else (s.resolved? : Option Value)
    | .sequence tag items, levels + 1 =>
      if isOwnTag tag then failure
      return .array (← items.mapM (resolved d levels))
    | .mapping tag entries, levels + 1 =>
      if isOwnTag tag then failure
      let fields ← entries.mapM fun (k, v) => do
        return (← resolved d levels k, ← resolved d levels v)
      return .object (fields.filterMap fun (k, v) => k.string?.map (·, v))
    | _, _ => failure

/-- What a reader wants of a node. -/
inductive Shape where
  | single
  | list
  | group (fields : List (String × Shape))

/-- The node in the shape that is wanted. Fields of other names are not looked at. An empty
scalar is the empty list and the empty group. -/
def shaped (d : Document) : Shape → Node → Following Value
  | .single, n => do
    match ← target d n with
    | .scalar s => return s.value
    | _ => failure
  | .list, n => do
    match ← target d n with
    | .scalar s => if s.isEmpty then return .array [] else failure
    | .sequence _ items =>
      return .array (← items.mapM fun n => do
        match ← target d n with
        | .scalar s => return s.value
        | _ => failure)
    | _ => failure
  | .group fields, n => do
    match ← target d n with
    | .scalar s => if s.isEmpty then return .object [] else failure
    | .mapping _ entries =>
      let found ← entries.mapM fun (k, v) => do
        let name ← keyText d k
        match fields.attach.find? fun f => f.1.1 = name with
        | some ⟨f, h⟩ =>
          have : sizeOf f.2 < 1 + sizeOf fields := by
            have := List.sizeOf_lt_of_mem h
            cases f
            simp only [Prod.mk.sizeOf_spec] at *
            omega
          return some (name, ← shaped d f.2 v)
        | none => return none
      return .object (found.filterMap id)
    | _ => failure
termination_by s => sizeOf s

/-- The field that a resolved key names: by its text, or by its position. Positions beyond the
fields name none. -/
def fieldName (names : List String) (key : Node) (v : Value) : Following String :=
  match key, v with
  | _, .string s => return s
  | .scalar s, .int i =>
    if (plainNat? s.text).isSome then return (names[i.toNat]?).getD "" else failure
  | _, _ => failure

/-- A group of fields whose values are resolved, its collections nesting no deeper than `levels`.
Anything but a mapping is resolved itself. -/
def resolvedGroup (d : Document) (names : List String) (levels : Nat) (n : Node) :
    Following Value := do
  match ← target d n, levels with
  | .mapping tag entries, levels + 1 =>
    if isOwnTag tag then failure
    return .object (← entries.mapM fun (k, v) => do
      let k ← target d k
      let name ← fieldName names k (← resolved d levels k)
      return (name, ← resolved d levels v))
  | n, _ => resolved d levels n

end Halyard.Yaml

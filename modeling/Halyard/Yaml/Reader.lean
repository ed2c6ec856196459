/-
# Reading documents

A text as one document. Before it a line may say which version it is written in and
what handles of tags stand for; a line `---` may begin it and lines `...` end it.

Key definitions: `Reading`, `node`, `document`, `Document.parse?`.
-/
import Halyard.Yaml.Layout
import Halyard.Yaml.Node

namespace Halyard.Yaml

/-- What is left to be read, what the handles of tags stand for, the names so far with their
numbers, how many named nodes have begun, and those that are complete. -/
structure ReadingState where
  tokens : List Token
  families : List (String × String)
  names : List (String × Nat)
  begun : Nat
  named : List Named

/-- A computation that reads tokens. -/
abbrev Reading := StateT ReadingState Option

namespace Reading

/-- The next token. -/
def peek : Reading (Option Token) := do
  return (← get).tokens.head?

/-- Whether the next token is one of `tokens`. -/
def nextIn (tokens : List Token) : Reading Bool := do
  return ((← peek).map tokens.contains).getD false

/-- Passes over a token. -/
def advance : Reading Unit :=
  modify fun s => { s with tokens := s.tokens.tail }

/-- Passes over the token, if it is next. -/
def accept (t : Token) : Reading Bool := do
  if (← peek) = some t then
    advance
    return true
  return false

/-- The number of a name that was given to a node. -/
def numberOf (name : String) : Reading Nat := do
  ((← get).names.lookup name : Option Nat)

/-- Gives a name to the node that begins here. -/
def register (name : String) : Reading (Nat × Nat) := do
  let s ← get
  let number := s.names.length
  let others := s.names.filter fun n => n.1 != name
  set { s with names := (name, number) :: others, begun := s.begun + 1 }
  return (number, s.begun)

/-- Notes that a node with a name is complete. -/
def complete (name : Option (Nat × Nat)) (n : Node) : Reading Node := do
  if let some (number, order) := name then
    modify fun s => { s with named := ⟨number, order, n⟩ :: s.named }
  return n

/-- What a tag says in full. -/
def fullTag (handle suffix : String) : Reading String := do
  if handle = "" then return suffix
  let begins ← ((← get).families.lookup handle : Option String)
  return begins ++ suffix

/-- What stands before a node: a name and a tag in either order. -/
def properties : Reading (Option String × Option String) := do
  match ← peek with
  | some (.anchor name) =>
    advance
    match ← peek with
    | some (.tag handle suffix) =>
      advance
      return (some name, some (← fullTag handle suffix))
    | _ => return (some name, none)
  | some (.tag handle suffix) =>
    advance
    match ← peek with
    | some (.anchor name) =>
      advance
      return (some name, some (← fullTag handle suffix))
    | _ => return (none, some (← fullTag handle suffix))
  | _ => return (none, none)

mutual

/-- A node. `block` says whether it may be a collection without brackets, and `dashed` whether
it may be a sequence that is not indented. -/
def node : Nat → Bool → Bool → Reading Node
  | 0, _, _ => failure
  | fuel + 1, block, dashed => do
    if let some (.alias name) ← peek then
      advance
      return .alias (← numberOf name)
    let (name, tag) ← properties
    let name ← name.mapM register
    let next ← peek
    if dashed && next = some .dash then
      complete name (.sequence tag (← dashedItems fuel))
    else if block && next = some .blockSequence then
      advance
      complete name (.sequence tag (← blockItems fuel))
    else if block && next = some .blockMapping then
      advance
      complete name (.mapping tag (← blockEntries fuel))
    else
    match next with
    | some (.scalar text style) =>
      advance
      complete name (.scalar ⟨text, style, tag.filter (· != "!")⟩)
    | some .flowSequence =>
      advance
      complete name (.sequence tag (← flowItems fuel true))
    | some .flowMapping =>
      advance
      complete name (.mapping tag (← flowEntries fuel true))
    | _ =>
      if name.isNone && tag.isNone then failure
      complete name (.scalar ⟨"", .plain, tag⟩)

/-- A node, or the empty scalar where one of `ends` stands. -/
def nodeUnless : Nat → List Token → Bool → Bool → Reading Node
  | 0, _, _, _ => failure
  | fuel + 1, ends, block, dashed => do
    if ← nextIn ends then return .empty
    node fuel block dashed

/-- The items of an indented sequence. -/
def blockItems : Nat → Reading (List Node)
  | 0 => failure
  | fuel + 1 => do
    if ← accept .blockEnd then return []
    if !(← accept .dash) then failure
    let item ← nodeUnless fuel [.dash, .blockEnd] true false
    return item :: (← blockItems fuel)

/-- The items of a sequence that is not indented. -/
def dashedItems : Nat → Reading (List Node)
  | 0 => failure
  | fuel + 1 => do
    if !(← accept .dash) then return []
    let item ← nodeUnless fuel [.dash, .key, .value, .blockEnd] true false
    return item :: (← dashedItems fuel)

/-- The entries of an indented mapping. -/
def blockEntries : Nat → Reading (List (Node × Node))
  | 0 => failure
  | fuel + 1 => do
    if ← accept .blockEnd then return []
    if !(← accept .key) then failure
    let ends := [.key, .value, .blockEnd]
    let key ← nodeUnless fuel ends true true
    let value ← if ← accept .value then nodeUnless fuel ends true true else pure .empty
    return (key, value) :: (← blockEntries fuel)

/-- The items up to the closing bracket. One with a key is a mapping of a single entry. -/
def flowItems : Nat → Bool → Reading (List Node)
  | 0, _ => failure
  | fuel + 1, first => do
    if ← accept .flowSequenceEnd then return []
    if !first then
      if !(← accept .comma) then failure
      if ← accept .flowSequenceEnd then return []
    let item ← if ← accept .key then flowPair fuel else node fuel false false
    return item :: (← flowItems fuel false)

/-- The single entry of a mapping without brackets. What stands in the place of a missing key
is passed over. -/
def flowPair : Nat → Reading Node
  | 0 => failure
  | fuel + 1 => do
    let missing ← nextIn [.value, .comma, .flowSequenceEnd]
    let key ← nodeUnless fuel [.value, .comma, .flowSequenceEnd] false false
    if missing then advance
    let value ←
      if ← accept .value then nodeUnless fuel [.comma, .flowSequenceEnd] false false
      else pure .empty
    return .mapping none [(key, value)]

/-- The entries up to the closing bracket. -/
def flowEntries : Nat → Bool → Reading (List (Node × Node))
  | 0, _ => failure
  | fuel + 1, first => do
    if ← accept .flowMappingEnd then return []
    if !first then
      if !(← accept .comma) then failure
      if ← accept .flowMappingEnd then return []
    let entry ←
      if ← accept .key then
        let key ← nodeUnless fuel [.value, .comma, .flowMappingEnd] false false
        let value ←
          if ← accept .value then nodeUnless fuel [.comma, .flowMappingEnd] false false
          else pure .empty
        pure (key, value)
      else
        let key ← node fuel false false
        pure (key, .empty)
    return entry :: (← flowEntries fuel false)

end

/-- Reads the lines before a document: whether there are any, and what they say of handles.
`version` says whether the version was given. -/
def directives : List Token → Bool → List (String × String) →
    Option (Bool × List (String × String) × List Token)
  | .version major minor :: rest, version, families =>
    if version || major != 1 || (minor != 1 && minor != 2) then none
    else (directives rest true families).map fun r => (true, r.2)
  | .family handle begins :: rest, version, families =>
    if (families.lookup handle).isSome then none
    else (directives rest version ((handle, begins) :: families)).map fun r => (true, r.2)
  | rest, _, families => some (false, families, rest)

/-- What handles stand for if no line says otherwise. -/
def commonFamilies : List (String × String) :=
  [("!", "!"), ("!!", "tag:yaml.org,2002:")]

/-- The node of a document. Behind a line that begins it there may be none. -/
def root (fuel : Nat) (marked : Bool) : Reading Node := do
  if marked then
    let t ← peek
    if t.isNone || t = some .documentStart || t = some .documentEnd then return .empty
  node fuel true false

/-- A document and the end of the text. -/
def document (fuel : Nat) : Reading Node := do
  let s ← get
  let (lines, families, tokens) ← (directives s.tokens false [] :
    Option (Bool × List (String × String) × List Token))
  set { s with tokens := tokens, families := families ++ commonFamilies }
  let marked ← accept .documentStart
  if lines && !marked then failure
  let n ← root fuel marked
  let rest := (← get).tokens.dropWhile (· = .documentEnd)
  if rest.isEmpty then return n
  failure

end Reading

namespace Document

/-- Reads a document from tokens. -/
def ofTokens? (tokens : List Token) : Option Document :=
  if tokens.isEmpty then none
  else
    ((Reading.document (3 * tokens.length + 4)).run ⟨tokens, [], [], 0, []⟩).map
      fun (root, s) => ⟨root, s.named⟩

/-- Reads a document from its characters. -/
def parse? (text : List Char) : Option Document := do
  ofTokens? (← tokens? (← normalText? text))

end Document

end Halyard.Yaml

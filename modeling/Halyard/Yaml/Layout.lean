/-
# Layout

How a document becomes tokens. Indentation outside brackets opens and closes
collections, and a scalar or a bracket that a colon follows becomes a key: the
token for that goes in front of it once the colon is found. A key like this has
to end on its line, within 1024 bytes.

Key definitions: `KeyPlace`, `Layout`, `Layout.step?`, `tokens?`.
-/
import Halyard.Yaml.Token

namespace Halyard.Yaml

/-- Where a key may have begun: the number of tokens before it, its place, and whether there
has to be one. -/
structure KeyPlace where
  index : Nat
  place : Place
  required : Bool
deriving DecidableEq

/-- What the reader of tokens carries along: the tokens, latest first, and their number; the
columns of the open collections outside brackets, innermost first; for each level of brackets
where a key may have begun, innermost first; and whether a key may begin next. -/
structure Layout where
  cursor : Cursor
  tokens : List Token
  count : Nat
  columns : List Nat
  outer : Option KeyPlace
  keys : List (Option KeyPlace)
  keyAllowed : Bool
deriving DecidableEq

namespace Layout

/-- The beginning of a document. -/
def start (text : List Char) : Layout where
  cursor := ⟨text, .start⟩
  tokens := []
  count := 0
  columns := []
  outer := none
  keys := []
  keyAllowed := true

/-- Whether the reader is inside brackets. -/
def inFlow (s : Layout) : Bool :=
  !s.keys.isEmpty

/-- How far a scalar is indented at least. -/
def leastIndent (s : Layout) : Nat :=
  (s.columns.head?.map (· + 1)).getD 0

/-- Where a key may have begun on the present level. -/
def currentKey (s : Layout) : Option KeyPlace :=
  s.keys.headD s.outer

/-- Changes where a key may have begun on the present level. -/
def setKey (s : Layout) (k : Option KeyPlace) : Layout :=
  match s.keys with
  | [] => { s with outer := k }
  | _ :: rest => { s with keys := k :: rest }

/-- Adds a token. -/
def emit (s : Layout) (t : Token) : Layout :=
  { s with tokens := t :: s.tokens, count := s.count + 1 }

/-- Inserts a token behind the first `index` ones. -/
def insert (s : Layout) (index : Nat) (t : Token) : Layout :=
  let after := s.count - index
  { s with
    tokens := s.tokens.take after ++ t :: s.tokens.drop after
    count := s.count + 1 }

/-- Goes on by some ASCII characters of a line. -/
def advance (s : Layout) (n : Nat) : Layout :=
  { s with cursor := s.cursor.advance n }

/-- Goes past white space and comments. Outside brackets a tab does not indent a key, and a
key may begin on each new line. -/
def skip (inFlow inComment allowed : Bool) (place : Place) : List Char → Bool × Cursor
  | [] => (allowed, ⟨[], place⟩)
  | c :: cs =>
    let next := place.after c
    if isBreak c then skip inFlow false (allowed || !inFlow) next cs
    else if inComment then skip inFlow true allowed next cs
    else if c = ' ' || (c = orderMark && place.column = 0) ||
        (c = '\t' && (inFlow || !allowed)) then
      skip inFlow false allowed next cs
    else if c = '#' then skip inFlow true allowed next cs
    else (allowed, ⟨c :: cs, place⟩)

/-- Goes to the next token. -/
def toToken (s : Layout) : Layout :=
  let (allowed, cursor) := skip s.inFlow false s.keyAllowed s.cursor.place s.cursor.rest
  { s with keyAllowed := allowed, cursor := cursor }

/-- How many bytes a key may have. -/
def keyLimit : Nat := 1024

/-- Gives up a key that went on too far, unless it is required. -/
def keepKey? (here : Place) : Option KeyPlace → Option (Option KeyPlace)
  | none => some none
  | some k =>
    if k.place.line < here.line || k.place.bytes + keyLimit < here.bytes then
      if k.required then none else some none
    else some (some k)

/-- Gives up the keys that went on too far, outside brackets and on the present level. Those of
the levels between are never required, so they can wait until their level is the present one. -/
def dropStale? (s : Layout) : Option Layout := do
  let outer ← keepKey? s.cursor.place s.outer
  let keys ← match s.keys with
    | [] => some []
    | k :: rest => (keepKey? s.cursor.place k).map (· :: rest)
  return { s with outer := outer, keys := keys }

/-- Gives up the key that may have begun on the present level, unless it is required. -/
def dropKey? (s : Layout) : Option Layout :=
  if (s.currentKey.map (·.required)).getD false then none else some (s.setKey none)

/-- Notes that a key may begin here. -/
def noteKey? (s : Layout) : Option Layout :=
  if s.keyAllowed then
    let required := !s.inFlow && s.columns.head? = some s.cursor.place.column
    (s.dropKey?).map (·.setKey (some ⟨s.count, s.cursor.place, required⟩))
  else some s

/-- Sets whether a key may begin next. -/
def allow (s : Layout) (allowed : Bool) : Layout :=
  { s with keyAllowed := allowed }

/-- Closes the collections that are indented further than to `column`. -/
def closeTo (column : Nat) (s : Layout) : List Nat → Layout
  | [] => { s with columns := [] }
  | c :: rest =>
    if column < c then closeTo column (s.emit .blockEnd) rest
    else { s with columns := c :: rest }

/-- Closes the collections that end before a token outside brackets. -/
def unroll (s : Layout) : Layout :=
  if s.inFlow then s else closeTo s.cursor.place.column s s.columns

/-- Closes all collections outside brackets. -/
def unrollAll (s : Layout) : Layout :=
  if s.inFlow then s
  else
    { s with
      tokens := s.columns.map (fun _ => .blockEnd) ++ s.tokens
      count := s.columns.length + s.count
      columns := [] }

/-- Opens a collection at a column, behind the first `index` tokens, if it is indented
further than the open ones. -/
def roll (s : Layout) (column index : Nat) (t : Token) : Layout :=
  if s.inFlow || column < s.leastIndent then s
  else { s.insert index t with columns := column :: s.columns }

/-- Opens a collection here. -/
def rollHere (s : Layout) (t : Token) : Layout :=
  s.roll s.cursor.place.column s.count t

/-- Takes the mark of a dash, a question or a colon outside brackets, where a key may begin. -/
def openHere? (s : Layout) (t : Token) : Option Layout :=
  if s.inFlow then some s else if s.keyAllowed then some (s.rollHere t) else none

/-- A line about the document. -/
def directive? (s : Layout) : Option Layout := do
  let s ← s.unrollAll.dropKey?
  let (token, cursor) ← Token.directive? (s.cursor.advance 1)
  return { s.emit token with cursor := cursor, keyAllowed := false }

/-- The mark at the beginning or the end of a document. -/
def marker? (s : Layout) (t : Token) : Option Layout := do
  let s ← s.unrollAll.dropKey?
  return ((s.allow false).advance 3).emit t

/-- An opening bracket. -/
def openBracket? (s : Layout) (t : Token) : Option Layout := do
  let s ← s.noteKey?
  return ({ s with keys := none :: s.keys, keyAllowed := true }.advance 1).emit t

/-- A closing bracket. -/
def closeBracket? (s : Layout) (t : Token) : Option Layout := do
  let s ← s.dropKey?
  return ({ s with keys := s.keys.tail, keyAllowed := false }.advance 1).emit t

/-- A comma. -/
def comma? (s : Layout) : Option Layout := do
  let s ← s.dropKey?
  return ((s.allow true).advance 1).emit .comma

/-- A dash before an item. -/
def dash? (s : Layout) : Option Layout := do
  let s ← (← s.openHere? .blockSequence).dropKey?
  return ((s.allow true).advance 1).emit .dash

/-- A question mark before a key. -/
def question? (s : Layout) : Option Layout := do
  let s ← (← s.openHere? .blockMapping).dropKey?
  return ((s.allow (!s.inFlow)).advance 1).emit .key

/-- A colon before a value. -/
def colon? (s : Layout) : Option Layout := do
  let s ← match s.currentKey with
    | some k =>
      let s := (s.insert k.index .key).roll k.place.column k.index .blockMapping
      some ((s.setKey none).allow false)
    | none => (s.openHere? .blockMapping).map fun s => s.allow (!s.inFlow)
  return (s.advance 1).emit .value

/-- An alias or an anchor. -/
def name? (s : Layout) (t : String → Token) : Option Layout := do
  let s ← s.noteKey?
  let (name, cursor) ← Token.name? (s.cursor.advance 1)
  return { s.emit (t name) with cursor := cursor, keyAllowed := false }

/-- A tag. -/
def tag? (s : Layout) : Option Layout := do
  let s ← s.noteKey?
  let (token, cursor) ← Token.tag? s.inFlow (s.cursor.advance 1)
  return { s.emit token with cursor := cursor, keyAllowed := false }

/-- A block of lines. -/
def block? (s : Layout) (literal : Bool) : Option Layout := do
  let s ← s.dropKey?
  let (header, rest) ← BlockHeader.read? s.cursor.rest.tail
  let cursor ← Cursor.finishLine? ⟨rest, s.cursor.place⟩
  let indent := header.indent.map (s.leastIndent - 1 + ·)
  let (b, cursor) ←
    Block.read? literal (max 1 s.leastIndent) indent 0 false .start cursor.place cursor.rest
  let style := if literal then Style.literal else .folded
  return { s.emit (.scalar (String.ofList (b.finish header.chomp)) style) with
    cursor := cursor, keyAllowed := true }

/-- A scalar between quotes. -/
def quoted? (s : Layout) (quote : Char) : Option Layout := do
  let s ← s.noteKey?
  let c := s.cursor.advance 1
  let (text, cursor) ← Yaml.quoted? quote [] .none .text c.place c.rest
  return { s.emit (.scalar (String.ofList text) .quoted) with
    cursor := cursor, keyAllowed := false }

/-- A scalar without quotes. -/
def plain? (s : Layout) : Option Layout := do
  let s ← s.noteKey?
  let (text, broken, cursor) ←
    Yaml.plain? s.inFlow s.leastIndent [] .none s.cursor.place s.cursor.rest
  return { s.emit (.scalar (String.ofList text) .plain) with
    cursor := cursor, keyAllowed := broken }

/-- Whether a scalar without quotes may begin with the character. -/
def startsPlain (inFlow : Bool) (c : Char) (cs : List Char) : Bool :=
  if c = '-' then !(cs.head?.map isGap).getD false
  else if c = '?' || c = ':' then !inFlow && !gapNext cs
  else !(isGap c || isFlowMark c || c = singleQuote ||
    ['#', '&', '*', '!', '|', '>', '"', '%', '@', Char.ofNat 0x60].contains c)

/-- Reads the token that begins with `c`. -/
def token? (s : Layout) (c : Char) (cs : List Char) : Option Layout :=
  let here := s.cursor.place
  if here.column = 0 && c = '%' then s.directive?
  else if isMarker '-' here (c :: cs) then s.marker? .documentStart
  else if isMarker '.' here (c :: cs) then s.marker? .documentEnd
  else if c = '[' then s.openBracket? .flowSequence
  else if c = '\x7b' then s.openBracket? .flowMapping
  else if c = ']' then s.closeBracket? .flowSequenceEnd
  else if c = '\x7d' then s.closeBracket? .flowMappingEnd
  else if c = ',' then s.comma?
  else if c = '-' && gapNext cs then s.dash?
  else if c = '?' && (s.inFlow || gapNext cs) then s.question?
  else if c = ':' && (s.inFlow || gapNext cs) then s.colon?
  else if c = '*' then s.name? .alias
  else if c = '&' then s.name? .anchor
  else if c = '!' then s.tag?
  else if c = '|' && !s.inFlow then s.block? true
  else if c = '>' && !s.inFlow then s.block? false
  else if c = singleQuote || c = '"' then s.quoted? c
  else if startsPlain s.inFlow c cs then s.plain?
  else none

/-- Reads the next token; none is left at the end of the text. -/
def step? (s : Layout) : Option (Layout × Bool) := do
  let s ← s.toToken.dropStale?
  match s.cursor.rest with
  | [] => return (← s.unrollAll.dropKey?, true)
  | c :: cs => return (← s.unroll.token? c cs, false)

/-- Reads all tokens. `fuel` bounds their number. -/
def run? : Nat → Layout → Option (List Token)
  | 0, _ => none
  | fuel + 1, s => do
    let (s, ended) ← s.step?
    if ended then return s.tokens.reverse
    run? fuel s

end Layout

/-- The tokens of a text in normal form. -/
def tokens? (text : List Char) : Option (List Token) :=
  Layout.run? (text.length + 1) (.start text)

end Halyard.Yaml

/-
# Scalars

The texts of a document: without quotes, between single or double quotes, or as a
block of lines. Where a line is broken inside the first three, one break becomes a
space and each further one a line feed; the breaks that are not line feeds stay.

Key definitions: `Style`, `Gap`, `plain?`, `quoted?`, `Block.read?`.
-/
import Halyard.Json.Plain
import Halyard.Yaml.Place

namespace Halyard.Yaml

/-- How a scalar is written. -/
inductive Style where
  | plain
  | quoted
  | literal
  | folded
deriving DecidableEq

/-- White space inside a scalar, latest first: spaces before a break, the first break unless
it was escaped, and the further breaks. -/
structure Gap where
  spaces : List Char
  broken : Bool
  first : Option Char
  more : List Char
deriving DecidableEq

namespace Gap

/-- No white space. -/
def none : Gap := ⟨[], false, .none, []⟩

/-- An escaped line break. -/
def escaped : Gap := ⟨[], true, .none, []⟩

/-- Whether there is any white space. -/
def isSome (g : Gap) : Bool :=
  g.broken || !g.spaces.isEmpty

/-- Adds a character. Spaces around breaks do not count. -/
def push (g : Gap) (c : Char) : Gap :=
  if isBreak c then
    if g.broken then { g with more := c :: g.more } else ⟨[], true, some c, []⟩
  else if g.broken then g
  else { g with spaces := c :: g.spaces }

/-- What the white space stands for, latest first. -/
def folded (g : Gap) : List Char :=
  if g.broken then
    match g.first with
    | some '\n' => if g.more.isEmpty then [' '] else g.more
    | first => g.more ++ first.toList
  else g.spaces

end Gap

/-- Reads on in a scalar without quotes: its text, whether a line was broken behind it, and
where it ends. Outside flow style its lines are indented by at least `indent`. -/
def plain? (inFlow : Bool) (indent : Nat) (text : List Char) (gap : Gap) (place : Place) :
    List Char → Option (List Char × Bool × Cursor)
  | [] => some (text.reverse, gap.broken, ⟨[], place⟩)
  | c :: cs =>
    if isGap c || isBreak c then
      if gap.broken && c = '\t' && place.column < indent then none
      else plain? inFlow indent text (gap.push c) (place.after c) cs
    else
      let outside := !inFlow && place.column < indent
      if gap.isSome && (outside || c = '#' || atMarker place (c :: cs)) then
        some (text.reverse, gap.broken, ⟨c :: cs, place⟩)
      else if inFlow && c = ':' && (cs.head?.map fun d => isFlowMark d || d = '?').getD false then
        none
      else if (c = ':' && gapNext cs) || (inFlow && isFlowMark c) then
        some (text.reverse, gap.broken, ⟨c :: cs, place⟩)
      else plain? inFlow indent (c :: gap.folded ++ text) .none (place.after c) cs

/-- The character that an escape with one letter stands for. -/
def escapeLetter? (c : Char) : Option Char :=
  ([('0', 0x00), ('a', 0x07), ('b', 0x08), ('t', 0x09), ('\t', 0x09), ('n', 0x0A), ('v', 0x0B),
    ('f', 0x0C), ('r', 0x0D), ('e', 0x1B), (' ', 0x20), ('"', 0x22), ('/', 0x2F), ('\\', 0x5C),
    ('N', 0x85), ('_', 0xA0), ('L', 0x2028), ('P', 0x2029)].find? fun e => e.1 = c).map
    fun e => Char.ofNat e.2

/-- How many digits an escape by code point has. -/
def escapeLength? (c : Char) : Option Nat :=
  if c = 'x' then some 2 else if c = 'u' then some 4 else if c = 'U' then some 8 else none

/-- Where a reader stands between quotes: in the text, behind the mark of an escape, in the
digits of one, or before the second of two quotes. -/
inductive QuoteState where
  | text
  | escape
  | digits (left value : Nat)
  | twin
deriving DecidableEq

/-- Reads on between quotes: the text, and what stands behind the closing quote. -/
def quoted? (quote : Char) (text : List Char) (gap : Gap) (state : QuoteState) (place : Place) :
    List Char → Option (List Char × Cursor)
  | [] => none
  | c :: cs =>
    let next := place.after c
    match state with
    | .twin => quoted? quote text gap .text next cs
    | .escape =>
      if isBreak c then quoted? quote text .escaped .text next cs
      else
        match escapeLetter? c, escapeLength? c with
        | some d, _ => quoted? quote (d :: text) gap .text next cs
        | none, some n => quoted? quote text gap (.digits n 0) next cs
        | none, none => none
    | .digits left value =>
      match Json.digitValue? c with
      | none => none
      | some d =>
        let value := value * 16 + d
        if 1 < left then quoted? quote text gap (.digits (left - 1) value) next cs
        else if value.isValidChar then quoted? quote (Char.ofNat value :: text) gap .text next cs
        else none
    | .text =>
      let read := gap.folded ++ text
      if isGap c || isBreak c then quoted? quote text (gap.push c) .text next cs
      else if atMarker place (c :: cs) then none
      else if c = quote then
        if quote = singleQuote && cs.head? = some quote then
          quoted? quote (c :: read) .none .twin next cs
        else some (read.reverse, ⟨cs, next⟩)
      else if quote = '"' && c = '\\' then quoted? quote read .none .escape next cs
      else quoted? quote (c :: read) .none .text next cs

/-- What becomes of the breaks at the end of a block of lines. -/
inductive Chomp where
  | strip
  | clip
  | keep
deriving DecidableEq

/-- The marks behind the one that begins a block of lines: what becomes of the breaks at its
end, and how far it is indented further, if that is given. -/
structure BlockHeader where
  chomp : Chomp
  indent : Option Nat
deriving DecidableEq

namespace BlockHeader

/-- Reads the sign for the breaks at the end. -/
def chomp? : List Char → Option (Chomp × List Char)
  | '+' :: cs => some (.keep, cs)
  | '-' :: cs => some (.strip, cs)
  | _ => none

/-- Reads the digit for the indentation, which is not zero. -/
def indent? : List Char → Option (Option Nat × List Char)
  | c :: cs =>
    if c = '0' then none
    else if c.isDigit then some (some (c.toNat - 0x30), cs)
    else some (none, c :: cs)
  | [] => some (none, [])

/-- Reads the marks, in either order. -/
def read? (cs : List Char) : Option (BlockHeader × List Char) :=
  match chomp? cs with
  | some (chomp, cs) => (indent? cs).map fun (i, rest) => (⟨chomp, i⟩, rest)
  | none => (indent? cs).map fun (i, rest) =>
    match if i.isSome then chomp? rest else none with
    | some (chomp, rest) => (⟨chomp, i⟩, rest)
    | none => (⟨.clip, i⟩, rest)

end BlockHeader

/-- What was read of a block of lines, each part latest first: the text, the break behind its
last line, the breaks of empty lines after it, and whether that line began with white space. -/
structure Block where
  text : List Char
  last : Option Char
  empty : List Char
  spaced : Bool
deriving DecidableEq

namespace Block

/-- Nothing read. -/
def start : Block := ⟨[], none, [], false⟩

/-- Begins a line with a character. Unless the block is literal, a line feed between lines
that begin with text becomes a space, or nothing before empty lines. -/
def beginLine (b : Block) (literal : Bool) (c : Char) : Block :=
  let joined :=
    if !literal && b.last = some '\n' && !b.spaced && !isGap c then
      if b.empty.isEmpty then [' '] else []
    else b.last.toList
  ⟨c :: b.empty ++ joined ++ b.text, none, [], isGap c⟩

/-- The text with the breaks at its end that are kept. -/
def finish (b : Block) (chomp : Chomp) : List Char :=
  (match chomp with
    | .strip => b.text
    | .clip => b.last.toList ++ b.text
    | .keep => b.empty ++ b.last.toList ++ b.text).reverse

/-- Reads on in a block of lines. `indent` is how far its lines are indented, if that is known,
and otherwise `least` is the least it can be and `widest` the widest margin so far. -/
def read? (literal : Bool) (least : Nat) (indent : Option Nat) (widest : Nat) (inLine : Bool)
    (b : Block) (place : Place) : List Char → Option (Block × Cursor)
  | [] => some (b, ⟨[], place⟩)
  | c :: cs =>
    let next := place.after c
    if inLine then
      if isBreak c then read? literal least indent 0 false { b with last := some c } next cs
      else read? literal least indent widest true { b with text := c :: b.text } next cs
    else
      let inMargin := (indent.map fun i => place.column < i : Option Bool).getD true
      if inMargin && c = ' ' then
        read? literal least indent (max widest next.column) false b next cs
      else if inMargin && c = '\t' then none
      else if isBreak c then
        read? literal least indent widest false { b with empty := c :: b.empty } next cs
      else
        let found := indent.getD (max widest least)
        if place.column = found then
          read? literal least (some found) 0 true (b.beginLine literal c) next cs
        else some (b, ⟨c :: cs, place⟩)

end Block

end Halyard.Yaml

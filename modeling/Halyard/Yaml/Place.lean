/-
# Places in a document

The characters of a document, its line breaks, and where a reader stands in it.

Key definitions: `isBreak`, `normalText?`, `Place`, `Cursor`, `atMarker`.
-/

namespace Halyard.Yaml

/-- The single quotation mark. -/
def singleQuote : Char := Char.ofNat 0x27

/-- The mark that may stand at the beginning of a line without a meaning. -/
def orderMark : Char := Char.ofNat 0xFEFF

/-- Whether the character may stand in a document. -/
def isPrintable (c : Char) : Bool :=
  let n := c.toNat
  n = 0x09 || n = 0x0A || n = 0x0D || (0x20 ≤ n && n ≤ 0x7E) || n = 0x85 ||
    (0xA0 ≤ n && n ≤ 0xFFFD) || 0x10000 ≤ n

/-- The characters with the line breaks that scalars keep as line feeds written as such. -/
def normalBreaks : List Char → List Char
  | '\r' :: '\n' :: cs => '\n' :: normalBreaks cs
  | c :: cs => (if c = '\r' || c.toNat = 0x85 then '\n' else c) :: normalBreaks cs
  | [] => []

/-- The characters of a document in normal form, if all of them may stand in one. -/
def normalText? (cs : List Char) : Option (List Char) :=
  if cs.all isPrintable then some (normalBreaks cs) else none

/-- Whether the character ends a line. -/
def isBreak (c : Char) : Bool :=
  c = '\n' || c.toNat = 0x2028 || c.toNat = 0x2029

/-- Whether the character is a space or a tab. -/
def isGap (c : Char) : Bool :=
  c = ' ' || c = '\t'

/-- Whether the character belongs to flow style. -/
def isFlowMark (c : Char) : Bool :=
  [',', '[', ']', '\x7b', '\x7d'].contains c

/-- Whether the character may stand in a name. -/
def isNameChar (c : Char) : Bool :=
  c.isAlphanum || c = '_' || c = '-'

/-- Whether nothing, a space, a tab or a line break follows. -/
def gapNext : List Char → Bool
  | [] => true
  | c :: _ => isGap c || isBreak c

/-- Whether the line ends. -/
def lineEnds : List Char → Bool
  | [] => true
  | c :: _ => isBreak c

/-- Where a character stands: its line, and the characters and bytes before it on the line. -/
structure Place where
  line : Nat
  column : Nat
  bytes : Nat
deriving DecidableEq

namespace Place

/-- The beginning of a document. -/
def start : Place := ⟨0, 0, 0⟩

/-- The place after a character. -/
def after (p : Place) (c : Char) : Place :=
  if isBreak c then ⟨p.line + 1, 0, 0⟩ else ⟨p.line, p.column + 1, p.bytes + c.utf8Size⟩

end Place

/-- What is left to be read, and where it stands. -/
structure Cursor where
  rest : List Char
  place : Place
deriving DecidableEq

/-- Goes on by some ASCII characters of a line. -/
def Cursor.advance (c : Cursor) (n : Nat) : Cursor :=
  ⟨c.rest.drop n, ⟨c.place.line, c.place.column + n, c.place.bytes + n⟩⟩

/-- Goes on to the end of a line whose last part holds at most a comment, and past it. -/
def Cursor.finishLine? (c : Cursor) : Option Cursor :=
  let tail := c.rest.dropWhile isGap
  let tail := if tail.head? = some '#' then tail.dropWhile fun c => !isBreak c else tail
  match tail with
  | [] => some ⟨[], c.place⟩
  | d :: ds => if isBreak d then some ⟨ds, c.place.after d⟩ else none

/-- Whether three of the character stand alone at the beginning of a line. -/
def isMarker (mark : Char) (place : Place) (cs : List Char) : Bool :=
  place.column = 0 && cs.take 3 = [mark, mark, mark] && gapNext (cs.drop 3)

/-- Whether a document begins or ends here. -/
def atMarker (place : Place) (cs : List Char) : Bool :=
  isMarker '-' place cs || isMarker '.' place cs

end Halyard.Yaml

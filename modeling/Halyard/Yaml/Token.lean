/-
# Tokens

The marks, names, tags and scalars that a document is made of. A tag is a handle,
which stands for what all tags of a family begin with, and a suffix.

Key definitions: `Token`, `name?`, `tag?`, `directive?`.
-/
import Halyard.Text.Percent
import Halyard.Yaml.Scalar

namespace Halyard.Yaml

open Text

/-- What a document is made of. -/
inductive Token where
  | version (major minor : Nat)
  | family (handle begins : String)
  | documentStart
  | documentEnd
  | blockSequence
  | blockMapping
  | blockEnd
  | flowSequence
  | flowSequenceEnd
  | flowMapping
  | flowMappingEnd
  | dash
  | comma
  | key
  | value
  | alias (name : String)
  | anchor (name : String)
  | tag (handle suffix : String)
  | scalar (text : String) (style : Style)
deriving DecidableEq

namespace Token

/-- Whether the character may stand behind the name of an anchor. -/
def endsName (cs : List Char) : Bool :=
  gapNext cs ||
    (cs.head?.map fun c =>
      ['?', ':', ',', ']', '\x7d', '%', '@', Char.ofNat 0x60].contains c).getD false

/-- Reads the name of an anchor. -/
def name? (c : Cursor) : Option (String × Cursor) :=
  let name := c.rest.takeWhile isNameChar
  let after := c.advance name.length
  if name.isEmpty || !endsName after.rest then none else some (String.ofList name, after)

/-- Whether the character may stand in a tag, or in one between angle brackets. -/
def isTagChar (bracketed : Bool) (c : Char) : Bool :=
  isNameChar c || c = singleQuote ||
    [';', '/', '?', ':', '@', '&', '=', '+', '$', '.', '%', '!', '~', '*', '(', ')'].contains c ||
    (bracketed && [',', '[', ']'].contains c)

/-- Whether two hexadecimal digits follow each percent sign. -/
def escapesComplete : List Char → Bool
  | [] => true
  | '%' :: a :: b :: cs => (hexValue? a).isSome && (hexValue? b).isSome && escapesComplete cs
  | c :: cs => c != '%' && escapesComplete cs

/-- Reads part of a tag. Its percent signs are resolved. -/
def tagText? (bracketed : Bool) (c : Cursor) : Option (List Char × Cursor) := do
  let written := c.rest.takeWhile (isTagChar bracketed)
  if !escapesComplete written then none
  return (← Utf8.decode? (Percent.decodeBytes written), c.advance written.length)

/-- Reads a handle, whose first mark was read: a name, and the mark behind it if there is one. -/
def handle (c : Cursor) : List Char × Cursor :=
  let name := c.rest.takeWhile isNameChar
  let after := c.advance name.length
  if after.rest.head? = some '!' then (name ++ ['!'], after.advance 1) else (name, after)

/-- Reads a tag, whose first mark was read. -/
def tagParts? (c : Cursor) : Option (String × String × Cursor) := do
  if c.rest.head? = some '<' then
    let (suffix, after) ← tagText? true (c.advance 1)
    if suffix.isEmpty || after.rest.head? != some '>' then none
    return ("", String.ofList suffix, after.advance 1)
  let (handle, after) := handle c
  if handle.getLast? = some '!' then
    let (suffix, after) ← tagText? false after
    if suffix.isEmpty then none
    return (String.ofList ('!' :: handle), String.ofList suffix, after)
  let (suffix, after) ← tagText? false c
  if suffix.isEmpty then return ("", "!", after)
  return ("!", String.ofList suffix, after)

/-- Reads a tag, whose first mark was read. A gap follows it, or in flow style a comma. -/
def tag? (inFlow : Bool) (c : Cursor) : Option (Token × Cursor) := do
  let (handle, suffix, after) ← tagParts? c
  if gapNext after.rest || (inFlow && after.rest.head? = some ',') then
    return (.tag handle suffix, after)
  none

/-- Goes past spaces and tabs. -/
def skipGap (c : Cursor) : Cursor :=
  c.advance (c.rest.takeWhile isGap).length

/-- Reads part of a version, of at most nine digits. -/
def versionPart? (c : Cursor) : Option (Nat × Cursor) := do
  let digits := c.rest.takeWhile Char.isDigit
  if digits.isEmpty || 9 < digits.length then none
  return (← number? 10 digits, c.advance digits.length)

/-- Reads what a version line says. -/
def version? (c : Cursor) : Option (Token × Cursor) := do
  let (major, c) ← versionPart? (skipGap c)
  if c.rest.head? != some '.' then none
  let (minor, c) ← versionPart? (c.advance 1)
  return (.version major minor, c)

/-- Reads what a line about a family of tags says. -/
def family? (c : Cursor) : Option (Token × Cursor) := do
  let c := skipGap c
  if c.rest.head? != some '!' then none
  let (name, after) := handle (c.advance 1)
  if !name.isEmpty && name.getLast? != some '!' then none
  if !(after.rest.head?.map isGap).getD false then none
  let (begins, after) ← tagText? true (skipGap after)
  if begins.isEmpty || !gapNext after.rest then none
  return (.family (String.ofList ('!' :: name)) (String.ofList begins), after)

/-- Reads a line about the document, whose first mark was read. -/
def directive? (c : Cursor) : Option (Token × Cursor) := do
  let name := c.rest.takeWhile isNameChar
  let after := c.advance name.length
  if !gapNext after.rest then none
  let (token, after) ←
    if name = "YAML".toList then version? after
    else if name = "TAG".toList then family? after
    else none
  return (token, ← after.finishLine?)

end Token

end Halyard.Yaml

/-
# Event streams

The `text/event-stream` framing, read as the bytes arrive. A line ends with a
line feed and loses one carriage return before it. A field line adds to the
draft of an event, a line that starts with a colon is a comment, and an empty
line completes the event; a draft without data is dropped. The reader takes
one byte at a time, so where a chunk ends makes no difference.

Key definitions: `Event`, `Draft.readLine`, `EventStream.step`,
`EventStream.feed`.
-/
import Halyard.Text.Utf8

namespace Halyard.Push

open Text

/-- A completed event. -/
structure Event where
  id : Option String
  name : Option String
  data : String
deriving DecidableEq

/-- The type of an event, which is `message` unless it says otherwise. -/
def Event.kind (e : Event) : String :=
  e.name.getD "message"

/-- What was read of an event so far. -/
structure Draft where
  id : Option String
  name : Option String
  data : List String
deriving DecidableEq

namespace Draft

/-- The draft of which nothing was read. -/
def empty : Draft := ⟨none, none, []⟩

/-- The event that an empty line completes. -/
def event? (d : Draft) : Option Event :=
  if d.data.isEmpty then none else some ⟨d.id, d.name, String.intercalate "\n" d.data⟩

/-- Adds a field. Fields of other names have no meaning. -/
def addField (d : Draft) (field value : String) : Draft :=
  if field = "id" then { d with id := some value }
  else if field = "event" then { d with name := some value }
  else if field = "data" then { d with data := d.data ++ [value] }
  else d

/-- A value without the one space that may precede it. -/
def fieldValue : List Char → List Char
  | ' ' :: rest => rest
  | value => value

/-- Takes in a line, with the event it completes. -/
def readLine (d : Draft) (line : List Char) : Draft × Option Event :=
  match line with
  | [] => (empty, d.event?)
  | ':' :: _ => (d, none)
  | _ =>
    let field := line.takeWhile (· != ':')
    let value := fieldValue ((line.dropWhile (· != ':')).drop 1)
    (d.addField (String.ofList field) (String.ofList value), none)

end Draft

/-- A stream that is being read: the bytes of the unfinished line, latest first, and
the draft that it will add to. -/
structure EventStream where
  line : List UInt8
  draft : Draft
deriving DecidableEq

namespace EventStream

/-- The stream before its first byte. -/
def start : EventStream := ⟨[], .empty⟩

/-- The characters of a line whose bytes are given latest first. -/
def lineText : List UInt8 → List Char
  | 0x0D :: rest => Utf8.decodeLossy rest.reverse
  | line => Utf8.decodeLossy line.reverse

/-- Takes in a byte, with the event it completes. -/
def step (s : EventStream) (b : UInt8) : EventStream × Option Event :=
  if b = 0x0A then
    let (draft, event) := s.draft.readLine (lineText s.line)
    (⟨[], draft⟩, event)
  else (⟨b :: s.line, s.draft⟩, none)

/-- Takes in a chunk, with the events it completes. -/
def feed (s : EventStream) : List UInt8 → EventStream × List Event
  | [] => (s, [])
  | b :: bs =>
    let (s, event) := s.step b
    let (s, events) := s.feed bs
    (s, event.toList ++ events)

end EventStream

end Halyard.Push

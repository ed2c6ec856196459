/-
# Paths of URLs

A path is a list of segments. Dots in it are resolved as it is read, and what may
not stand for itself is percent encoded. A segment that names a drive is not left
upwards. In a file URL the drive is the first segment, is written with a colon,
and takes the place of a host.

Key definitions: `SchemeKind`, `UrlPath`, `Walk`, `walk`, `segmentsOf`.
-/
import Halyard.Text.Percent
import Halyard.Text.Split

namespace Halyard.Text

/-- What the scheme of a URL decides about its form. -/
inductive SchemeKind where
  | web
  | file
  | other
deriving DecidableEq

/-- The path of a URL. -/
inductive UrlPath where
  | fixed (text : List Char)
  | segments (parts : List (List Char))
deriving DecidableEq

namespace Url

/-- Whether the scheme is one that browsers know. -/
def isSpecial (kind : SchemeKind) : Bool :=
  kind != .other

/-- What is encoded in a fragment. -/
def fragmentSet : List Char := [' ', '"', '<', '>', Char.ofNat 0x60]

/-- What is encoded in a path. -/
def pathSet : List Char := fragmentSet ++ ['#', '?', '\x7b', '\x7d']

/-- What is encoded in a single path segment. -/
def segmentSet (kind : SchemeKind) : List Char :=
  pathSet ++ ['/', '%'] ++ if isSpecial kind then ['\\'] else []

/-- Whether URLs ignore the character wherever it stands: tabs and line ends. -/
def isIgnored (c : Char) : Bool :=
  c = '\t' || c = '\n' || c = '\r'

/-- A text without the characters that URLs ignore. -/
def clean (s : List Char) : List Char :=
  s.filter fun c => !isIgnored c

/-- Whether the character separates segments. -/
def isSlash (kind : SchemeKind) (c : Char) : Bool :=
  c = '/' || (isSpecial kind && c = '\\')

/-- Whether a segment stands for the directory itself. -/
def isDot (s : List Char) : Bool :=
  let s := s.map Char.toLower
  s = ['.'] || s = ['%', '2', 'e']

/-- Whether a segment stands for the directory above. -/
def isDoubleDot (s : List Char) : Bool :=
  let s := s.map Char.toLower
  s = ['.', '.'] || s = ['.', '%', '2', 'e'] || s = ['%', '2', 'e', '.']
    || s = ['%', '2', 'e', '%', '2', 'e']

/-- Whether a segment names a drive: a letter and a colon or a bar. -/
def isDrive : List Char → Bool
  | [a, b] => a.isAlpha && (b = ':' || b = '|')
  | _ => false

/-- Whether a segment names a drive, or goes on behind one with a backslash. -/
def beginsWithDrive (s : List Char) : Bool :=
  isDrive (s.take 2) && ((s.drop 2).head?.map (· == '\\')).getD true

/-- Splits a segment behind a drive that ignored characters separate from the rest. -/
def cutDrive? (raw : List Char) : Option (List Char × List Char) :=
  match raw.dropWhile isIgnored with
  | [] => none
  | a :: cs =>
    match cs.dropWhile isIgnored with
    | ':' :: t :: cs =>
      let rest := clean cs
      if a.isAlpha && isIgnored t && !rest.isEmpty then some ([a, ':'], rest) else none
    | _ => none

/-- What has been read of a path: the segments, latest first, and whether the first of
them is a drive that takes the place of a host. -/
structure Walk where
  done : List (List Char)
  drive : Bool
deriving DecidableEq

namespace Walk

/-- Where a path begins. -/
def start : Walk := ⟨[], false⟩

/-- Adds a segment. -/
def push (w : Walk) (s : List Char) : Walk :=
  { w with done := s :: w.done }

/-- Leaves the last segment upwards, unless it names a drive. -/
def up (w : Walk) : Walk :=
  match w.done with
  | [] => w
  | s :: rest => if beginsWithDrive s then w else { w with done := rest }

/-- Adds a segment that is not made of dots. -/
def enter (kind : SchemeKind) (w : Walk) (s : List Char) : Walk :=
  if kind = .file && w.done.isEmpty && isDrive s then ⟨[s.take 1 ++ [':']], true⟩ else w.push s

/-- The segments in order. A file URL has no empty ones at the front. -/
def segments (kind : SchemeKind) (w : Walk) : List (List Char) :=
  let parts := w.done.reverse
  if kind = .file && !parts.isEmpty then
    match parts.dropWhile List.isEmpty with
    | [] => [[]]
    | rest => rest
  else parts

end Walk

/-- Walks along segments; `reserved` is what is encoded in them. -/
def walk (kind : SchemeKind) (reserved : List Char) (w : Walk) : List (List Char) → Walk
  | [] => w
  | raw :: rest =>
    let text := Percent.encode reserved (clean raw)
    let ended (w : Walk) : Walk := if rest.isEmpty then w.push [] else w
    match if kind = .file && w.done.isEmpty then cutDrive? raw else none with
    | some (drive, more) =>
      walk kind reserved ((w.push drive).push (Percent.encode reserved more)) rest
    | none =>
      if isDoubleDot text then walk kind reserved (ended w.up) rest
      else if isDot text then walk kind reserved (ended w) rest
      else walk kind reserved (w.enter kind text) rest

/-- The segments of a text behind the first slash of a path. -/
def segmentsOf (kind : SchemeKind) (s : List Char) : List (List Char) :=
  (walk kind pathSet .start (splitAtEach (isSlash kind) s)).segments kind

end Url

end Halyard.Text

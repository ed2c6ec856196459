/-
# URLs

URLs in normal form, as browsers understand them. The scheme and the host of a
web URL are in lower case, a port that the scheme implies is left out, dots in
the path are resolved, and what may not stand for itself is percent encoded.
A URL whose scheme is not followed by a slash has a fixed path, to which
nothing can be appended.

Key definitions: `Url`, `Url.parse?`, `Url.text`, `Url.withSegment?`,
`Url.withQuery`.
-/
import Halyard.Text.Domain.Name
import Halyard.Text.Url.Address
import Halyard.Text.Url.Path

namespace Halyard.Text

/-- Who is addressed: user information, host and port. -/
structure Authority where
  user : List Char
  password : List Char
  host : List Char
  port : Option Nat
deriving DecidableEq

/-- A URL in normal form. -/
structure Url where
  scheme : List Char
  authority : Option Authority
  path : UrlPath
  query : Option (List Char)
  fragment : Option (List Char)
deriving DecidableEq

namespace Url

/-- The schemes of web URLs, with the ports that they imply. -/
def webSchemes : List (String × Nat) :=
  [("http", 80), ("https", 443), ("ws", 80), ("wss", 443), ("ftp", 21)]

/-- The kind of a scheme. -/
def kindOf (scheme : List Char) : SchemeKind :=
  if scheme = "file".toList then .file
  else if webSchemes.any fun s => s.1.toList = scheme then .web
  else .other

/-- The port that a scheme implies. -/
def impliedPort (scheme : List Char) : Option Nat :=
  (webSchemes.find? fun s => s.1.toList = scheme).map (·.2)

/-- What is encoded in user information. -/
def userSet : List Char := pathSet ++ ['/', ':', ';', '=', '@', '[', '\\', ']', '^', '|']

/-- What is encoded in a query. -/
def querySet (kind : SchemeKind) : List Char :=
  [' ', '"', '#', '<', '>'] ++ if isSpecial kind then [Char.ofNat 0x27] else []

/-- What may not stand in a host. -/
def forbiddenInHost (c : Char) : Bool :=
  ['\x00', '\t', '\n', '\r', ' ', '#', '/', ':', '<', '>', '?', '@', '[', '\\', ']', '^',
    '|'].contains c

/-- What may not stand in the host of a web URL. -/
def forbiddenInDomain (c : Char) : Bool :=
  forbiddenInHost c || c.toNat ≤ 0x1F || c = '%' || c = '\x7f'

/-- The host of a web URL: a domain name on the wire, or an address. -/
def domain? (s : List Char) : Option (List Char) := do
  let name ← Domain.wire? (Percent.decode s)
  if name.isEmpty || name.any forbiddenInDomain then none
  if endsInNumber name then ipv4? name else return name

/-- The host of a URL. -/
def host? (kind : SchemeKind) (s : List Char) : Option (List Char) :=
  match s with
  | '[' :: rest =>
    if rest.getLast? = some ']' then (ipv6? rest.dropLast).map ipv6Text else none
  | _ =>
    if isSpecial kind then domain? s
    else if s.any forbiddenInHost then none
    else some (Percent.encode [] s)

/-- Splits before the first colon outside brackets. -/
def cutHost (inBrackets : Bool) : List Char → List Char × List Char
  | [] => ([], [])
  | c :: cs =>
    if c = ':' && !inBrackets then ([], c :: cs)
    else
      let (host, rest) := cutHost (c = '[' || (inBrackets && c != ']')) cs
      (c :: host, rest)

/-- Reads a port, and gives what follows. No digits, or a port that the scheme implies, are
none. -/
def port? (scheme : List Char) : List Char → Option (Option Nat × List Char)
  | ':' :: cs => do
    let digits := cs.takeWhile Char.isDigit
    let rest := cs.drop digits.length
    let n ← number? 10 digits
    if 65535 < n || (rest.head?.map (· != '\\')).getD false then none
    return (if digits.isEmpty || impliedPort scheme = some n then none else some n, rest)
  | rest => some (none, rest)

/-- Reads user information, host and port, and gives what follows. `followed` says whether
anything stands behind them in the URL. -/
def authority? (scheme s : List Char) (followed : Bool) : Option (Authority × List Char) := do
  let kind := kindOf scheme
  let place := (s.reverse.takeWhile (· != '@')).reverse
  let info := s.take (s.length - place.length - 1)
  let (user, password) := cut (· = ':') info
  let password := password.getD []
  let (name, rest) := cutHost false place
  if name.isEmpty then
    let bare := info.isEmpty && place.length < s.length
    if isSpecial kind || !rest.isEmpty then none
    if !user.isEmpty || !password.isEmpty || (bare && followed) then none
  let host ← host? kind name
  let (port, rest) ← port? scheme rest
  return (⟨Percent.encode userSet user, Percent.encode userSet password, host, port⟩, rest)

/-- The path behind an authority. -/
def pathAfterHost (kind : SchemeKind) : List Char → List (List Char)
  | [] => if isSpecial kind then [[]] else []
  | c :: cs => segmentsOf kind (if isSlash kind c then cs else c :: cs)

/-- Reads an authority and the path behind it. -/
def located? (scheme s : List Char) (followed : Bool) : Option (Option Authority × UrlPath) := do
  let kind := kindOf scheme
  let front := s.takeWhile fun c => !isSlash kind c
  let tail := s.drop front.length
  let (a, rest) ← authority? scheme front (followed || !tail.isEmpty)
  return (some a, .segments (pathAfterHost kind (rest ++ tail)))

/-- Nobody in particular is addressed. -/
def nobody : Authority := ⟨[], [], [], none⟩

/-- The host of a file URL. The name of the own machine is left out. -/
def fileHost? (s : List Char) : Option (List Char) :=
  if s.isEmpty then some []
  else (host? .file s).map fun h => if h = "localhost".toList then [] else h

/-- Reads host and path of a file URL from the parts between slashes. -/
def filed? (parts : List (List Char)) : Option (Option Authority × UrlPath) :=
  let path (parts : List (List Char)) : Walk := walk .file pathSet .start parts
  let at? (host : List Char) (w : Walk) : Option (Option Authority × UrlPath) :=
    some (some { nobody with host := host }, .segments (w.segments .file))
  match parts.map clean, parts with
  | [] :: [] :: host :: _, _ :: _ :: raw :: rest =>
    if isDrive host then at? [] (path (raw :: rest))
    else
      match fileHost? host with
      | none => none
      | some [] => at? [] (path ([] :: rest))
      | some host =>
        let w := path (if rest.isEmpty then [[]] else rest)
        at? (if w.drive then [] else host) w
  | [] :: _ :: _, _ :: rest => at? [] (path rest)
  | _, _ => at? [] (path parts)

/-- Reads authority and path. -/
def hierarchy? (scheme raw : List Char) (followed : Bool) :
    Option (Option Authority × UrlPath) :=
  let s := clean raw
  match kindOf scheme with
  | .file => filed? (splitAtEach (isSlash .file) raw)
  | .web => located? scheme (s.dropWhile (isSlash .web)) followed
  | .other =>
    match s with
    | '/' :: '/' :: rest => located? scheme rest followed
    | '/' :: rest => some (none, .segments (segmentsOf .other rest))
    | _ => some (none, .fixed (Percent.encode [] s))

/-- Reads the name of a scheme. -/
def scheme? (s : List Char) : Option (List Char) :=
  if (s.head?.map Char.isAlpha).getD false &&
      s.all fun c => c.isAlphanum || c = '+' || c = '-' || c = '.'
  then some (s.map Char.toLower) else none

/-- A text without the control characters and spaces at its ends. -/
def stripped (s : List Char) : List Char :=
  let edge (c : Char) : Bool := c.toNat ≤ 0x20
  ((s.dropWhile edge).reverse.dropWhile edge).reverse

/-- Reads a URL that stands on its own. -/
def parse? (s : String) : Option Url := do
  let (name, some rest) := cut (· = ':') (stripped s.toList) | none
  let scheme ← scheme? (clean name)
  let (front, fragment) := cut (· = '#') rest
  let (front, query) := cut (· = '?') front
  let (authority, path) ← hierarchy? scheme front (query.isSome || fragment.isSome)
  return {
    scheme := scheme
    authority := authority
    path := path
    query := query.map fun q => Percent.encode (querySet (kindOf scheme)) (clean q)
    fragment := fragment.map fun f => Percent.encode fragmentSet (clean f) }

/-- User information, host and port as they are written. -/
def authorityText (a : Authority) : List Char :=
  let info :=
    if a.user.isEmpty && a.password.isEmpty then []
    else a.user ++ (if a.password.isEmpty then [] else ':' :: a.password) ++ ['@']
  info ++ a.host ++ (a.port.map fun p => ':' :: (toString p).toList).getD []

/-- A path as it is written. -/
def pathText (hasAuthority : Bool) : UrlPath → List Char
  | .fixed text => text
  | .segments parts =>
    let text := parts.flatMap fun p => '/' :: p
    if !hasAuthority && 1 < parts.length && parts.head? = some [] then ['/', '.'] ++ text else text

/-- Path and query as they are written, which is what a request names. -/
def target (u : Url) : String :=
  String.ofList (pathText u.authority.isSome u.path ++
    (u.query.map fun q => '?' :: q).getD [])

/-- The URL as it is written. -/
def text (u : Url) : String :=
  String.ofList (u.scheme ++ [':'] ++
    (u.authority.map fun a => ['/', '/'] ++ authorityText a).getD []) ++ u.target ++
    String.ofList ((u.fragment.map fun f => '#' :: f).getD [])

/-- The URL with one more path segment, unless its path is fixed. An empty last
segment is filled, and a segment of dots is left out. -/
def withSegment? (u : Url) (name : String) : Option Url :=
  match u.path with
  | .fixed _ => none
  | .segments parts =>
    if name = "." || name = ".." then some u
    else
      let kind := kindOf u.scheme
      let front := if parts.getLast? = some [] then parts.dropLast else parts
      let w := walk kind (segmentSet kind) ⟨front.reverse, false⟩ [name.toList]
      some { u with path := .segments (w.segments kind) }

/-- The URL with fields added to its query. -/
def withQuery (u : Url) (fields : List (String × String)) : Url :=
  let written := fields.map fun f => Percent.form f.1.toList ++ ['='] ++ Percent.form f.2.toList
  let front := (u.query.filter fun q => !q.isEmpty).toList
  { u with query := some (List.intercalate ['&'] (front ++ written)) }

end Url

end Halyard.Text

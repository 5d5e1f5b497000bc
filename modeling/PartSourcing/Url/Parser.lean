import PartSourcing.Url.Basic
import PartSourcing.Url.Domain

/-!
# Reading URLs

Absolute URLs are read as browsers read them: control characters and blanks at the ends are
dropped, tabs and line ends anywhere; a special scheme takes either slash and any number of them
before the host; host names are brought into the spelling that is sent; and dot segments of the
path are resolved. A reference is read against a base with the same rules.

The text is cut up from the outside in: scheme, fragment, query, authority, path.
-/

namespace PartSourcing.Url

open PartSourcing.Text

/-- The text that is read: without what is dropped at its ends and inside. -/
def cleaned (s : List Char) : List Char :=
  let edge (c : Char) := c.toNat ≤ 0x20
  let s := ((s.dropWhile edge).reverse.dropWhile edge).reverse
  s.filter fun c => c != '\t' && c != '\n' && c != '\r'

/-- The scheme, in lower case, and what follows its colon. -/
def splitScheme? (s : List Char) : Option (String × List Char) :=
  match s with
  | [] => none
  | c :: _ =>
    let name := s.takeWhile fun c => c.isAlphanum || c == '+' || c == '-' || c == '.'
    match c.isAlpha, s.drop name.length with
    | true, ':' :: rest => some (String.ofList (name.map Char.toLower), rest)
    | _, _ => none

/-- The text before the first of the given characters, and the text after it if it occurs. -/
def cut (sep : Char) (s : List Char) : List Char × Option (List Char) :=
  match s.dropWhile (· != sep) with
  | [] => (s, none)
  | _ :: rest => (s.takeWhile (· != sep), some rest)

/-- Whether a character separates segments. -/
def isSlash (special : Bool) (c : Char) : Bool := c == '/' || (special && c == '\\')

/-- The text without the slashes at its start. -/
def dropSlashes (s : List Char) : List Char := s.dropWhile (isSlash true)

/-- A path segment with its escaped dots written out. -/
def plainDots : List Char → List Char
  | '%' :: '2' :: 'e' :: rest | '%' :: '2' :: 'E' :: rest => '.' :: plainDots rest
  | c :: rest => c :: plainDots rest
  | [] => []

/-- **Resolves segments** after the segments that are there already, last one first. A dot
segment is dropped, two dots also take the segment before; either leaves an empty segment when
it is the last. -/
def resolve (there : List String) : List (List Char) → List String
  | [] => there.reverse
  | s :: rest =>
    let last := rest.isEmpty
    let there :=
      if plainDots s = ['.', '.'] then if last then "" :: there.drop 1 else there.drop 1
      else if plainDots s = ['.'] then if last then "" :: there else there
      else String.ofList (escape inPath s) :: there
    resolve there rest

/-- The segments of a path that starts after its first slash, resolved after those that are
there already. -/
def segmentsAfter (special : Bool) (there : List String) (s : List Char) : List String :=
  resolve there (Text.pieces (isSlash special) s)

/-- A host in an IPv6 form, between its brackets. -/
def bracketed? (s : List Char) : Except Error (List Nat) :=
  if s.getLast? = some ']' then
    ((ipv6? ((s.drop 1).dropLast)).elim (.error .badIpv6) .ok)
  else .error .badIpv6

/-- **The host of a special scheme**: an address or a domain name. -/
def domainHost (s : List Char) : Except Error Host := do
  if s.head? = some '[' then return .ipv6 (← bracketed? s)
  match Domain.toAscii? (decodeUtf8 (unescape s)) with
  | none => .error .badDomain
  | some [] => .error .emptyHost
  | some name =>
    if endsInNumber name then
      match ipv4? name with
      | some a => return .ipv4 a
      | none => .error .badIpv4
    else return .domain (String.ofList name)

/-- The host of any other scheme, kept as it is. -/
def plainHost (s : List Char) : Except Error Host := do
  if s.head? = some '[' then return .ipv6 (← bracketed? s)
  let bad (c : Char) :=
    c.toNat = 0 || [' ', '#', '/', ':', '<', '>', '?', '@', '[', '\\', ']', '^', '|'].contains c
  if s.any bad then .error .badHostCharacter
  else return .domain (String.ofList (escape inControls s))

/-- The host in a text and what follows it: all before a colon that is not in brackets. -/
def splitHost (inBrackets : Bool) : List Char → List Char × List Char
  | [] => ([], [])
  | c :: cs =>
    if c = ':' && !inBrackets then ([], c :: cs)
    else
      let inside := if c = '[' then true else if c = ']' then false else inBrackets
      let (host, rest) := splitHost inside cs
      (c :: host, rest)

/-- Reads a port after its colon; what may follow it is returned. -/
def port? (scheme : String) (s : List Char) : Except Error (Option UInt16 × List Char) :=
  let ds := s.takeWhile Char.isDigit
  let rest := s.drop ds.length
  let n := (digitsIn 10 0 ds).getD 0
  if n ≥ UInt16.size then .error .badPort
  else if !rest.isEmpty && rest.head? != some '\\' then .error .badPort
  else
    let port := UInt16.ofNat n
    if ds.isEmpty || usualPort? scheme == some port then .ok (none, rest)
    else .ok (some port, rest)

/-- The text before and after the last `@`; `none` if there is none. -/
def splitUser? (s : List Char) : Option (List Char × List Char) :=
  let after := (s.reverse.takeWhile (· != '@')).reverse
  if after.length < s.length then some (s.take (s.length - after.length - 1), after) else none

/-- User name and password. An empty password counts as none. -/
def userParts (s : List Char) : String × Option String :=
  let (name, password) := cut ':' s
  let text (s : List Char) := String.ofList (escape inUserInfo s)
  (text name, (password.filter fun p => !p.isEmpty).map text)

/-- **Reads authority and path**, the scheme being known and its slashes behind. `query?` tells
whether anything follows the text given. -/
def hierarchical (scheme : String) (hasMore : Bool) (s : List Char) : Except Error Url := do
  let special := isSpecial scheme
  let area := s.takeWhile fun c => !isSlash special c
  let after := s.drop area.length
  let (user, hostPort) :=
    match splitUser? area with
    | some (u, h) => (some u, h)
    | none => (none, area)
  if user = some [] && hostPort.isEmpty && (!after.isEmpty || hasMore) then throw .emptyHost
  let (username, password) := userParts (user.getD [])
  let (hostText, portPart) := splitHost false hostPort
  if special && hostText.isEmpty then throw .emptyHost
  let host ← if special then domainHost hostText else plainHost hostText
  if hostText.isEmpty && !portPart.isEmpty then throw .emptyHost
  let (port, left) ←
    match portPart with
    | [] => pure (none, [])
    | _ :: ds => port? scheme ds
  if hostText.isEmpty && (!username.isEmpty || password.isSome) then throw .emptyHost
  let path :=
    match left ++ after with
    | [] => if special then [""] else []
    | c :: rest => segmentsAfter special [] (if isSlash special c then rest else c :: rest)
  return { scheme, username, password, host := some host, port, path := .segments path }

/-- Reads a URL of the scheme of local files, whose host may be missing. -/
def localFile (s : List Char) : Except Error Url := do
  let local' (rest : List Char) : Url :=
    { scheme := "file", path := .segments (segmentsAfter true [] (dropSlashes rest)) }
  match s with
  | a :: b :: rest =>
    if isSlash true a && isSlash true b then
      let name := rest.takeWhile fun c => !isSlash true c
      if name.isEmpty then return local' rest
      let host ← domainHost name
      return { local' (rest.drop name.length) with
        host := if host = .domain "localhost" then none else some host }
    else return local' s
  | _ => return local' s

/-- Reads what stands between the colon of the scheme and the query. -/
def body (scheme : String) (hasMore : Bool) (s : List Char) : Except Error Url :=
  if scheme == "file" then localFile s
  else if isSpecial scheme then hierarchical scheme hasMore (dropSlashes s)
  else
    match s with
    | '/' :: '/' :: rest => hierarchical scheme hasMore rest
    | '/' :: rest => .ok { scheme, path := .segments (segmentsAfter false [] rest) }
    | s => .ok { scheme, path := .flat (String.ofList (escape inControls s)) }

/-- Adds query and fragment as they are written. -/
def withTail (u : Url) (query fragment : Option (List Char)) : Url :=
  let bad := if isSpecial u.scheme then inSpecialQuery else inQuery
  { u with
    query := query.map fun q => String.ofList (escape bad q)
    fragment := fragment.map fun f => String.ofList (escape inFragment f) }

/-- A text cut at its query and fragment. -/
def cutTail (s : List Char) : List Char × Option (List Char) × Option (List Char) :=
  let (front, fragment) := cut '#' s
  let (front, query) := cut '?' front
  (front, query, fragment)

/-- Reads what follows the colon of the scheme. -/
def ofScheme (scheme : String) (s : List Char) : Except Error Url := do
  let (front, query, fragment) := cutTail s
  return (← body scheme (query.isSome || fragment.isSome) front).withTail query fragment

/-- **Reads an absolute URL.** -/
def parse (s : String) : Except Error Url :=
  match splitScheme? (cleaned s.toList) with
  | some (scheme, rest) => ofScheme scheme rest
  | none => .error .relativeWithoutBase

/-- The segments of a path; one that is flat has none. -/
def Path.names : Path → List String
  | .segments names => names
  | .flat _ => []

/-- The base with another path, and with query and fragment of the reference. -/
def withPath (base : Url) (names : List String) (query fragment : Option (List Char)) : Url :=
  { base with path := .segments names }.withTail query fragment

/-- Reads a reference without a scheme of its own, the base having a special scheme. -/
def relative (base : Url) (s : List Char) : Except Error Url :=
  let (front, query, fragment) := cutTail s
  let slashes := (front.takeWhile (isSlash true)).length
  if 2 ≤ slashes then
    (hierarchical base.scheme (query.isSome || fragment.isSome) (dropSlashes front)).map
      fun u => u.withTail query fragment
  else if slashes = 1 then
    .ok (base.withPath (segmentsAfter true [] (front.drop 1)) query fragment)
  else if front.isEmpty then
    let u := base.withTail query fragment
    .ok (if query.isSome then u else { u with query := base.query })
  else
    .ok (base.withPath (segmentsAfter true base.path.names.dropLast.reverse front) query fragment)

/-- **Reads a reference against a base** of a special scheme that is not a local file. -/
def join (base : Url) (reference : String) : Except Error Url :=
  let s := cleaned reference.toList
  match splitScheme? s with
  | some (scheme, rest) =>
    if scheme == base.scheme && (rest.takeWhile (isSlash true)).length < 2 then relative base rest
    else ofScheme scheme rest
  | none => relative base s

/-- The URL with further segments at the end of its path, each taken as it is. An empty last
segment gives way to them, and segments of dots alone are left out. -/
def extended (u : Url) (names : List String) : Option Url :=
  match u.path with
  | .flat _ => none
  | .segments there =>
    let there := if there.getLast? = some "" then there.dropLast else there
    let there := if there = [""] then [] else there
    let new := (names.filter fun s => s != "." && s != "..").map fun s =>
      String.ofList (escape inSegment s.toList)
    some { u with path := .segments (there ++ new) }

end PartSourcing.Url

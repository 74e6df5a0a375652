import FacetSearch.Address.Host
import FacetSearch.Number.Numeral

/-!
# `FacetSearch.Address`: where requests are sent

An address has a scheme, user information, a host, a port, a path, a query and a fragment, each of
which may be missing. Reading brings it into one form: scheme and host in lower case, no port that
the scheme implies, no `.` and `..` among the steps of the path, and every character escaped that
may not stand in its part. What is read again stays as it is.

An address without scheme or host names a path below the root, and nothing else of it counts.
-/

set_option autoImplicit false

namespace FacetSearch

/-- An address by its parts. A missing query or fragment is not an empty one. -/
structure Address where
  scheme : List Char := []
  userInfo : List Char := []
  host : List Char := []
  port : Option Int := none
  path : List Char := []
  query : Option (List Char) := none
  fragment : Option (List Char) := none
  deriving DecidableEq

namespace Address

/-- More characters than this make no address. -/
def lengthLimit : Nat := 65536

/-- A control character of ASCII, which no address holds. -/
def isControl (c : Char) : Bool := decide (c.toNat < 32) || c.toNat == 127

/-- A visible ASCII character that is none of the excluded ones. -/
def isAllowed (excluded : List Char) (c : Char) : Bool :=
  decide (32 < c.toNat) && decide (c.toNat < 127) && !excluded.contains c

/-- What may not stand in a fragment. -/
def fragmentExcluded : List Char := ['"', '<', '>', '\x60']

/-- What may not stand in a query. -/
def queryExcluded : List Char := ['"', '#', '<', '>']

/-- What may not stand in a path. -/
def pathExcluded : List Char := queryExcluded ++ ['?', '\x60', '\x7b', '\x7d']

/-- What may not stand in user information. -/
def userExcluded : List Char :=
  pathExcluded ++ ['/', ';', '=', '@', '[', '\\', ']', '^', '|']

/-! ### The parts of a text -/

/-- A character of a scheme. -/
def isSchemeChar (c : Char) : Bool := c.isAlphanum || c == '+' || c == '.' || c == '-'

/-- The scheme, which may be empty, and what follows its colon. -/
def splitScheme (text : List Char) : List Char × List Char :=
  let name := text.takeWhile isSchemeChar
  match text.dropWhile isSchemeChar with
  | ':' :: rest => if name.isEmpty || name.head?.any Char.isAlpha then (name, rest) else ([], text)
  | _ => ([], text)

/-- A character that ends the host part. -/
def endsHost (c : Char) : Bool := c == '/' || c == '?' || c == '#'

/-- The part between two slashes and the path, and what follows it. -/
def splitAuthority (text : List Char) : List Char × List Char :=
  match text with
  | '/' :: '/' :: rest =>
      (rest.takeWhile fun c => !endsHost c, rest.dropWhile fun c => !endsHost c)
  | _ => ([], text)

/-- The part after a mark, up to a character that ends it, and what follows. -/
def splitMarked (mark : Char) (ends : Char → Bool) (text : List Char) :
    Option (List Char) × List Char :=
  match text with
  | c :: rest =>
      if c = mark then (some (rest.takeWhile fun d => !ends d), rest.dropWhile fun d => !ends d)
      else (none, text)
  | [] => (none, [])

/-- A text before and after the last occurrence of a mark; without one all of it comes after. -/
def splitLast (mark : Char) (text : List Char) : List Char × List Char :=
  if text.contains mark then
    (((text.reverse.dropWhile (· != mark)).drop 1).reverse,
      (text.reverse.takeWhile (· != mark)).reverse)
  else ([], text)

/-- A host, which may stand in brackets, and the text of the port after it. -/
def splitHost (text : List Char) : List Char × List Char :=
  let (host, rest) :=
    match text with
    | '[' :: _ =>
        if text.contains ']' then ((splitLast ']' text).1 ++ [']'], (splitLast ']' text).2)
        else (text.takeWhile (· != ':'), text.dropWhile (· != ':'))
    | _ => (text.takeWhile (· != ':'), text.dropWhile (· != ':'))
  match rest with
  | ':' :: port => (host, port)
  | port => (host, port)

/-! ### One form -/

/-- The ports that schemes imply. -/
def impliedPorts : List (String × Int) :=
  [("ftp", 21), ("http", 80), ("https", 443), ("ws", 80), ("wss", 443)]

/-- A port, which is missing when its text is empty or the scheme implies it. A scheme that is not
written in lower case implies none. -/
def readPort? (scheme text : List Char) : Option (Option Int) :=
  if text.isEmpty then some none
  else
    (lenientInteger? text).map fun port =>
      if impliedPorts.lookup (String.ofList scheme) = some port then none else some port

/-- One step of a path after others: `.` leaves them as they are, `..` takes the last one away, but
not the root. -/
def addStep (steps : List (List Char)) (step : List Char) : List (List Char) :=
  if step = ['.'] then steps
  else if step = ['.', '.'] then (if steps = [[]] then steps else steps.dropLast)
  else steps ++ [step]

/-- A path without `.` and `..` among its steps. -/
def plainPath (path : List Char) : List Char :=
  joined ['/'] ((partsAt '/' path).foldl addStep [])

/-- Whether a path may follow the parts before it: the path of a host starts with a slash, and a
path alone neither with two slashes nor with a colon. -/
def isPathAfter (hasScheme hasHost : Bool) (path : List Char) : Bool :=
  if hasHost then path.isEmpty || path.head? == some '/'
  else hasScheme || !(['/', '/'].isPrefixOf path || path.head? == some ':')

/-- The address of a text. -/
def read? (text : List Char) : Option Address := do
  if lengthLimit < text.length || text.any isControl then none
  let (scheme, rest) := splitScheme text
  let (authority, rest) := splitAuthority rest
  let path := rest.takeWhile fun c => c != '?' && c != '#'
  let rest := rest.dropWhile fun c => c != '?' && c != '#'
  let (query, rest) := splitMarked '?' (· == '#') rest
  let (fragment, _) := splitMarked '#' (fun _ => false) rest
  let (userInfo, rest) := splitLast '@' authority
  let (host, port) := splitHost rest
  let userInfo := percentEncoded (isAllowed userExcluded) userInfo
  let host ← readHost? host
  let port ← readPort? scheme port
  let hasScheme := !scheme.isEmpty
  let hasHost := !userInfo.isEmpty || !host.isEmpty || port.isSome
  if !isPathAfter hasScheme hasHost path then none
  let path := if hasScheme || hasHost then plainPath path else path
  return {
    scheme := scheme.map Char.toLower
    userInfo := userInfo
    host := host
    port := port
    path := percentEncoded (isAllowed pathExcluded) path
    query := query.map (percentEncoded (isAllowed queryExcluded))
    fragment := fragment.map (percentEncoded (isAllowed fragmentExcluded)) }

/-! ### The text and the meaning -/

/-- User information, host and port as text. An address of version 6 stands in brackets. -/
def authorityText (a : Address) : List Char :=
  (if a.userInfo.isEmpty then [] else a.userInfo ++ ['@']) ++
    (if a.host.contains ':' then '[' :: (a.host ++ [']']) else a.host) ++
    (match a.port with
      | some port => ':' :: integerText port
      | none => [])

/-- The text of an address. -/
def text (a : Address) : List Char :=
  (if a.scheme.isEmpty then [] else a.scheme ++ [':']) ++
    (if a.authorityText.isEmpty then [] else '/' :: '/' :: a.authorityText) ++ a.path ++
    (match a.query with
      | some query => '?' :: query
      | none => []) ++
    (match a.fragment with
      | some fragment => '#' :: fragment
      | none => [])

/-- Whether an address names a server. -/
def isAbsolute (a : Address) : Bool := !a.scheme.isEmpty && !a.host.isEmpty

/-- The path and the query, below the root. -/
def belowRoot (a : Address) : Address where
  path := '/' :: a.path.dropWhile (· == '/')
  query := a.query

/-- Whether no part below the root, as it is escaped, is too long. -/
def isShort (a : Address) : Bool :=
  decide (a.path.length ≤ lengthLimit) && decide ((a.query.getD []).length ≤ lengthLimit)

/-- The address that requests to an endpoint are sent to. -/
def ofEndpoint? (endpoint : List Char) : Option Address := do
  let a ← read? endpoint
  if a.isAbsolute then some a else if a.belowRoot.isShort then some a.belowRoot else none

end Address

end FacetSearch

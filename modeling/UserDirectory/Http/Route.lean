import UserDirectory.Url.Form

/-!
# Http.Route — the places of the interface

* `Route`: the five places that requests can be about.
* `Route.ofPath?`: the place that a path leads to.
* `Route.pattern`: its path as documents show it.
-/

namespace UserDirectory.Http

/-- A place of the interface; an account is named by a segment of the path. -/
inductive Route where
  | users
  | user (segment : List Char)
  | ready
  | live
deriving DecidableEq, Repr

namespace Route

/-- The path of the accounts. -/
def usersPath : List Char := ['/', 'v', '1', '/', 'u', 's', 'e', 'r', 's']

/-- The path of the readiness probe. -/
def readyPath : List Char := ['/', 'h', 'e', 'a', 'l', 't', 'h', '/', 'r', 'e', 'a', 'd', 'y']

/-- The path of the liveness probe. -/
def livePath : List Char := ['/', 'h', 'e', 'a', 'l', 't', 'h', '/', 'l', 'i', 'v', 'e']

/-- Bytes that stay escaped while a route is looked for: the percent sign, the slash and the
plus sign. -/
def staysEscaped (b : Nat) : Bool := b == 0x25 || b == 0x2F || b == 0x2B

/-- A path with its escapes undone as far as routes are concerned. -/
def normalize (path : List Char) : List Char :=
  Text.ofBytes (Url.unescapeFrom staysEscaped [] (Text.bytes path))

/-- What follows another text at the start of a text. -/
def after? (start t : List Char) : Option (List Char) :=
  if start.isPrefixOf t then some (t.drop start.length) else none

/-- The one segment that a path has below the accounts. -/
def segment? (path : List Char) : Option (List Char) :=
  match after? (usersPath ++ ['/']) path with
  | some segment => if segment.isEmpty || segment.contains '/' then none else some segment
  | none => none

/-- The place that a path leads to. -/
def ofPath? (path : List Char) : Option Route :=
  let path := normalize path
  if path = usersPath then some .users
  else if path = readyPath then some .ready
  else if path = livePath then some .live
  else (segment? path).map .user

/-- The path of a place, with a name in braces for the segment. -/
def pattern : Route → List Char
  | .users => usersPath
  | .user _ => usersPath ++ ['/', '\x7b', 'i', 'd', '\x7d']
  | .ready => readyPath
  | .live => livePath

end Route
end UserDirectory.Http

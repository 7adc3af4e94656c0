import UserDirectory.Url.Form
import UserDirectory.Url.Host

/-!
# Url — where servers and sockets are

* `Url`: a scheme, credentials, a host, a path and a query.
* `Url.read?`: the URL that a text writes, for schemes that have no rules of their own.
-/

namespace UserDirectory

/-- A URL without its port and its fragment.  The path is none if it does not start with a
slash, and it has no segments if it is empty. -/
structure Url where
  scheme : List Char
  username : List Char
  password : List Char
  host : Option Url.Host
  path : Option (List (List Char))
  query : List Char
deriving DecidableEq, Repr

namespace Url

/-! ## Parts -/

/-- The text without blanks and controls at its ends, and without tabs and ends of lines. -/
def clean (t : List Char) : List Char :=
  let isEdge (c : Char) : Bool := c.toNat ≤ 0x20
  let t := ((t.dropWhile isEdge).reverse.dropWhile isEdge).reverse
  t.filter fun c => c != '\t' && c != '\n' && c != '\r'

/-- A scheme in lower case, and what follows its colon. -/
def splitScheme? (t : List Char) : Option (List Char × List Char) :=
  let isPart (c : Char) : Bool := c.isAlphanum || c == '+' || c == '-' || c == '.'
  match t.takeWhile isPart, t.dropWhile isPart with
  | first :: name, ':' :: r =>
    if first.isAlpha then some ((first :: name).map Char.toLower, r) else none
  | _, _ => none

/-- Splits a text behind its last `@`; the part before it is none if there is no such mark. -/
def splitCredentials (t : List Char) : Option (List Char) × List Char :=
  let host := (t.reverse.takeWhile (· != '@')).reverse
  (if t.contains '@' then some (t.take (t.length - host.length - 1)) else none, host)

/-- Splits a text at the first colon that is not in brackets. -/
def splitPort (inBrackets : Bool) : List Char → List Char × Option (List Char)
  | [] => ([], none)
  | c :: r =>
    if c == ':' && !inBrackets then ([], some r)
    else
      let (host, port) := splitPort (c == '[' || (inBrackets && c != ']')) r
      (c :: host, port)

/-- Whether a text is a port: nothing, or a number below 2¹⁶. -/
def isPort (t : List Char) : Bool := t.isEmpty || (Text.natural? 65536 t).isSome

/-- The host of an authority; there is none if its name is empty, which goes with neither
credentials nor a port. -/
def host? (credentials : Option (List Char)) (t : List Char) : Option (Option Host) := do
  let (name, port) := splitPort false t
  match ← Host.read? name with
  | .name [] => if (credentials.getD [':']) == [':'] && port.isNone then some none else none
  | host => if isPort (port.getD []) then some (some host) else none

/-- A segment in which each escaped point is a point. -/
def plainPoints : List Char → List Char
  | '%' :: '2' :: c :: r =>
    if c == 'e' || c == 'E' then '.' :: plainPoints r else '%' :: '2' :: plainPoints (c :: r)
  | c :: r => c :: plainPoints r
  | [] => []

/-- The segments of a path, the points in them followed: one stays, two go back. -/
def follow (done : List (List Char)) : List (List Char) → List (List Char)
  | [] => done
  | segment :: rest =>
    let last := rest.isEmpty
    if plainPoints segment == ['.', '.'] then
      follow (done.dropLast ++ if last then [[]] else []) rest
    else if plainPoints segment == ['.'] then follow (done ++ if last then [[]] else []) rest
    else follow (done ++ [segment]) rest

/-- The segments of a path. -/
def segments? : List Char → Option (List (List Char))
  | [] => some []
  | '/' :: r => some (follow [] (r.splitOn '/'))
  | _ => none

/-! ## The whole -/

/-- The URL that a text writes. -/
def read? (t : List Char) : Option Url := do
  let (scheme, rest) ← splitScheme? (clean t)
  let rest := rest.takeWhile (· != '#')
  let query := (rest.dropWhile (· != '?')).drop 1
  match rest.takeWhile (· != '?') with
  | '/' :: '/' :: r =>
    let (credentials, authority) := splitCredentials (r.takeWhile (· != '/'))
    let host ← host? credentials authority
    let known := credentials.getD []
    return {
      scheme, query, host
      username := known.takeWhile (· != ':')
      password := (known.dropWhile (· != ':')).drop 1
      path := segments? (r.dropWhile (· != '/')) }
  | path => return ⟨scheme, [], [], none, segments? path, query⟩

/-- The last value that the query gives for a name. -/
def value? (u : Url) (name : List Char) : Option (List Char) :=
  ((Form.pairs u.query).reverse.find? (·.1 == name)).map (·.2)

end Url
end UserDirectory

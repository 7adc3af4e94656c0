import UserDirectory.Text.Utf8

/-!
# Http.Target — what a request is about

* `Target`: a path and a query, both as they were sent.
* `Target.read?`: the target that a text writes, which is a path with a query, a whole URL, the
  name of a host, or an asterisk.
-/

namespace UserDirectory.Http

/-- The path and the query of a request, the query empty if there is none. -/
structure Target where
  path : List Char
  query : List Char
deriving DecidableEq, Repr

namespace Target

/-! ## Path and query -/

/-- A character of a path. -/
def isPathChar (c : Char) : Bool :=
  c == '!' || ('$' ≤ c && c ≤ ';') || c == '=' || ('@' ≤ c && c ≤ '_') || ('a' ≤ c && c ≤ '~')
    || c == '"'

/-- A character of a query. -/
def isQueryChar (c : Char) : Bool :=
  c == '!' || ('$' ≤ c && c ≤ ';') || c == '=' || ('?' ≤ c && c ≤ '~')

/-- A path with a query; what follows a number sign is neither. -/
def ofPath? (t : List Char) : Option Target :=
  let t := t.takeWhile (· != '#')
  let path := t.takeWhile (· != '?')
  let query := (t.dropWhile (· != '?')).drop 1
  if path.all isPathChar && query.all isQueryChar then some ⟨path, query⟩ else none

/-! ## Authority -/

/-- What a reader has seen of an authority: colons since the last mark that takes them back,
brackets, an escape since then, and whether the last character was an at sign. -/
structure Seen where
  colons : Nat
  opened : Bool
  closed : Bool
  escaped : Bool
  atEnd : Bool
deriving DecidableEq, Repr

/-- A character of an authority that has no meaning of its own. -/
def isPlain (c : Char) : Bool :=
  c.isAlphanum ||
    ['!', '$', '&', '\x27', '(', ')', '*', '+', ',', '-', '.', ';', '=', '_', '~'].contains c

/-- Reads one more character of an authority. -/
def see (s : Seen) (c : Char) : Option Seen :=
  let s := { s with atEnd := false }
  if c == ':' then if s.colons < 8 then some { s with colons := s.colons + 1 } else none
  else if c == '[' then if s.escaped || s.opened then none else some { s with opened := true }
  else if c == ']' then
    if s.opened && !s.closed then some { s with closed := true, colons := 0, escaped := false }
    else none
  else if c == '@' then some { s with atEnd := true, colons := 0, escaped := false }
  else if c == '%' then some { s with escaped := true }
  else if isPlain c then some s
  else none

/-- Whether a text is an authority: credentials, a host and a port.  Only credentials and
addresses in brackets may have escapes and more colons than the port's. -/
def isAuthority (t : List Char) : Bool :=
  match t.foldlM see ⟨0, false, false, false, false⟩ with
  | some s => s.opened == s.closed && s.colons ≤ 1 && !s.atEnd && !s.escaped
  | none => false

/-! ## Scheme -/

/-- A character of a scheme. -/
def isSchemeChar (c : Char) : Bool :=
  c.isAlphanum || c == '+' || c == '-' || c == '.' || c == '~'

/-- A scheme, and what follows the colon and the two slashes behind it. -/
def splitScheme? (t : List Char) : Option (List Char × List Char) :=
  match t.dropWhile isSchemeChar with
  | ':' :: '/' :: '/' :: r => some (t.takeWhile isSchemeChar, r)
  | _ => none

/-! ## The whole -/

/-- Whether a character ends an authority. -/
def endsAuthority (c : Char) : Bool := c == '/' || c == '?' || c == '#'

/-- The target of a URL without its scheme; an empty path is that of the root. -/
def ofUrl? (t : List Char) : Option Target := do
  let authority := t.takeWhile (!endsAuthority ·)
  if authority.isEmpty || !isAuthority authority then none
  let target ← ofPath? (t.drop authority.length)
  return { target with path := if target.path.isEmpty then ['/'] else target.path }

/-- The greatest number of bytes of a target. -/
def maxLength : Nat := 65534

/-- The greatest number of characters of a scheme. -/
def maxScheme : Nat := 64

/-- The target that a text writes; that of a host alone has no path. -/
def read? (t : List Char) : Option Target :=
  if maxLength < Text.byteLength t then none
  else
    match t with
    | [] => none
    | ['*'] => some ⟨['*'], []⟩
    | '/' :: _ => ofPath? t
    | _ =>
      match splitScheme? t with
      | some (scheme, rest) => if scheme.length ≤ maxScheme then ofUrl? rest else none
      | none => if isAuthority t then some ⟨[], []⟩ else none

end Target
end UserDirectory.Http

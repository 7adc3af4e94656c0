/-!
# Http.MediaType — the content type of a request

* `read?`: a media type, `type/subtype` with parameters, of which only the names count.
* `isJson`: whether a body of the type is JSON: the subtype is `json` or ends in `+json`.
-/

namespace UserDirectory.Http

/-- A media type without its parameters: the type, the subtype up to its last plus sign, and
what follows that sign. -/
structure MediaType where
  type : List Char
  subtype : List Char
  suffix : Option (List Char)
deriving DecidableEq, Repr

namespace MediaType

/-- A character of a token. -/
def isTokenChar (c : Char) : Bool :=
  c.isAlphanum ||
    ['!', '#', '$', '%', '&', '\x27', '*', '+', '-', '.', '^', '_', '\x60', '|', '~'].contains c

/-- Where a reader stands among the parameters. -/
inductive ParameterMode where
  | start
  | name
  | valueStart
  | value
  | quotedStart
  | quoted
  | afterQuoted

/-- Whether the text after a semicolon is a list of parameters, each a name and a value, which
may be quoted; a quoted value is not empty. -/
def areParameters : ParameterMode → List Char → Bool
  | .start, [] | .valueStart, [] | .value, [] | .afterQuoted, [] => true
  | .name, [] | .quotedStart, [] | .quoted, [] => false
  | .start, c :: r =>
    if c == ' ' then areParameters .start r else isTokenChar c && areParameters .name r
  | .name, c :: r =>
    if c == '=' then areParameters .valueStart r else isTokenChar c && areParameters .name r
  | .valueStart, c :: r =>
    if c == '"' then areParameters .quotedStart r else isTokenChar c && areParameters .value r
  | .value, c :: r =>
    if c == ';' then areParameters .start r else isTokenChar c && areParameters .value r
  | .quotedStart, c :: r => 31 < c.toNat && c.toNat != 127 && areParameters .quoted r
  | .quoted, c :: r =>
    if c == '"' then areParameters .afterQuoted r
    else 31 < c.toNat && c.toNat != 127 && areParameters .quoted r
  | .afterQuoted, c :: r =>
    if c == ';' then areParameters .start r else c == ' ' && areParameters .afterQuoted r

/-- The place of the last plus sign that does not come first. -/
def lastPlus? (t : List Char) : Option Nat :=
  (t.zipIdx.filterMap fun (c, i) => if c == '+' && 0 < i then some i else none).getLast?

/-- Splits a name at its last plus sign. -/
def split (type name : List Char) : MediaType :=
  match lastPlus? name with
  | some i => ⟨type, name.take i, some (name.drop (i + 1))⟩
  | none => ⟨type, name, none⟩

/-- The media type that a text in lower case writes. -/
def read? (t : List Char) : Option MediaType :=
  let type := t.takeWhile isTokenChar
  match type, t.dropWhile isTokenChar with
  | _ :: _, '/' :: r =>
    let name := r.takeWhile isTokenChar
    match name, r.dropWhile isTokenChar with
    | _, [] => some (split type name)
    | _ :: _, ';' :: parameters =>
      if areParameters .start parameters then some (split type name) else none
    | _, _ => none
  | _, _ => none

/-- Whether a body of the type is JSON. -/
def isJson (m : MediaType) : Bool :=
  m.subtype == ['j', 's', 'o', 'n'] || m.suffix == some ['j', 's', 'o', 'n']

/-- Whether the value of a header is the type of a JSON body. -/
def isJsonHeader (s : String) : Bool :=
  ((read? (s.toList.map Char.toLower)).map isJson).getD false

end MediaType
end UserDirectory.Http

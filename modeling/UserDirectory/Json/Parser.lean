import UserDirectory.Json.Scanner

/-!
# Json.Parser — values from JSON text

* `readValue`: a value at the start of a text, and what is left.
* `parse`: the value of a whole text.

An object keeps its members in the order of the text.
-/

namespace UserDirectory.Json

mutual

/-- Reads a value; the number bounds how often the three readers call each other. -/
def readValue : Nat → List Char → Except Fault (Json × List Char)
  | 0, t => .error (.here .endInValue t)
  | fuel + 1, t =>
    match skipBlanks t with
    | [] => .error (.here .endInValue [])
    | c :: r =>
      if c == 'n' then (scanWord ['u', 'l', 'l'] r).map (.null, ·)
      else if c == 't' then (scanWord ['r', 'u', 'e'] r).map (.bool true, ·)
      else if c == 'f' then (scanWord ['a', 'l', 's', 'e'] r).map (.bool false, ·)
      else if c == '-' || c.isDigit then (readNumber (c :: r)).map fun (n, r) => (.number n, r)
      else if c == '"' then (stringTail r).map fun (s, r) => (.string s, r)
      else if c == '[' then
        match skipBlanks r with
        | ']' :: r => .ok (.array [], r)
        | r => (readItems fuel r).map fun (vs, r) => (.array vs, r)
      else if c == '\x7b' then
        match skipBlanks r with
        | '\x7d' :: r => .ok (.object [], r)
        | r => (readMembers fuel r).map fun (ms, r) => (.object ms, r)
      else .error (.next .expectedValue (c :: r))

/-- Reads the items of an array up to its closing bracket. -/
def readItems : Nat → List Char → Except Fault (List Json × List Char)
  | 0, t => .error (.here .endInArray t)
  | fuel + 1, t => do
    let (v, t) ← readValue fuel t
    match skipBlanks t with
    | ',' :: r =>
      let (vs, t) ← readItems fuel r
      return (v :: vs, t)
    | ']' :: r => return ([v], r)
    | [] => .error (.here .endInArray [])
    | t => .error (.next .expectedCommaOrBracket t)

/-- Reads the members of an object up to its closing brace. -/
def readMembers : Nat → List Char → Except Fault (List (String × Json) × List Char)
  | 0, t => .error (.here .endInObject t)
  | fuel + 1, t =>
    match skipBlanks t with
    | '"' :: r => do
      let (name, t) ← stringTail r
      match skipBlanks t with
      | ':' :: r =>
        let (v, t) ← readValue fuel r
        match skipBlanks t with
        | ',' :: r =>
          let (ms, t) ← readMembers fuel r
          return ((name, v) :: ms, t)
        | '\x7d' :: r => return ([(name, v)], r)
        | [] => .error (.here .endInObject [])
        | t => .error (.next .expectedCommaOrBrace t)
      | [] => .error (.here .endInObject [])
      | t => .error (.next .expectedColon t)
    | [] => .error (.here .endInObject [])
    | t => .error (.next .keyMustBeString t)

end

/-- The value of a whole text. -/
def parse (t : List Char) : Except Fault Json := do
  let (v, rest) ← readValue (2 * t.length + 2) t
  match skipBlanks rest with
  | [] => return v
  | rest => .error (.next .trailingCharacters rest)

/-- The value of a whole text, if it is JSON. -/
def parse? (s : String) : Option Json := (parse s.toList).toOption

end UserDirectory.Json

import UserDirectory.Json.Skip
import UserDirectory.Json.Value

/-!
# Json.Record — records of texts, read from values and from JSON text

* `Field δ`: a member by name, what its text must be, and how the text goes into a draft of
  type `δ`.
* `Shape δ`: the fields in order and how strict the record is about them.
* `Shape.ofMembers`, `Shape.ofJson`: a draft from members in ascending order, or from any value.
* `Shape.read`: a draft from JSON text, in the order of the text, so that the first thing wrong
  with the text is the one reported.

A record may also be written as an array of its members' values in order.  Members of other
names do not matter.
-/

namespace UserDirectory

namespace Json

/-! ## Shapes -/

/-- A member of a record; its draft keeps the texts set so far. -/
structure Field (δ : Type) where
  name : String
  expected : String
  isSet : δ → Bool
  set : String → δ → Except String δ

/-- A record: its name in messages, its fields in order, whether every member has to be present
in an object and in an array, and whether a member may be null, which leaves it unset. -/
structure Shape (δ : Type) where
  name : String
  fields : List (Field δ)
  needsMembers : Bool
  needsItems : Bool
  nullable : Bool
  empty : δ

/-- A field of a part of a larger draft. -/
def Field.lift {δ ε : Type} (part : ε → δ) (withPart : δ → ε → ε) (f : Field δ) : Field ε where
  name := f.name
  expected := f.expected
  isSet d := f.isSet (part d)
  set s d := (f.set s (part d)).map fun p => withPart p d

namespace Shape

variable {δ : Type}

/-- What a value that is no record should have been. -/
def expected (shape : Shape δ) : String := "struct " ++ shape.name

/-- The field with the name. -/
def field? (shape : Shape δ) (name : String) : Option (Field δ) :=
  shape.fields.find? (·.name == name)

/-- The first field that has to be set and is not. -/
def missing? (shape : Shape δ) (draft : δ) : Option String :=
  if shape.needsMembers then
    (shape.fields.find? fun f => !f.isSet draft).map (·.name)
  else none

/-- The objection to an array of `n` items as a record. -/
def tooShort (shape : Shape δ) (n : Nat) : Mismatch :=
  .tooShort n shape.name shape.fields.length

/-! ## From values -/

/-- Puts a member's value into the draft. -/
def setValue (shape : Shape δ) (f : Field δ) (v : Json) (draft : δ) : Except Mismatch δ :=
  match v with
  | .string s => (f.set s draft).mapError .unreadable
  | v => if shape.nullable && v matches .null then .ok draft
    else .error (.wrongType (found v) f.expected)

/-- Puts the members that the record knows into a draft, one after the other. -/
def setMembers (shape : Shape δ) : δ → List (String × Json) → Except Mismatch δ
  | draft, [] => .ok draft
  | draft, (name, v) :: ms =>
    match shape.field? name with
    | none => setMembers shape draft ms
    | some f =>
      match shape.setValue f v draft with
      | .ok draft => setMembers shape draft ms
      | .error m => .error m

/-- The draft of an object. -/
def ofMembers (shape : Shape δ) (d : Document) : Except Mismatch δ := do
  let draft ← shape.setMembers shape.empty d.entries
  match shape.missing? draft with
  | some name => .error (.missing name)
  | none => .ok draft

/-- Puts an array's items into a draft, field by field; `n` counts them all. -/
def setItems (shape : Shape δ) (n : Nat) : List (Field δ) → List Json → δ → Except Mismatch δ
  | [], [], draft => .ok draft
  | [], _ :: _, _ => .error (.tooLong n)
  | _ :: _, [], draft => if shape.needsItems then .error (shape.tooShort n) else .ok draft
  | f :: fs, v :: vs, draft =>
    match shape.setValue f v draft with
    | .ok draft => setItems shape n fs vs draft
    | .error m => .error m

/-- The draft of any value. -/
def ofJson (shape : Shape δ) : Json → Except Mismatch δ
  | .object ms => shape.ofMembers (.ofList ms)
  | .array vs => shape.setItems vs.length shape.fields vs shape.empty
  | v => .error (.wrongType (found v) shape.expected)

/-! ## From text -/

/-- The objection to a value of another type, whose first character is not a blank.  It is raised
after the value if that is a word, a number or a string, and only if it is a whole one. -/
def wrongType (expected : String) (t : List Char) : Fault :=
  let objection (f : Found) (rest : List Char) : Fault :=
    .here (.mismatch (.wrongType f expected)) rest
  let afterWord (f : Found) (w r : List Char) :=
    match scanWord w r with
    | .ok rest => objection f rest
    | .error e => e
  match t with
  | [] => .here .endInValue []
  | c :: r =>
    if c == 'n' then afterWord .null ['u', 'l', 'l'] r
    else if c == 't' then afterWord (.bool true) ['r', 'u', 'e'] r
    else if c == 'f' then afterWord (.bool false) ['a', 'l', 's', 'e'] r
    else if c == '-' || c.isDigit then
      match readNumber t with
      | .ok (n, rest) => objection (.number n) rest
      | .error e => e
    else if c == '"' then
      match stringTail r with
      | .ok (s, rest) => objection (.string s) rest
      | .error e => e
    else if c == '[' then objection .array t
    else if c == '\x7b' then objection .object t
    else .next .expectedValue t

/-- Reads a member's value into the draft. -/
def readValue (shape : Shape δ) (f : Field δ) (draft : δ) (t : List Char) :
    Except Fault (δ × List Char) :=
  match skipBlanks t with
  | [] => .error (.here .endInValue [])
  | '"' :: r => do
    let (s, rest) ← stringTail r
    match f.set s draft with
    | .ok draft => return (draft, rest)
    | .error reason => .error (.here (.mismatch (.unreadable reason)) rest)
  | 'n' :: r =>
    if shape.nullable then (scanWord ['u', 'l', 'l'] r).map (draft, ·)
    else .error (wrongType f.expected ('n' :: r))
  | t => .error (wrongType f.expected t)

/-- Reads the colon after a name. -/
def readColon (t : List Char) : Except Fault (List Char) :=
  match skipBlanks t with
  | ':' :: r => .ok r
  | [] => .error (.here .endInObject [])
  | t => .error (.next .expectedColon t)

/-- The text after an object's closing brace, or after the quote that opens its next name.
A member may have come before. -/
inductive NextName where
  | close (rest : List Char)
  | name (t : List Char)

/-- Finds the next name of an object. -/
def nextName (isFirst : Bool) (t : List Char) : Except Fault NextName :=
  match skipBlanks t with
  | [] => .error (.here .endInObject [])
  | '\x7d' :: r => .ok (.close r)
  | t =>
    match isFirst, t with
    | true, '"' :: r => .ok (.name r)
    | true, t => .error (.next .keyMustBeString t)
    | false, ',' :: r =>
      match skipBlanks r with
      | '"' :: r => .ok (.name r)
      | [] => .error (.here .endInValue [])
      | '\x7d' :: r => .error (.next .trailingComma ('\x7d' :: r))
      | t => .error (.next .keyMustBeString t)
    | false, t => .error (.next .expectedCommaOrBrace t)

/-- Where a repeated name is objected to: at the next token, or after a closing brace. -/
def afterName (t : List Char) : List Char :=
  match skipBlanks t with
  | '\x7d' :: r => r
  | t => t

/-- Reads one member whose name is still to come. -/
def readMember (shape : Shape δ) (draft : δ) (t : List Char) : Except Fault (δ × List Char) := do
  let (name, t) ← stringTail t
  match shape.field? name with
  | none =>
    let t ← readColon t
    let t ← skipValue t
    return (draft, t)
  | some f =>
    if f.isSet draft then .error (.here (.mismatch (.repeated name)) (afterName t))
    else
      let t ← readColon t
      shape.readValue f draft t

/-- Reads the members of an object up to its closing brace; the number bounds how many. -/
def readMembers (shape : Shape δ) : Nat → Bool → δ → List Char → Except Fault (δ × List Char)
  | 0, _, _, t => .error (.here .endInObject t)
  | fuel + 1, isFirst, draft, t =>
    match nextName isFirst t with
    | .error e => .error e
    | .ok (.close rest) =>
      match shape.missing? draft with
      | some name => .error (.here (.mismatch (.missing name)) rest)
      | none => .ok (draft, rest)
    | .ok (.name t) =>
      match shape.readMember draft t with
      | .error e => .error e
      | .ok (draft, rest) => readMembers shape fuel false draft rest

/-- The start of an array's next item, if there is one; at the closing bracket there is none. -/
def nextItem? (isFirst : Bool) (t : List Char) : Except Fault (Option (List Char)) :=
  match skipBlanks t with
  | [] => .error (.here .endInArray [])
  | ']' :: _ => .ok none
  | t =>
    match isFirst, t with
    | true, t => .ok (some t)
    | false, ',' :: r =>
      match skipBlanks r with
      | [] => .error (.here .endInValue [])
      | ']' :: r => .error (.next .trailingComma (']' :: r))
      | t => .ok (some t)
    | false, t => .error (.next .expectedCommaOrBracket t)

/-- Reads the closing bracket of an array whose items have all been read. -/
def closeArray (t : List Char) : Except Fault (List Char) :=
  match skipBlanks t with
  | [] => .error (.here .endInArray [])
  | ']' :: r => .ok r
  | ',' :: r =>
    match skipBlanks r with
    | ']' :: r => .error (.next .trailingComma (']' :: r))
    | t => .error (.next .trailingCharacters t)
  | t => .error (.next .trailingCharacters t)

/-- Reads the items of an array field by field, `n` of which have been read. -/
def readItems (shape : Shape δ) : Nat → List (Field δ) → δ → List Char →
    Except Fault (δ × List Char)
  | _, [], draft, t => (closeArray t).map (draft, ·)
  | n, f :: fs, draft, t =>
    match nextItem? (n == 0) t with
    | .error e => .error e
    | .ok none =>
      match closeArray t with
      | .error e => .error e
      | .ok rest =>
        if shape.needsItems then .error (.here (.mismatch (shape.tooShort n)) rest)
        else .ok (draft, rest)
    | .ok (some t) =>
      match shape.readValue f draft t with
      | .error e => .error e
      | .ok (draft, rest) => readItems shape (n + 1) fs draft rest

/-- Reads a record at the start of a text. -/
def read (shape : Shape δ) (t : List Char) : Except Fault (δ × List Char) :=
  match skipBlanks t with
  | [] => .error (.here .endInValue [])
  | '\x7b' :: r => shape.readMembers (r.length + 1) true shape.empty r
  | '[' :: r => shape.readItems 0 shape.fields shape.empty r
  | t => .error (wrongType shape.expected t)

end Shape

/-- Objects to anything but blanks after a whole text. -/
def readEnd (t : List Char) : Except Fault Unit :=
  match skipBlanks t with
  | [] => .ok ()
  | t => .error (.next .trailingCharacters t)

end Json
end UserDirectory

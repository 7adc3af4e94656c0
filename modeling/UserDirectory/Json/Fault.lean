import UserDirectory.Json.Value
import UserDirectory.Text.Printable
import UserDirectory.Text.Utf8

/-!
# Json.Fault — what is wrong with a JSON text, or with the shape of a value

* `Found`, `Mismatch`: a value that is not what a record asks for.
* `Fault`: a cause, and where a reader stood in the text when it met it.
* `Fault.message`: the cause and the line and column of that place.
-/

namespace UserDirectory.Json

/-! ## Shapes -/

/-- The kind of a value, as far as messages tell it. -/
inductive Found where
  | null
  | bool (b : Bool)
  | number (n : Number)
  | string (s : String)
  | array
  | object
deriving DecidableEq, Repr

/-- The kind of a value. -/
def found : Json → Found
  | .null => .null
  | .bool b => .bool b
  | .number n => .number n
  | .string s => .string s
  | .array _ => .array
  | .object _ => .object

/-- The words for a kind of value. -/
def Found.text : Found → String
  | .null => "null"
  | .bool b => "boolean `" ++ (if b then "true" else "false") ++ "`"
  | .number (.int n) => "integer `" ++ String.ofList (Text.intDigits n) ++ "`"
  | .number (.float x) => "floating point `" ++ x.text ++ "`"
  | .string s => "string " ++ Text.quoted s
  | .array => "sequence"
  | .object => "map"

/-- Why a value does not fit a record. -/
inductive Mismatch where
  | wrongType (found : Found) (expected : String)
  | missing (field : String)
  | repeated (field : String)
  | tooShort (length : Nat) (record : String) (fields : Nat)
  | tooLong (length : Nat)
  | unreadable (reason : String)
deriving DecidableEq, Repr

/-- The words for a mismatch. -/
def Mismatch.message : Mismatch → String
  | .wrongType found expected => "invalid type: " ++ found.text ++ ", expected " ++ expected
  | .missing field => "missing field `" ++ field ++ "`"
  | .repeated field => "duplicate field `" ++ field ++ "`"
  | .tooShort n record fields =>
    "invalid length " ++ n.repr ++ ", expected struct " ++ record ++ " with " ++ fields.repr
      ++ " elements"
  | .tooLong n => "invalid length " ++ n.repr ++ ", expected fewer elements in array"
  | .unreadable reason => reason

/-! ## Texts -/

/-- What a reader of JSON text can object to. -/
inductive Cause where
  | endInValue
  | endInArray
  | endInObject
  | endInString
  | expectedColon
  | expectedCommaOrBracket
  | expectedCommaOrBrace
  | expectedWord
  | expectedValue
  | invalidEscape
  | invalidNumber
  | numberOutOfRange
  | loneSurrogate
  | unpairedSurrogate
  | controlCharacter
  | keyMustBeString
  | trailingComma
  | trailingCharacters
  | mismatch (m : Mismatch)
deriving DecidableEq, Repr

/-- The words for a cause. -/
def Cause.message : Cause → String
  | .endInValue => "EOF while parsing a value"
  | .endInArray => "EOF while parsing a list"
  | .endInObject => "EOF while parsing an object"
  | .endInString => "EOF while parsing a string"
  | .expectedColon => "expected `:`"
  | .expectedCommaOrBracket => "expected `,` or `]`"
  | .expectedCommaOrBrace => "expected `,` or `\x7d`"
  | .expectedWord => "expected ident"
  | .expectedValue => "expected value"
  | .invalidEscape => "invalid escape"
  | .invalidNumber => "invalid number"
  | .numberOutOfRange => "number out of range"
  | .loneSurrogate => "lone leading surrogate in hex escape"
  | .unpairedSurrogate => "unexpected end of hex escape"
  | .controlCharacter => "control character (\\u0000-\\u001F) found while parsing a string"
  | .keyMustBeString => "key must be a string"
  | .trailingComma => "trailing comma"
  | .trailingCharacters => "trailing characters"
  | .mismatch m => m.message

/-- An objection, raised where `rest` is still to be read, `past` bytes into it. -/
structure Fault where
  cause : Cause
  rest : List Char
  past : Nat
deriving DecidableEq, Repr

namespace Fault

/-- An objection at the start of what is left. -/
def here (cause : Cause) (rest : List Char) : Fault := ⟨cause, rest, 0⟩

/-- An objection to the next byte of what is left, or to the end of the text. -/
def next (cause : Cause) (rest : List Char) : Fault := ⟨cause, rest, 1⟩

end Fault

/-- A place in a text: the line, from 1, and the bytes before it on that line. -/
structure Position where
  line : Nat
  column : Nat
deriving DecidableEq, Repr

/-- The place `n` bytes after `p`, where the text `t` follows, or its end. -/
def Position.advance (p : Position) (n : Nat) : List Char → Position
  | [] => p
  | c :: t =>
    if n = 0 then p
    else if c == '\n' then Position.advance ⟨p.line + 1, 0⟩ (n - 1) t
    else if n < c.utf8Size then ⟨p.line, p.column + n⟩
    else Position.advance ⟨p.line, p.column + c.utf8Size⟩ (n - c.utf8Size) t

/-- Where in the whole text an objection was raised. -/
def Fault.position (f : Fault) (whole : List Char) : Position :=
  Position.advance ⟨1, 0⟩ (Text.byteLength whole - Text.byteLength f.rest + f.past) whole

/-- The message for an objection to the whole text. -/
def Fault.message (f : Fault) (whole : List Char) : String :=
  let p := f.position whole
  f.cause.message ++ " at line " ++ p.line.repr ++ " column " ++ p.column.repr

end UserDirectory.Json

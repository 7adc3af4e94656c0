import UserDirectory.Json.Binary64
import UserDirectory.Keyed
import UserDirectory.Number

/-!
# Json.Value — JSON values and their text

* `Number`: an integer, or a binary floating-point number for everything else.
* `Json`: a value; an object lists its members in the order in which they are written.
* `Document`: an object as a map.
* `Json.quote s`: the text `s` as a JSON string.
* `Json.print v`: the compact text of `v`, members in the order in which it holds them.
-/

namespace UserDirectory

/-! ## Values -/

namespace Json

/-- A number: an integer of 64 bits (signed or not), or a floating-point number. -/
inductive Number where
  | int (n : Int)
  | float (x : Binary64)
deriving DecidableEq, Repr

end Json

/-- A JSON value. -/
inductive Json where
  | null
  | bool (b : Bool)
  | number (n : Json.Number)
  | string (s : String)
  | array (items : List Json)
  | object (members : List (String × Json))
deriving Inhabited, Repr

namespace Json

/-- The text of a value that is a string. -/
def string? : Json → Option String
  | .string s => some s
  | _ => none

/-- The members of a value that is an object. -/
def members? : Json → Option (List (String × Json))
  | .object ms => some ms
  | _ => none

/-- The member of an object with the name; of several, the last. -/
def get? (v : Json) (name : String) : Option Json :=
  match v with
  | .object ms => (ms.reverse.find? (·.1 == name)).map (·.2)
  | _ => none

end Json

/-! ## Documents -/

/-- A JSON object by its members' names. -/
abbrev Document := Keyed String Json

/-! ## Compact text -/

namespace Json

open Text (hexDigit intDigits)

/-- How a character is written inside a string: the quote, the backslash and the control
characters are escaped, by a letter where there is one, and everything else stands for itself. -/
def escapeChar (c : Char) : List Char :=
  if c == '"' then ['\\', '"']
  else if c == '\\' then ['\\', '\\']
  else if c == '\x08' then ['\\', 'b']
  else if c == '\x0c' then ['\\', 'f']
  else if c == '\n' then ['\\', 'n']
  else if c == '\r' then ['\\', 'r']
  else if c == '\t' then ['\\', 't']
  else if c.toNat < 0x20 then
    ['\\', 'u', '0', '0', hexDigit (c.toNat / 16), hexDigit (c.toNat % 16)]
  else [c]

/-- A text as a JSON string, with its quotes. -/
def quote (s : List Char) : List Char := '"' :: (s.flatMap escapeChar ++ ['"'])

/-- The text of a number. -/
def Number.print : Number → List Char
  | .int n => intDigits n
  | .float x => x.text.toList

mutual

/-- The compact text of a value. -/
def print : Json → List Char
  | .null => ['n', 'u', 'l', 'l']
  | .bool true => ['t', 'r', 'u', 'e']
  | .bool false => ['f', 'a', 'l', 's', 'e']
  | .number n => n.print
  | .string s => quote s.toList
  | .array vs => '[' :: (printItems vs ++ [']'])
  | .object ms => '\x7b' :: (printMembers ms ++ ['\x7d'])

/-- Items with commas between them. -/
def printItems : List Json → List Char
  | [] => []
  | [v] => print v
  | v :: w :: vs => print v ++ ',' :: printItems (w :: vs)

/-- Members with commas between them. -/
def printMembers : List (String × Json) → List Char
  | [] => []
  | [(k, v)] => quote k.toList ++ ':' :: print v
  | (k, v) :: m :: ms => quote k.toList ++ ':' :: (print v ++ ',' :: printMembers (m :: ms))

end

/-- The compact text of a value. -/
def text (v : Json) : String := String.ofList v.print

end Json
end UserDirectory

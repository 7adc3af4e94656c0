import UserDirectory.Json.Fault
import UserDirectory.Number

/-!
# Json.Scanner — the small parts of JSON text

* `skipBlanks`, `scanWord`: white space, and the rest of `null`, `true` or `false`.
* `readString`: the inside of a string, escapes undone.
* `scanNumeral`, `Numeral.number`: the parts of a number, and its value.

Each scanner gives what it read and the text that is left, or a fault.
-/

namespace UserDirectory.Json

open Text (byteLength hexValue? digitValue natBelow?)

/-- White space between the tokens of JSON. -/
def isBlank (c : Char) : Bool := c == ' ' || c == '\n' || c == '\t' || c == '\r'

/-- The text from its first token on. -/
def skipBlanks (t : List Char) : List Char := t.dropWhile isBlank

/-- What is left after the letters of a word. -/
def scanWord : List Char → List Char → Except Fault (List Char)
  | [], t => .ok t
  | _ :: _, [] => .error (.here .endInValue [])
  | e :: w, c :: r => if c == e then scanWord w r else .error (.next .expectedWord (c :: r))

/-! ## Strings -/

/-- The character that a letter after a backslash stands for. -/
def unescape? (c : Char) : Option Char :=
  if c == '"' || c == '\\' || c == '/' then some c
  else if c == 'b' then some '\x08'
  else if c == 'f' then some '\x0c'
  else if c == 'n' then some '\n'
  else if c == 'r' then some '\r'
  else if c == 't' then some '\t'
  else none

/-- Where a reader stands inside a string: between characters, after a backslash, among the
four digits of an escape (with the text that follows its `u`, the first half of a pair if it is
the second half, and the digits so far), or between the halves of a pair. -/
inductive StringMode where
  | plain
  | escape
  | digits (start : List Char) (lead : Option Nat) (seen value : Nat)
  | pair (lead : Nat)
  | pairDigits (lead : Nat)

/-- The objection to an escape whose four bytes are not four digits. -/
def badDigits (start : List Char) : Fault :=
  if byteLength start < 4 then .here .endInString [] else ⟨.invalidEscape, start, 4⟩

/-- Whether a UTF-16 unit is the first half of a pair. -/
def isLead (n : Nat) : Bool := 0xD800 ≤ n && n ≤ 0xDBFF

/-- Whether a UTF-16 unit is the second half of a pair. -/
def isTrail (n : Nat) : Bool := 0xDC00 ≤ n && n ≤ 0xDFFF

/-- Reads a string from inside up to its closing quote; `acc` holds the characters so far, the
last one first. -/
def readString : StringMode → List Char → List Char → Except Fault (String × List Char)
  | .digits start _ _ _, _, [] => .error (badDigits start)
  | _, _, [] => .error (.here .endInString [])
  | .plain, acc, c :: r =>
    if c == '"' then .ok (String.ofList acc.reverse, r)
    else if c == '\\' then readString .escape acc r
    else if c.toNat < 0x20 then .error (.here .controlCharacter r)
    else readString .plain (c :: acc) r
  | .escape, acc, c :: r =>
    if c == 'u' then readString (.digits r none 0 0) acc r
    else
      match unescape? c with
      | some d => readString .plain (d :: acc) r
      | none => .error (.next .invalidEscape (c :: r))
  | .digits start lead seen value, acc, c :: r =>
    match hexValue? c with
    | none => .error (badDigits start)
    | some d =>
      let value := 16 * value + d
      if seen < 3 then readString (.digits start lead (seen + 1) value) acc r
      else
        match lead with
        | none =>
          if isTrail value then .error (.here .loneSurrogate r)
          else if isLead value then readString (.pair value) acc r
          else readString .plain (Char.ofNat value :: acc) r
        | some lead =>
          if isTrail value then
            readString .plain
              (Char.ofNat (0x10000 + 0x400 * (lead - 0xD800) + (value - 0xDC00)) :: acc) r
          else .error (.here .loneSurrogate r)
  | .pair lead, acc, c :: r =>
    if c == '\\' then readString (.pairDigits lead) acc r
    else .error (.next .unpairedSurrogate (c :: r))
  | .pairDigits lead, acc, c :: r =>
    if c == 'u' then readString (.digits r (some lead) 0 0) acc r
    else .error (.next .unpairedSurrogate (c :: r))

/-- Reads a string whose opening quote has been read. -/
def stringTail (t : List Char) : Except Fault (String × List Char) := readString .plain [] t

/-! ## Numbers -/

/-- The parts of a number as written: digits before and after the point, and the exponent with
its sign. -/
structure Numeral where
  negative : Bool
  whole : List Char
  fraction : Option (List Char)
  exponent : Option (Bool × List Char)
deriving DecidableEq, Repr

/-- The digits before the point: `0`, or digits that do not start with it. -/
def scanWhole : List Char → Except Fault (List Char × List Char)
  | [] => .error (.here .endInValue [])
  | c :: r =>
    if c == '0' then
      match r with
      | d :: _ => if d.isDigit then .error (.next .invalidNumber r) else .ok (['0'], r)
      | [] => .ok (['0'], [])
    else if c.isDigit then .ok (c :: r.takeWhile Char.isDigit, r.dropWhile Char.isDigit)
    else .error (.next .invalidNumber (c :: r))

/-- One digit or more. -/
def scanDigits (t : List Char) : Except Fault (List Char × List Char) :=
  match t with
  | [] => .error (.here .endInValue [])
  | c :: _ =>
    if c.isDigit then .ok (t.takeWhile Char.isDigit, t.dropWhile Char.isDigit)
    else .error (.next .invalidNumber t)

/-- The digits after a point, if there is one. -/
def scanFraction : List Char → Except Fault (Option (List Char) × List Char)
  | '.' :: r => do
    let (ds, rest) ← scanDigits r
    return (some ds, rest)
  | t => .ok (none, t)

/-- The sign and the digits of an exponent, if there is one. -/
def scanExponent : List Char → Except Fault (Option (Bool × List Char) × List Char)
  | [] => .ok (none, [])
  | c :: r =>
    if c == 'e' || c == 'E' then do
      let (negative, r) := match r with
        | '+' :: r => (false, r)
        | '-' :: r => (true, r)
        | r => (false, r)
      let (ds, rest) ← scanDigits r
      return (some (negative, ds), rest)
    else .ok (none, c :: r)

/-- The parts of a number. -/
def scanNumeral (t : List Char) : Except Fault (Numeral × List Char) := do
  let (negative, t) := match t with
    | '-' :: r => (true, r)
    | t => (false, t)
  let (whole, t) ← scanWhole t
  let (fraction, t) ← scanFraction t
  let (exponent, t) ← scanExponent t
  return (⟨negative, whole, fraction, exponent⟩, t)

/-- Takes digits behind those of `n` while the number stays below the bound; the number and the
digits that are left. -/
def absorb (bound n : Nat) : List Char → Nat × List Char
  | [] => (n, [])
  | c :: r =>
    if 10 * n + digitValue c < bound then absorb bound (10 * n + digitValue c) r else (n, c :: r)

/-- The greatest exponent that is computed with, and one more. -/
def exponentBound : Nat := twoPow 31

/-- The floating-point number for a numeral that is followed by `rest`.  Digits that a 64-bit
significand has no room for only shift it. -/
def Numeral.float (n : Numeral) (rest : List Char) : Except Fault Binary64 :=
  let (s, lost) := absorb (twoPow 64) 0 n.whole
  let fraction := n.fraction.getD []
  let (s, lostFraction) := absorb (twoPow 64) s fraction
  let shift : Int := (lost.length : Int) - ((fraction.length - lostFraction.length : Nat) : Int)
  let scaled (e : Int) : Except Fault Binary64 :=
    match Binary64.scale? n.negative s e with
    | some x => .ok x
    | none => .error (.here .numberOutOfRange rest)
  match n.exponent with
  | none => scaled shift
  | some (negative, ds) =>
    match absorb exponentBound 0 ds with
    | (e, []) => scaled (if negative then shift - e else shift + e)
    | (_, _ :: more) =>
      if s ≠ 0 && !negative then .error (.here .numberOutOfRange (more ++ rest))
      else .ok (.zero n.negative)

/-- The value of a numeral that is followed by `rest`: an integer if it is written as one and
fits 64 bits, but for minus zero. -/
def Numeral.number (n : Numeral) (rest : List Char) : Except Fault Number :=
  let isInteger := n.fraction.isNone && n.exponent.isNone
  match natBelow? (twoPow 64) n.whole with
  | some v =>
    if isInteger && !n.negative then .ok (.int v)
    else if isInteger && 0 < v && v ≤ twoPow 63 then .ok (.int (-(v : Int)))
    else (n.float rest).map .float
  | none => (n.float rest).map .float

/-- Reads a number. -/
def readNumber (t : List Char) : Except Fault (Number × List Char) := do
  let (n, rest) ← scanNumeral t
  let v ← n.number rest
  return (v, rest)

end UserDirectory.Json

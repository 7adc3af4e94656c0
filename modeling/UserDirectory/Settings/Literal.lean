import UserDirectory.Number
import UserDirectory.Settings.Given
import UserDirectory.Text.Unicode

/-!
# Settings.Literal — the values of environment variables

* `Literal.read`: a value as a literal: `true` in either case, a number of 64 bits, a quoted text,
  a character, a list in brackets or a table in braces; anything else is the text itself.
* `Literal.ofVariable`: the same, but for a value with commas, which is a list.
-/

namespace UserDirectory.Settings.Literal

/-- A character that ends a bare literal. -/
def isSeparator (c : Char) : Bool :=
  c == ',' || c == '\x7b' || c == '\x7d' || c == '[' || c == ']'

/-- A blank of ASCII. -/
def isBlank (c : Char) : Bool :=
  c == ' ' || c == '\t' || c == '\n' || c == '\r' || c == '\x0c'

/-- The text without its leading blanks. -/
def skipBlanks (t : List Char) : List Char := t.dropWhile isBlank

/-! ## Numbers -/

/-- The integer of 64 bits, with a sign or without, that a text writes. -/
def integer? (t : List Char) : Option Int :=
  (Text.integer? (twoPow 64) t).filter (-(twoPow 63 : Int) ≤ ·)

/-- The value of a bare literal; one with a point may be a decimal number. -/
def ofBare (t : List Char) : Given :=
  let t := Text.trim t
  match if t.contains '.' then Decimal.read? t else none with
  | some d => if d.isFinite then .other else .nothing
  | none =>
    match integer? t with
    | some n => .integer n
    | none => .text (String.ofList t)

/-! ## Quoted texts -/

/-- The character that a letter after a backslash stands for. -/
def unescape? (c : Char) : Option Char :=
  if c == '"' || c == '\\' then some c
  else if c == 'b' then some '\x08'
  else if c == 'f' then some '\x0c'
  else if c == 'n' then some '\n'
  else if c == 'r' then some '\r'
  else if c == 't' then some '\t'
  else none

/-- The number of digits behind a letter that says that the number of a character follows. -/
def codeLength? (c : Char) : Option Nat :=
  if c == 'u' then some 4 else if c == 'U' then some 8 else none

/-- The character with the number that so many hexadecimal digits write. -/
def charOfHex? (length : Nat) (ds : List Char) : Option Char :=
  if ds.length = length && ds.all (fun c => (Text.hexValue? c).isSome) then
    let n := Text.natOfHex ds
    if n.isValidChar then some (Char.ofNat n) else none
  else none

/-- Whether a character may stand for itself between quotes. -/
def isPlain (c : Char) : Bool := c == '\t' || (0x20 ≤ c.toNat && c.toNat != 0x7F)

/-- The inside of a quoted text, up to its closing quote; the number is that of the characters
still to be passed over. -/
def quotedTail (acc : List Char) : Nat → List Char → Option (List Char × List Char)
  | _, [] => none
  | skip + 1, _ :: r => quotedTail acc skip r
  | 0, '"' :: r => some (acc.reverse, r)
  | 0, '\\' :: c :: r =>
    match codeLength? c with
    | some n =>
      match charOfHex? n (r.take n) with
      | some d => quotedTail (d :: acc) n r
      | none => none
    | none =>
      match unescape? c with
      | some d => quotedTail (d :: acc) 0 r
      | none => none
  | 0, c :: r => if isPlain c then quotedTail (c :: acc) 0 r else none

/-! ## Literals -/

/-- What follows a word, in either case, at the start of a text. -/
def after? (word t : List Char) : Option (List Char) :=
  if word.isPrefixOf (t.map Char.toLower) then some (t.drop word.length) else none

/-- A character of a name that is not quoted. -/
def isBare (c : Char) : Bool := c.isAlphanum || c == '_' || c == '-'

/-- The name of a table's entry. -/
def scanName (t : List Char) : Option (List Char) :=
  match t with
  | '"' :: r => (quotedTail [] 0 r).map (·.2)
  | t => if (t.takeWhile isBare).isEmpty then none else some (t.dropWhile isBare)

mutual

/-- Reads a literal and the blanks around it; the number bounds how deep it is. -/
def scan : Nat → List Char → Option (Given × List Char)
  | 0, _ => none
  | fuel + 1, t => do
    let t := skipBlanks t
    let (v, rest) ←
      match after? ['t', 'r', 'u', 'e'] t, after? ['f', 'a', 'l', 's', 'e'] t, t with
      | some r, _, _ => some (Given.other, r)
      | none, some r, _ => some (Given.other, r)
      | none, none, '[' :: r => (scanList fuel r).map (Given.other, ·)
      | none, none, '\x7b' :: r => (scanTable fuel r).map (Given.other, ·)
      | none, none, '"' :: r =>
        (quotedTail [] 0 r).map fun (s, rest) => (Given.text (String.ofList s), rest)
      | none, none, '\x27' :: c :: '\x27' :: r => some (Given.text c.toString, r)
      | none, none, '\x27' :: _ => none
      | none, none, t =>
        some (ofBare (t.takeWhile (!isSeparator ·)), t.dropWhile (!isSeparator ·))
    return (v, skipBlanks rest)

/-- Reads the literals of a list up to its closing bracket. -/
def scanList : Nat → List Char → Option (List Char)
  | 0, _ => none
  | fuel + 1, t =>
    match t with
    | ']' :: r => some r
    | t => do
      let (_, rest) ← scan fuel t
      match rest with
      | ',' :: r => scanList fuel r
      | ']' :: r => some r
      | _ => none

/-- Reads the entries of a table up to its closing brace. -/
def scanTable : Nat → List Char → Option (List Char)
  | 0, _ => none
  | fuel + 1, t =>
    match t with
    | '\x7d' :: r => some r
    | t => do
      let rest ← scanName (skipBlanks t)
      match skipBlanks rest with
      | '=' :: r =>
        let (_, rest) ← scan fuel r
        match rest with
        | ',' :: r => scanTable fuel r
        | '\x7d' :: r => some r
        | _ => none
      | _ => none

end

/-- The value of a whole text. -/
def read (t : List Char) : Given :=
  match scan (2 * t.length + 2) t with
  | some (v, []) => v
  | _ => .text (String.ofList t)

/-- The value of an environment variable.  Commas make it a list, unless it starts as a literal of
another kind. -/
def ofVariable (s : String) : Given :=
  let t := Text.trim s.toList
  let isMarked :=
    match t with
    | c :: _ => c == '[' || c == '\x7b' || c == '"' || c == '\x27'
    | [] => false
  if t.contains ',' && !isMarked then .other else read t

end UserDirectory.Settings.Literal

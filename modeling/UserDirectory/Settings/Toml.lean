import UserDirectory.Calendar
import UserDirectory.Number
import UserDirectory.Settings.Given

/-!
# Settings.Toml — configuration files

* `Toml.Version`: the two versions of the language, of which the later one allows more.
* `Toml.layer?`: reads a file and gives the entries of its root table; it gives nothing if the
  file is not TOML of the version.

Tables are kept as a list of definitions, each a path with what stands there, which is enough to
tell that nothing is defined twice.
-/

namespace UserDirectory.Settings.Toml

/-! ## Versions -/

/-- A version of the language. -/
inductive Version where
  | v10
  | v11
deriving DecidableEq, Repr

namespace Version

/-- How deep brackets and braces may be nested, and how many names a path may have. -/
def maxDepth : Version → Nat
  | .v10 => 79
  | .v11 => 80

/-- Whether a table in braces may go over several lines and end in a comma. -/
def hasLongTables : Version → Bool
  | .v10 => false
  | .v11 => true

/-- Whether the escapes of the escape character and of characters below U+0100 exist. -/
def hasShortEscapes : Version → Bool
  | .v10 => false
  | .v11 => true

/-- Whether a time may go without seconds. -/
def hasShortTimes : Version → Bool
  | .v10 => false
  | .v11 => true

end Version

/-! ## Definitions -/

/-- What stands at a path: a value; a table that only its parts name, that a header names, or
that a dotted key makes; or an array of tables with so many entries. -/
inductive Definition where
  | value (v : Given)
  | implied
  | headed
  | dotted
  | tables (count : Nat)
deriving DecidableEq, Repr

/-- Definitions by their paths, the latest first. -/
abbrev Definitions := List (List String × Definition)

/-- What stands at a path. -/
def Definitions.at? (ds : Definitions) (path : List String) : Option Definition :=
  (ds.find? (·.1 == path)).map (·.2)

/-- The path of the last table of an array. -/
def lastTable (path : List String) (count : Nat) : List String :=
  path ++ ["[" ++ count.repr ++ "]"]

/-- Goes along a header's path, all but its last name; `base` is where it has come. -/
def enter (ds : Definitions) (base : List String) : List String →
    Option (Definitions × List String)
  | [] => some (ds, base)
  | name :: names =>
    let path := base ++ [name]
    match ds.at? path with
    | none => enter ((path, .implied) :: ds) path names
    | some (.value _) => none
    | some (.tables n) => enter ds (lastTable path n) names
    | some _ => enter ds path names

/-- A table header: where its entries go. -/
def openTable (ds : Definitions) (names : List String) : Option (Definitions × List String) := do
  let (ds, path) ← enter ds [] names.dropLast
  let path := path ++ names.getLast?.toList
  match ds.at? path with
  | none | some .implied => return ((path, .headed) :: ds, path)
  | some _ => none

/-- The header of one table of an array: where its entries go. -/
def openEntry (ds : Definitions) (names : List String) : Option (Definitions × List String) := do
  let (ds, path) ← enter ds [] names.dropLast
  let path := path ++ names.getLast?.toList
  match ds.at? path with
  | none => return ((path, .tables 1) :: ds, lastTable path 1)
  | some (.tables n) => return ((path, .tables (n + 1)) :: ds, lastTable path (n + 1))
  | some _ => none

/-- Goes along a dotted key, all but its last name; `base` is where it has come.  Only tables
that no header names can be gone into, and the last tables of arrays. -/
def enterDotted (ds : Definitions) (base : List String) : List String →
    Option (Definitions × List String)
  | [] => some (ds, base)
  | name :: names =>
    let path := base ++ [name]
    match ds.at? path with
    | none => enterDotted ((path, .dotted) :: ds) path names
    | some .dotted | some .implied => enterDotted ds path names
    | some (.tables n) => enterDotted ds (lastTable path n) names
    | some _ => none

/-- Puts a value at a path.  Of a dotted key all names but the last are gone along, and the table
that the value goes into is one that dotted keys make. -/
def put (ds : Definitions) (base : List String) (v : Given) (names : List String) :
    Option Definitions := do
  let (ds, table) ← enterDotted ds base names.dropLast
  if 1 < names.length && ds.at? table != some .dotted then none
  let path := table ++ names.getLast?.toList
  if (ds.at? path).isSome then none else some ((path, .value v) :: ds)

/-! ## Blanks and ends of lines -/

/-- A blank within a line. -/
def isBlank (c : Char) : Bool := c == ' ' || c == '\t'

/-- A character that may not stand for itself. -/
def isControl (c : Char) : Bool := (c.toNat < 0x20 && c != '\t') || c.toNat == 0x7F

/-- The text without its leading blanks. -/
def skipBlanks (t : List Char) : List Char := t.dropWhile isBlank

/-- The text from the end of its line on, less a comment; a comment has no control characters. -/
def skipComment (t : List Char) : Option (List Char) :=
  match t with
  | '#' :: r =>
    let rest := r.dropWhile (!isControl ·)
    match rest with
    | [] | '\n' :: _ | '\r' :: '\n' :: _ => some rest
    | _ => none
  | t => some t

/-- What follows the end of a line. -/
def newline? : List Char → Option (List Char)
  | '\n' :: r => some r
  | '\r' :: '\n' :: r => some r
  | _ => none

/-- What follows a line whose part that matters has been read. -/
def endLine (t : List Char) : Option (List Char) := do
  let t ← skipComment (skipBlanks t)
  if t.isEmpty then some [] else newline? t

/-- Skips blanks, comments and ends of lines; the number bounds how many lines. -/
def skipLines : Nat → List Char → Option (List Char)
  | 0, t => some t
  | fuel + 1, t => do
    let t ← skipComment (skipBlanks t)
    match newline? t with
    | some r => skipLines fuel r
    | none => some t

/-! ## Texts -/

/-- The number of hexadecimal digits, if they are all digits. -/
def hex? (ds : List Char) (length : Nat) : Option Nat :=
  if ds.length = length && ds.all (fun c => (Text.hexValue? c).isSome) then some (Text.natOfHex ds)
  else none

/-- The character with the number, if it is one. -/
def char? (n : Nat) : Option Char := if n.isValidChar then some (Char.ofNat n) else none

/-- The character with a number in so many digits, which come first in a text. -/
def hexEscape? (length : Nat) (t : List Char) : Option (Char × Nat) :=
  (hex? (t.take length) length).bind fun n => (char? n).map (·, length)

/-- The character that an escape stands for, and how many characters follow its letter. -/
def escape? (v : Version) (c : Char) (r : List Char) : Option (Char × Nat) :=
  if c == 'b' then some ('\x08', 0)
  else if c == 't' then some ('\t', 0)
  else if c == 'n' then some ('\n', 0)
  else if c == 'f' then some ('\x0c', 0)
  else if c == 'r' then some ('\r', 0)
  else if c == '"' then some ('"', 0)
  else if c == '\\' then some ('\\', 0)
  else if c == 'u' then hexEscape? 4 r
  else if c == 'U' then hexEscape? 8 r
  else if c == 'e' && v.hasShortEscapes then some ('\x1b', 0)
  else if c == 'x' && v.hasShortEscapes then hexEscape? 2 r
  else none

/-- The inside of a text in double quotes, up to the closing one; the number is that of the
characters still to be passed over. -/
def basic (v : Version) (acc : List Char) : Nat → List Char → Option (List Char × List Char)
  | _, [] => none
  | skip + 1, _ :: r => basic v acc skip r
  | 0, '"' :: r => some (acc.reverse, r)
  | 0, '\\' :: c :: r =>
    match escape? v c r with
    | some (d, n) => basic v (d :: acc) n r
    | none => none
  | 0, c :: r => if isControl c || c == '\\' then none else basic v (c :: acc) 0 r

/-- The inside of a text in single quotes. -/
def literal (t : List Char) : Option (List Char × List Char) :=
  let inside := t.takeWhile fun c => c != '\x27' && !isControl c
  match t.drop inside.length with
  | '\x27' :: r => some (inside, r)
  | _ => none

/-- The end of a text of several lines: three marks, of which up to two more belong to it. -/
def longEnd? (mark : Char) (t : List Char) : Option (List Char × List Char) :=
  let marks := (t.take 5).takeWhile (· == mark)
  if marks.length < 3 then none else some (marks.drop 3, t.drop marks.length)

/-- Whether nothing but blanks follows on a line, after a backslash. -/
def continues (t : List Char) : Bool := (newline? (skipBlanks t)).isSome

/-- How many characters of blanks and ends of lines come first in a text. -/
def gapLength : List Char → Nat
  | '\r' :: '\n' :: r => gapLength r + 2
  | c :: r => if isBlank c || c == '\n' then gapLength r + 1 else 0
  | [] => 0

/-- The inside of a text of several lines in double quotes; the number is that of the characters
still to be passed over. -/
def longBasic (v : Version) (acc : List Char) : Nat → List Char → Option (List Char × List Char)
  | _, [] => none
  | skip + 1, _ :: r => longBasic v acc skip r
  | 0, c :: r =>
    if c == '"' then
      match longEnd? '"' (c :: r) with
      | some (more, rest) => some (acc.reverse ++ more, rest)
      | none => longBasic v (c :: acc) 0 r
    else if c == '\\' then
      if continues r then longBasic v acc (gapLength r) r
      else
        match r with
        | e :: after =>
          match escape? v e after with
          | some (d, n) => longBasic v (d :: acc) (n + 1) r
          | none => none
        | [] => none
    else if isControl c && c != '\n' && !(c == '\r' && r.head? == some '\n') then none
    else longBasic v (c :: acc) 0 r

/-- The inside of a text of several lines in single quotes. -/
def longLiteral (acc : List Char) : List Char → Option (List Char × List Char)
  | [] => none
  | c :: r =>
    match longEnd? '\x27' (c :: r) with
    | some (more, rest) => some (acc.reverse ++ more, rest)
    | none =>
      if isControl c && c != '\n' && !(c == '\r' && r.head? == some '\n') then none
      else longLiteral (c :: acc) r

/-- The text without a first end of line. -/
def dropNewline (t : List Char) : List Char := (newline? t).getD t

/-! ## Names -/

/-- A character of a bare name. -/
def isBare (c : Char) : Bool := c.isAlphanum || c == '_' || c == '-'

/-- One name. -/
def scanName (v : Version) (t : List Char) : Option (String × List Char) :=
  match t with
  | '"' :: r => (basic v [] 0 r).map fun (s, rest) => (String.ofList s, rest)
  | '\x27' :: r => (literal r).map fun (s, rest) => (String.ofList s, rest)
  | t =>
    let name := t.takeWhile isBare
    if name.isEmpty then none else some (String.ofList name, t.dropWhile isBare)

/-- Names with points between them, of which there may be so many. -/
def scanNames (v : Version) : Nat → List Char → Option (List String × List Char)
  | 0, _ => none
  | count + 1, t => do
    let (name, rest) ← scanName v (skipBlanks t)
    match skipBlanks rest with
    | '.' :: r =>
      let (names, rest) ← scanNames v count r
      return (name :: names, rest)
    | rest => return ([name], rest)

/-- A path. -/
def scanPath (v : Version) (t : List Char) : Option (List String × List Char) :=
  scanNames v v.maxDepth t

/-! ## Numbers, dates and times -/

/-- Digits with single underscores between them. -/
def isGrouped (isDigit : Char → Bool) : List Char → Bool
  | [] => false
  | [c] => isDigit c
  | c :: '_' :: r => isDigit c && isGrouped isDigit r
  | c :: r => isDigit c && isGrouped isDigit r

/-- Digits without leading zeros. -/
def isWhole (t : List Char) : Bool :=
  isGrouped Char.isDigit t && (t.length == 1 || t.head? != some '0')

/-- The number that digits write to a base. -/
def natOf (base : Nat) (t : List Char) : Nat :=
  (t.filter (· != '_')).foldl (fun n c => base * n + (Text.hexValue? c).getD 0) 0

/-- A natural number to another base, after its letter. -/
def based? (t : List Char) : Option Nat :=
  match t with
  | '0' :: 'x' :: r =>
    if isGrouped (fun c => (Text.hexValue? c).isSome) r then some (natOf 16 r) else none
  | '0' :: 'o' :: r =>
    if isGrouped (fun c => '0' ≤ c && c ≤ '7') r then some (natOf 8 r) else none
  | '0' :: 'b' :: r =>
    if isGrouped (fun c => c == '0' || c == '1') r then some (natOf 2 r) else none
  | _ => none

/-- An integer of 64 bits. -/
def integer? (t : List Char) : Option Int :=
  let value : Option Int :=
    match based? t with
    | some n => some n
    | none =>
      let (negative, digits) := Decimal.splitSign t
      if isWhole digits then
        some (if negative then -(natOf 10 digits : Int) else natOf 10 digits)
      else none
  value.filter (fitsSigned 64)

/-- Whether a text is a decimal number with a fraction, an exponent or both. -/
def isDecimal (t : List Char) : Bool :=
  let (_, t) := Decimal.splitSign t
  let isPart (c : Char) : Bool := c.isDigit || c == '_'
  let isExponent : List Char → Bool
    | [] => true
    | c :: r => (c == 'e' || c == 'E') && isGrouped Char.isDigit (Decimal.splitSign r).2
  isWhole (t.takeWhile isPart) &&
    match t.dropWhile isPart with
    | '.' :: r => isGrouped Char.isDigit (r.takeWhile isPart) && isExponent (r.dropWhile isPart)
    | [] => false
    | r => isExponent r

/-- What a number that is not an integer is: no value if it is infinite or not a number, and a
fault if it is finite but out of range. -/
def decimal? (t : List Char) : Option Given :=
  let (_, word) := Decimal.splitSign t
  if word == ['i', 'n', 'f'] || word == ['n', 'a', 'n'] then some .nothing
  else if isDecimal t then
    ((Decimal.read? (t.filter (· != '_'))).filter Decimal.isFinite).map fun _ => .other
  else none

/-- A number in so many digits, with what follows it. -/
def fixed? (digits low high : Nat) (t : List Char) : Option (Nat × List Char) :=
  let ds := t.take digits
  let n := Text.natOfDigits ds
  if ds.length = digits && ds.all Char.isDigit && low ≤ n && n ≤ high then
    some (n, t.drop digits)
  else none

/-- What follows a mark. -/
def mark? (c : Char) : List Char → Option (List Char)
  | d :: r => if d == c then some r else none
  | [] => none

/-- What follows a date. -/
def date? (t : List Char) : Option (List Char) := do
  let (year, t) ← fixed? 4 0 9999 t
  let (month, t) ← fixed? 2 1 12 (← mark? '-' t)
  let (_, t) ← fixed? 2 1 (Date.daysInMonth year month) (← mark? '-' t)
  return t

/-- What follows the seconds of a time of day. -/
def seconds? (t : List Char) : Option (List Char) := do
  let (_, t) ← fixed? 2 0 60 t
  match t with
  | '.' :: r => if (r.takeWhile Char.isDigit).isEmpty then none else some (r.dropWhile Char.isDigit)
  | t => some t

/-- What follows a time of day. -/
def time? (v : Version) (t : List Char) : Option (List Char) := do
  let (_, t) ← fixed? 2 0 23 t
  let (_, t) ← fixed? 2 0 59 (← mark? ':' t)
  match t with
  | ':' :: r => seconds? r
  | t => if v.hasShortTimes then some t else none

/-- Whether a text is an offset from UTC, or none. -/
def isOffset (t : List Char) : Bool :=
  match t with
  | [] | ['Z'] | ['z'] => true
  | c :: r =>
    (c == '+' || c == '-') &&
      (do
        let (_, t) ← fixed? 2 0 23 r
        let (_, t) ← fixed? 2 0 59 (← mark? ':' t)
        return t.isEmpty).getD false

/-- Whether a text is a date, a time, or both. -/
def isDateTime (v : Version) (t : List Char) : Bool :=
  match date? t with
  | some [] => true
  | some (c :: r) => (c == 'T' || c == 't' || c == ' ') && ((time? v r).map isOffset).getD false
  | none => ((time? v t).map List.isEmpty).getD false

/-- A character of a number, a date, a time or a word. -/
def isScalarChar (c : Char) : Bool :=
  c.isAlphanum || c == '+' || c == '-' || c == '_' || c == '.' || c == ':'

/-- The text of a value that is not quoted or bracketed; a date may go on after a space. -/
def scalarText (t : List Char) : List Char :=
  let word := t.takeWhile isScalarChar
  match t.dropWhile isScalarChar with
  | ' ' :: c :: r =>
    if (date? word) == some [] && c.isDigit then word ++ ' ' :: (c :: r).takeWhile isScalarChar
    else word
  | _ => word

/-- A value that is not quoted or bracketed. -/
def scalar (v : Version) (t : List Char) : Option (Given × List Char) :=
  let word := scalarText t
  let rest := t.drop word.length
  if word == ['t', 'r', 'u', 'e'] || word == ['f', 'a', 'l', 's', 'e'] then some (.other, rest)
  else
    match integer? word with
    | some n => some (.integer n, rest)
    | none => if isDateTime v word then some (.other, rest) else (decimal? word).map (·, rest)

/-! ## Values -/

/-- Skips what may stand between the entries of a table in braces. -/
def skipGap (v : Version) (t : List Char) : Option (List Char) :=
  if v.hasLongTables then skipLines t.length t else some (skipBlanks t)

/-- A text as a value. -/
def asText (r : Option (List Char × List Char)) : Option (Given × List Char) :=
  r.map fun (s, rest) => (.text (String.ofList s), rest)

mutual

/-- A value; the first number bounds how many parts are read, the second how deep they are. -/
def scanValue (v : Version) : Nat → Nat → List Char → Option (Given × List Char)
  | 0, _, _ => none
  | fuel + 1, depth, t =>
    match t, depth with
    | '"' :: '"' :: '"' :: r, _ => asText (longBasic v [] 0 (dropNewline r))
    | '"' :: r, _ => asText (basic v [] 0 r)
    | '\x27' :: '\x27' :: '\x27' :: r, _ => asText (longLiteral [] (dropNewline r))
    | '\x27' :: r, _ => asText (literal r)
    | '[' :: _, 0 => none
    | '[' :: r, depth + 1 => (scanArray v fuel depth r).map (.other, ·)
    | '\x7b' :: _, 0 => none
    | '\x7b' :: r, depth + 1 => (scanTable v fuel depth true [] r).map (.other, ·)
    | t, _ => scalar v t

/-- The items of an array, which may stand on several lines. -/
def scanArray (v : Version) : Nat → Nat → List Char → Option (List Char)
  | 0, _, _ => none
  | fuel + 1, depth, t => do
    let t ← skipLines t.length t
    match t with
    | ']' :: r => some r
    | t =>
      let (_, t) ← scanValue v fuel depth t
      let t ← skipLines t.length t
      match t with
      | ',' :: r => scanArray v fuel depth r
      | ']' :: r => some r
      | _ => none

/-- The entries of a table in braces; `first` says that none has been read. -/
def scanTable (v : Version) : Nat → Nat → Bool → Definitions → List Char → Option (List Char)
  | 0, _, _, _, _ => none
  | fuel + 1, depth, first, ds, t => do
    let t ← skipGap v t
    match t with
    | '\x7d' :: r => if first || v.hasLongTables then some r else none
    | t =>
      let (names, t) ← scanPath v t
      let t ← mark? '=' t
      let (given, t) ← scanValue v fuel depth (skipBlanks t)
      let ds ← put ds [] given names
      let t ← skipGap v t
      match t with
      | ',' :: r => scanTable v fuel depth false ds r
      | '\x7d' :: r => some r
      | _ => none

end

/-! ## Files -/

/-- One line or entry of a file: the definitions after it, the path of the table whose entries
follow, and the text that is left. -/
def scanEntry (v : Version) (ds : Definitions) (table : List String) (t : List Char) :
    Option (Definitions × List String × List Char) :=
  match t with
  | '[' :: '[' :: r => do
    let (names, t) ← scanPath v r
    let t ← endLine (← mark? ']' (← mark? ']' t))
    let (ds, table) ← openEntry ds names
    return (ds, table, t)
  | '[' :: r => do
    let (names, t) ← scanPath v r
    let t ← endLine (← mark? ']' t)
    let (ds, table) ← openTable ds names
    return (ds, table, t)
  | t => do
    let (names, t) ← scanPath v t
    let t ← mark? '=' t
    let (given, t) ← scanValue v t.length v.maxDepth (skipBlanks t)
    let ds ← put ds table given names
    let t ← endLine t
    return (ds, table, t)

/-- The definitions of a file; the number bounds how many entries it has. -/
def scanFile (v : Version) : Nat → Definitions → List String → List Char → Option Definitions
  | 0, _, _, _ => none
  | fuel + 1, ds, table, t => do
    let t ← skipLines t.length t
    if t.isEmpty then return ds
    else
      let (ds, table, t) ← scanEntry v ds table t
      scanFile v fuel ds table t

/-- An entry of the root table. -/
def rootEntry? (d : List String × Definition) : Option (String × Given) :=
  match d with
  | ([name], .value v) => some (name, v)
  | ([name], _) => some (name, .other)
  | _ => none

/-- The entries of a file's root table, if it is TOML of a version. -/
def layer? (v : Version) (s : String) : Option Layer := do
  let t := s.toList
  let t := if t.head? == some (Char.ofNat 0xFEFF) then t.drop 1 else t
  let ds ← scanFile v (t.length + 1) [] [] t
  return ds.reverse.filterMap rootEntry?

end UserDirectory.Settings.Toml

import UserDirectory.Text.Unicode

/-!
# Mailbox — an address, bare or behind a display name

* `Address`: the local part and the domain, as written.
* `Mailbox`: an address alone, or in angle brackets behind the text before them.
* `Mailbox.parse?`: reads a whole text, blanks at its ends ignored.

No alternative of the grammar starts with a character that another one may start with, and no
run of atom characters can be cut short: `@`, `<`, `>`, the quote and the brackets are none of
them.  So each scanner below takes as much as it can and never has to give anything back.
-/

namespace UserDirectory

/-- The address of a mailbox. -/
structure Address where
  localPart : List Char
  domain : List Char
deriving DecidableEq, Repr

/-- A mailbox: an address alone, or an address in angle brackets behind a display name, which
may be empty. -/
inductive Mailbox where
  | bare (address : Address)
  | bracketed (display : List Char) (address : Address)
deriving DecidableEq, Repr

namespace Mailbox

/-! ## Characters -/

/-- A character of an atom: an ASCII letter, a digit, one of the allowed marks, or anything
beyond ASCII. -/
def isAtomChar (c : Char) : Bool :=
  c.isAlphanum || 0x7F < c.toNat ||
    ['!', '#', '$', '%', '&', '\x27', '*', '+', '-', '/', '=', '?', '^', '_', '\x60', '\x7b', '|',
      '\x7d', '~'].contains c

/-- A character of an unquoted word of a display name. -/
def isWordChar (c : Char) : Bool := isAtomChar c || c == '.'

/-- A character that may stand in a quoted string without a backslash. -/
def isQuotedChar (c : Char) : Bool := c != '"' && c != '\\' && c != '\r' && c != '\n'

/-- A character of a domain literal. -/
def isLiteralChar (c : Char) : Bool :=
  c != '[' && c != ']' && c != '\\' && c != '\r' && c != '\n'

/-! ## Scanners: what was taken, and what is left -/

/-- Whether the dots of a word separate non-empty atoms. -/
def isDotAtom : List Char → Bool
  | [] => false
  | [c] => isAtomChar c
  | c :: d :: r => isAtomChar c && (if d == '.' then isDotAtom r else isDotAtom (d :: r))

/-- Atoms separated by single dots. -/
def scanDotAtom (t : List Char) : Option (List Char × List Char) :=
  let word := t.takeWhile isWordChar
  if isDotAtom word then some (word, t.dropWhile isWordChar) else none

/-- The inside of a quoted string, up to and with the closing quote. -/
def scanQuotedTail : List Char → Option (List Char × List Char)
  | [] => none
  | '"' :: r => some (['"'], r)
  | '\\' :: c :: r =>
    if c == '\n' then none
    else (scanQuotedTail r).map fun (taken, rest) => ('\\' :: c :: taken, rest)
  | c :: r =>
    if isQuotedChar c then (scanQuotedTail r).map fun (taken, rest) => (c :: taken, rest)
    else none

/-- A quoted string with its quotes. -/
def scanQuoted : List Char → Option (List Char × List Char)
  | '"' :: r => (scanQuotedTail r).map fun (taken, rest) => ('"' :: taken, rest)
  | _ => none

/-- A domain literal with its brackets. -/
def scanLiteral : List Char → Option (List Char × List Char)
  | '[' :: r =>
    match r.dropWhile isLiteralChar with
    | ']' :: rest => some ('[' :: r.takeWhile isLiteralChar ++ [']'], rest)
    | _ => none
  | _ => none

/-- The part before the `@`. -/
def scanLocal (t : List Char) : Option (List Char × List Char) :=
  scanQuoted t <|> scanDotAtom t

/-- The part after the `@`. -/
def scanDomain (t : List Char) : Option (List Char × List Char) :=
  scanLiteral t <|> scanDotAtom t

/-- Local part, `@`, domain. -/
def scanAddress (t : List Char) : Option (Address × List Char) :=
  match scanLocal t with
  | some (localPart, '@' :: r) =>
    (scanDomain r).map fun (domain, rest) => (⟨localPart, domain⟩, rest)
  | _ => none

/-- The display name: words, quoted strings and blanks, up to the first `<` outside quotes.
The flag says whether the scanner stands inside a quoted string. -/
def scanDisplay : Bool → List Char → Option (List Char × List Char)
  | _, [] => none
  | false, c :: r =>
    if c == '<' then some ([], c :: r)
    else if c == '"' then (scanDisplay true r).map fun (taken, rest) => (c :: taken, rest)
    else if isWordChar c || Text.isBlank c then
      (scanDisplay false r).map fun (taken, rest) => (c :: taken, rest)
    else none
  | true, '\\' :: c :: r =>
    if c == '\n' then none
    else (scanDisplay true r).map fun (taken, rest) => ('\\' :: c :: taken, rest)
  | true, c :: r =>
    if c == '"' then (scanDisplay false r).map fun (taken, rest) => (c :: taken, rest)
    else if isQuotedChar c then
      (scanDisplay true r).map fun (taken, rest) => (c :: taken, rest)
    else none

/-! ## Whole texts -/

/-- The text as an address alone. -/
def bare? (t : List Char) : Option Mailbox :=
  match scanAddress t with
  | some (address, []) => some (.bare address)
  | _ => none

/-- The text as a display name and an address in angle brackets. -/
def bracketed? (t : List Char) : Option Mailbox :=
  match scanDisplay false t with
  | some (display, '<' :: r) =>
    match scanAddress r with
    | some (address, ['>']) => some (.bracketed display address)
    | _ => none
  | _ => none

/-- Reads a mailbox; blanks at the ends of the text do not count. -/
def parse? (raw : String) : Option Mailbox :=
  let t := Text.trim raw.toList
  bare? t <|> bracketed? t

/-- Whether a text is a mailbox. -/
def isValid (raw : String) : Bool := (parse? raw).isSome

end Mailbox
end UserDirectory

import UserDirectory.Json.Scanner

/-!
# Json.Skip — passing over a value of any depth

`skip` reads a value one character at a time and keeps only the brackets that are still open, so
neither the depth nor the length of the value matters.  It asks less than a reader that wants the
value: halves of surrogate pairs may stand alone, and numbers may be of any size.
-/

namespace UserDirectory.Json

open Text (hexValue?)

/-- A bracket that is still open. -/
inductive Frame where
  | array
  | object
deriving DecidableEq, Repr

/-- The parts of a number, by what has been read last. -/
inductive NumeralMode where
  | minus
  | zero
  | whole
  | point
  | fraction
  | exponent
  | sign
  | exponentDigits
deriving DecidableEq, Repr

/-- What has been read of a value, apart from the open brackets: nothing, an opening bracket, a
complete member, a comma in an object, a name, or a part of a word, a string (which may be a
name) or a number. -/
inductive SkipMode where
  | value
  | opened
  | member
  | name
  | colon
  | word (left : List Char)
  | string (isName : Bool)
  | escape (isName : Bool)
  | digits (isName : Bool) (start : List Char) (seen : Nat)
  | numeral (part : NumeralMode)

/-- What a character leads to: on with the next one, an end before or after the character, or an
objection. -/
inductive SkipStep where
  | more (mode : SkipMode) (frames : List Frame)
  | done (rest : List Char)
  | fault (f : Fault)

/-- After the last character of a value. -/
def completed (frames : List Frame) (rest : List Char) : SkipStep :=
  if frames.isEmpty then .done rest else .more .member frames

/-- After an opening bracket or a member: the closing bracket, which ends the value if it is the
outermost. -/
def closes (c : Char) : Frame → Bool
  | .array => c == ']'
  | .object => c == '\x7d'

/-- The first character of a value. -/
def stepValue (frames : List Frame) (c : Char) (r : List Char) : SkipStep :=
  if isBlank c then .more .value frames
  else if c == 'n' then .more (.word ['u', 'l', 'l']) frames
  else if c == 't' then .more (.word ['r', 'u', 'e']) frames
  else if c == 'f' then .more (.word ['a', 'l', 's', 'e']) frames
  else if c == '-' then .more (.numeral .minus) frames
  else if c == '0' then .more (.numeral .zero) frames
  else if c.isDigit then .more (.numeral .whole) frames
  else if c == '"' then .more (.string false) frames
  else if c == '[' then .more .opened (.array :: frames)
  else if c == '\x7b' then .more .opened (.object :: frames)
  else .fault (.next .expectedValue (c :: r))

/-- The first character of a name. -/
def stepName (frames : List Frame) (c : Char) (r : List Char) : SkipStep :=
  if isBlank c then .more .name frames
  else if c == '"' then .more (.string true) frames
  else .fault (.next .keyMustBeString (c :: r))

/-- The character after a member. -/
def stepMember (frames : List Frame) (c : Char) (r : List Char) : SkipStep :=
  match frames with
  | [] => .done (c :: r)
  | frame :: outer =>
    if isBlank c then .more .member frames
    else if closes c frame then completed outer r
    else if c == ',' then .more (if frame = .object then .name else .value) frames
    else
      .fault (.next (if frame = .object then .expectedCommaOrBrace else .expectedCommaOrBracket)
        (c :: r))

/-- The character after an opening bracket. -/
def stepOpened (frames : List Frame) (c : Char) (r : List Char) : SkipStep :=
  match frames with
  | [] => .done (c :: r)
  | frame :: outer =>
    if isBlank c then .more .opened frames
    else if closes c frame then completed outer r
    else if frame = .object then stepName frames c r
    else stepValue frames c r

/-- A character inside or after a number. -/
def stepNumeral (frames : List Frame) (part : NumeralMode) (c : Char) (r : List Char) : SkipStep :=
  let go (part : NumeralMode) := SkipStep.more (.numeral part) frames
  let bad := SkipStep.fault (.next .invalidNumber (c :: r))
  let isExponent := c == 'e' || c == 'E'
  match part with
  | .minus => if c == '0' then go .zero else if c.isDigit then go .whole else bad
  | .zero =>
    if c.isDigit then bad else if c == '.' then go .point else if isExponent then go .exponent
    else stepMember frames c r
  | .whole =>
    if c.isDigit then go .whole else if c == '.' then go .point
    else if isExponent then go .exponent else stepMember frames c r
  | .point => if c.isDigit then go .fraction else bad
  | .fraction =>
    if c.isDigit then go .fraction else if isExponent then go .exponent else stepMember frames c r
  | .exponent =>
    if c == '+' || c == '-' then go .sign else if c.isDigit then go .exponentDigits else bad
  | .sign => if c.isDigit then go .exponentDigits else bad
  | .exponentDigits => if c.isDigit then go .exponentDigits else stepMember frames c r

/-- What a character leads to. -/
def SkipMode.step (mode : SkipMode) (frames : List Frame) (c : Char) (r : List Char) : SkipStep :=
  match mode with
  | .value => stepValue frames c r
  | .opened => stepOpened frames c r
  | .member => stepMember frames c r
  | .name => stepName frames c r
  | .colon =>
    if isBlank c then .more .colon frames
    else if c == ':' then .more .value frames
    else .fault (.next .expectedColon (c :: r))
  | .word [] => stepMember frames c r
  | .word (e :: left) =>
    if c != e then .fault (.next .expectedWord (c :: r))
    else if left.isEmpty then completed frames r
    else .more (.word left) frames
  | .string isName =>
    if c == '"' then (if isName then .more .colon frames else completed frames r)
    else if c == '\\' then .more (.escape isName) frames
    else if c.toNat < 0x20 then .fault (.here .controlCharacter (c :: r))
    else .more (.string isName) frames
  | .escape isName =>
    if c == 'u' then .more (.digits isName r 0) frames
    else if (unescape? c).isSome then .more (.string isName) frames
    else .fault (.next .invalidEscape (c :: r))
  | .digits isName start seen =>
    if (hexValue? c).isNone then .fault (badDigits start)
    else if seen < 3 then .more (.digits isName start (seen + 1)) frames
    else .more (.string isName) frames
  | .numeral part => stepNumeral frames part c r

/-- The objection to the end of the text between the parts of the innermost open bracket. -/
def endInFrame : List Frame → Cause
  | .array :: _ => .endInArray
  | _ => .endInObject

/-- What the end of the text means: an objection, or the end of a number. -/
def SkipMode.atEnd (mode : SkipMode) (frames : List Frame) : Except Fault (List Char) :=
  match mode with
  | .value | .word _ => .error (.here .endInValue [])
  | .opened | .member => .error (.here (endInFrame frames) [])
  | .name | .colon => .error (.here .endInObject [])
  | .string _ | .escape _ => .error (.here .endInString [])
  | .digits _ start _ => .error (badDigits start)
  | .numeral .minus | .numeral .point | .numeral .exponent | .numeral .sign =>
    .error (.here .invalidNumber [])
  | .numeral _ => if frames.isEmpty then .ok [] else .error (.here (endInFrame frames) [])

/-- What is left after a value that has been read up to `mode` inside the open brackets. -/
def skip (mode : SkipMode) (frames : List Frame) : List Char → Except Fault (List Char)
  | [] => mode.atEnd frames
  | c :: r =>
    match mode.step frames c r with
    | .more mode frames => skip mode frames r
    | .done rest => .ok rest
    | .fault f => .error f

/-- What is left after a value and the blanks before it. -/
def skipValue (t : List Char) : Except Fault (List Char) := skip .value [] t

end UserDirectory.Json

import UserDirectory.Calendar
import UserDirectory.Instant
import UserDirectory.Number
import UserDirectory.Text.Unicode

/-!
# Instant.Reader — instants from text, read leniently

`Instant.read` reads a date, `T` or a space, a time of day with an optional fraction, and an
offset.  Blanks may stand before each number and mark, leading zeros may be missing, and a year
of more than four digits needs a sign.
-/

namespace UserDirectory

/-- Why a text is not an instant. -/
inductive TimeFault where
  | tooShort
  | invalid
  | outOfRange
  | trailing
  | impossible
deriving DecidableEq, Repr

/-- The words for a fault. -/
def TimeFault.message : TimeFault → String
  | .tooShort => "premature end of input"
  | .invalid => "input contains invalid characters"
  | .outOfRange => "input is out of range"
  | .trailing => "trailing input"
  | .impossible => "no possible date and time matching input"

namespace Instant

open Text (trimStart natOfDigits natBelow?)

/-! ## Numbers and marks -/

/-- The digits at the start of a text, `max` of them at most. -/
def leadingDigits (max : Nat) (t : List Char) : List Char := (t.take max).takeWhile Char.isDigit

/-- A number of one digit or more, `max` at most. -/
def number (max : Nat) (t : List Char) : Except TimeFault (Nat × List Char) :=
  let ds := leadingDigits max t
  if t.isEmpty then .error .tooShort
  else if ds.isEmpty then .error .invalid
  else
    match natBelow? (twoPow 63) ds with
    | some n => .ok (n, t.drop ds.length)
    | none => .error .outOfRange

/-- A number between two bounds, after blanks, of two digits at most. -/
def field (low high : Nat) (t : List Char) : Except TimeFault (Nat × List Char) := do
  let (n, t) ← number 2 (trimStart t)
  if low ≤ n ∧ n ≤ high then return (n, t) else .error .outOfRange

/-- A mark, after blanks. -/
def mark (c : Char) (t : List Char) : Except TimeFault (List Char) :=
  match trimStart t with
  | [] => .error .tooShort
  | d :: r => if d == c then .ok r else .error .invalid

/-! ## Date -/

/-- A year: with a sign, as many digits as there are; without one, four at most. -/
def year (t : List Char) : Except TimeFault (Int × List Char) := do
  let (y, t) ← match trimStart t with
    | '-' :: r => (number r.length r).map fun (n, r) => (-(n : Int), r)
    | '+' :: r => (number r.length r).map fun (n, r) => ((n : Int), r)
    | t => (number 4 t).map fun (n, r) => ((n : Int), r)
  if fitsSigned 32 y then return (y, t) else .error .outOfRange

/-- Year, month and day. -/
def readDate (t : List Char) : Except TimeFault (Date × List Char) := do
  let (year, t) ← year t
  let t ← mark '-' t
  let (month, t) ← field 1 12 t
  let t ← mark '-' t
  let (day, t) ← field 1 31 t
  return (⟨year, month, day⟩, t)

/-- What stands between date and time. -/
def separator : List Char → Except TimeFault (List Char)
  | [] => .error .tooShort
  | c :: r => if c == 'T' || c == 't' || c == ' ' then .ok r else .error .invalid

/-! ## Time of day -/

/-- Hour, minute and second, the last from 0 to 60. -/
structure Clock where
  hour : Nat
  minute : Nat
  second : Nat
  nanos : Nat

/-- The digits after the point as nanoseconds; those after the ninth do not count. -/
def fraction : List Char → Except TimeFault (Nat × List Char)
  | '.' :: r => do
    let (n, rest) ← number 9 r
    return (n * tenPow (9 - (leadingDigits 9 r).length), rest.dropWhile Char.isDigit)
  | t => .ok (0, t)

/-- Hour, minute, second and fraction. -/
def readClock (t : List Char) : Except TimeFault (Clock × List Char) := do
  let (hour, t) ← field 0 23 t
  let t ← mark ':' t
  let (minute, t) ← field 0 59 t
  let t ← mark ':' t
  let (second, t) ← field 0 60 t
  let (nanos, t) ← fraction t
  return (⟨hour, minute, second, nanos⟩, t)

/-! ## Offset -/

/-- Two digits that must be there. -/
def pair : List Char → Except TimeFault (Nat × List Char)
  | [] => .error .tooShort
  | [c] => .error (if c.toNat < 0x80 then .tooShort else .invalid)
  | c :: d :: r =>
    if c.isDigit && d.isDigit then .ok (natOfDigits [c, d], r) else .error .invalid

/-- The sign of an offset: an ASCII sign or the minus sign. -/
def sign : List Char → Except TimeFault (Int × List Char)
  | [] => .error .tooShort
  | c :: r =>
    if c == '+' then .ok (1, r)
    else if c == '-' || c.toNat == 0x2212 then .ok (-1, r)
    else .error .invalid

/-- Whether the text starts with the letters `UTC`, in either case. -/
def startsWithUtc : List Char → Bool
  | u :: t :: c :: _ => u.toLower == 'u' && t.toLower == 't' && c.toLower == 'c'
  | _ => false

/-- The offset from UTC in seconds. -/
def offset (t : List Char) : Except TimeFault (Int × List Char) :=
  if startsWithUtc t then .ok (0, t.drop 3)
  else
    match t with
    | 'Z' :: r | 'z' :: r => .ok (0, r)
    | t => do
      let (sign, t) ← sign t
      let (hours, t) ← pair t
      let (minutes, t) ← pair (t.dropWhile fun c => c == ':' || Text.isBlank c)
      if minutes < 60 then return (sign * (3600 * hours + 60 * minutes : Nat), t)
      else .error .outOfRange

/-! ## Whole texts -/

/-- The first and the last year that instants reach. -/
def isYear (y : Int) : Bool := -262143 ≤ y && y ≤ 262142

/-- The instant of a date and a time of day at an offset. -/
def ofDateTime (d : Date) (c : Clock) (offset : Int) : Except TimeFault Instant :=
  if !(isYear d.year && d.isValid) || offset.natAbs ≥ 86400 then .error .outOfRange
  else
    let leap := if c.second = 60 then 1 else 0
    let second := 3600 * c.hour + 60 * c.minute + (c.second - leap)
    match ofParts? (86400 * d.toDays + second - offset) (1000000000 * leap + c.nanos) with
    | some t => .ok t
    | none => .error .impossible

/-- Reads an instant; the text may end in blanks. -/
def read (t : List Char) : Except TimeFault Instant := do
  let (date, t) ← readDate t
  let t ← separator t
  let (clock, t) ← readClock t
  let (offset, t) ← offset (trimStart t)
  if (trimStart t).isEmpty then ofDateTime date clock offset else .error .trailing

end Instant
end UserDirectory

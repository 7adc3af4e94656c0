import UserDirectory.Number

/-!
# Settings.Given — a setting as one source gives it

Settings are texts or natural numbers, so of anything else only that it is neither matters.  A
number that is infinite, or none, says that there is no value, also against what other sources say.

* `Decimal.read?`: the number that digits with a point, an exponent or both write.
* `Decimal.isFinite`: whether the number is in the range of binary numbers of 64 bits.
-/

namespace UserDirectory.Settings

/-! ## Values -/

/-- A value given for a setting: a text, an integer, expressly no value, or something that no
setting can be. -/
inductive Given where
  | text (s : String)
  | integer (n : Int)
  | nothing
  | other
deriving DecidableEq, Repr

/-- The settings that one source gives, by name. -/
abbrev Layer := List (String × Given)

/-- What the source gives for a setting; of several values, the last. -/
def Layer.get? (l : Layer) (name : String) : Option Given :=
  (l.reverse.find? (·.1 == name)).map (·.2)

/-! ## Numbers with a point or an exponent -/

/-- The absolute value of a number: `significand * 10 ^ exponent`. -/
structure Decimal where
  significand : Nat
  exponent : Int
deriving DecidableEq, Repr

namespace Decimal

/-- Whether a text has a minus sign, and what follows its sign. -/
def splitSign : List Char → Bool × List Char
  | '-' :: r => (true, r)
  | '+' :: r => (false, r)
  | t => (false, t)

/-- The exponent behind its letter; nothing at all is zero. -/
def exponent? : List Char → Option Int
  | [] => some 0
  | c :: r =>
    let (negative, digits) := splitSign r
    if (c == 'e' || c == 'E') && !digits.isEmpty && digits.all Char.isDigit then
      let n : Int := Text.natOfDigits digits
      some (if negative then -n else n)
    else none

/-- The digits behind a point, and what follows them. -/
def splitFraction : List Char → List Char × List Char
  | '.' :: r => (r.takeWhile Char.isDigit, r.dropWhile Char.isDigit)
  | t => ([], t)

/-- The absolute value that a text writes: there is a digit before the point or behind it. -/
def read? (t : List Char) : Option Decimal := do
  let (_, t) := splitSign t
  let whole := t.takeWhile Char.isDigit
  let (fraction, rest) := splitFraction (t.dropWhile Char.isDigit)
  if whole.isEmpty && fraction.isEmpty then none
  let e ← exponent? rest
  return ⟨Text.natOfDigits (whole ++ fraction), e - fraction.length⟩

/-- The midpoint between the largest binary number of 64 bits and what would come next. -/
def bound : Nat := (twoPow 54 - 1) * twoPow 970

/-- Whether the nearest binary number of 64 bits is finite.  The number is below ten to its
`magnitude`, and not below a tenth of that. -/
def isFinite (d : Decimal) : Bool :=
  let magnitude : Int := (Nat.toDigits 10 d.significand).length + d.exponent
  if d.significand = 0 || magnitude ≤ 308 then true
  else if 309 < magnitude then false
  else d.significand * tenPow d.exponent.toNat < bound * tenPow (-d.exponent).toNat

end Decimal

end UserDirectory.Settings

import UserDirectory.Number

/-!
# Json.Binary64 — finite binary floating-point numbers, in exact arithmetic

* `Binary64`: a sign and `mantissa * 2 ^ exponent`.
* `Binary64.ofRatio?`: a quotient of naturals, rounded to the nearest number, a tie to the even
  mantissa; `none` past the largest number.
* `Binary64.shortest`: the fewest decimal digits that round back to the number.
-/

namespace UserDirectory.Json

/-- A finite number with 53 bits of precision: `mantissa * 2 ^ exponent`, negated or not.
The mantissa has its 53rd bit set unless the exponent is the least one. -/
structure Binary64 where
  negative : Bool
  mantissa : Nat
  exponent : Int
deriving DecidableEq, Repr

namespace Binary64

/-! ## Rounding -/

/-- The quotient rounded to the nearest natural number, a tie to the even one. -/
def roundHalfEven (num den : Nat) : Nat :=
  let q := num / den
  let twice := 2 * (num % den)
  if twice > den || (twice == den && q % 2 == 1) then q + 1 else q

/-- The least exponent. -/
def minExponent : Int := -1074

/-- The greatest exponent. -/
def maxExponent : Int := 971

/-- Zero, with a sign. -/
def zero (negative : Bool) : Binary64 := ⟨negative, 0, minExponent⟩

/-- The exponent that gives `num / den` a mantissa of 53 bits, or the least exponent. -/
def fittingExponent (num den : Nat) : Int :=
  let log : Int := num.log2 - den.log2
  let reaches := if log ≥ 0 then den * twoPow log.toNat ≤ num else den ≤ num * twoPow (-log).toNat
  max minExponent ((if reaches then log else log - 1) - 52)

/-- The number nearest to `num / den`. -/
def ofRatio? (negative : Bool) (num den : Nat) : Option Binary64 :=
  if num = 0 then some (zero negative)
  else
    let e := fittingExponent num den
    let m :=
      if e ≥ 0 then roundHalfEven num (den * twoPow e.toNat)
      else roundHalfEven (num * twoPow (-e).toNat) den
    let (m, e) := if m = twoPow 53 then (twoPow 52, e + 1) else (m, e)
    if e > maxExponent then none else some ⟨negative, m, e⟩

/-- The numerator of the absolute value. -/
def num (x : Binary64) : Nat := x.mantissa * twoPow x.exponent.toNat

/-- The denominator of the absolute value. -/
def den (x : Binary64) : Nat := twoPow (-x.exponent).toNat

/-- The product, rounded. -/
def mul? (x y : Binary64) : Option Binary64 :=
  ofRatio? (x.negative != y.negative) (x.num * y.num) (x.den * y.den)

/-- The quotient by a number other than zero, rounded. -/
def div? (x y : Binary64) : Option Binary64 :=
  ofRatio? (x.negative != y.negative) (x.num * y.den) (x.den * y.num)

/-- The number nearest to a power of ten that is in range. -/
def roundedTenPow (k : Nat) : Binary64 := (ofRatio? false (tenPow k) 1).getD (zero false)

/-- The largest power of ten in range. -/
def maxTenPow : Nat := 308

/-- `significand * 10 ^ exponent` in at most two rounding steps after the significand's own:
multiply or divide by a rounded power of ten, first by the largest one if need be. -/
def scale? (negative : Bool) (significand : Nat) (exponent : Int) : Option Binary64 := do
  let x ← ofRatio? negative significand 1
  let k := exponent.natAbs
  if exponent ≥ 0 then
    if k ≤ maxTenPow then mul? x (roundedTenPow k)
    else if significand = 0 then some x else none
  else if k ≤ maxTenPow then div? x (roundedTenPow k)
  else
    let y ← div? x (roundedTenPow maxTenPow)
    if k - maxTenPow ≤ maxTenPow then div? y (roundedTenPow (k - maxTenPow)) else some (zero negative)

/-! ## Shortest digits -/

/-- Whether `digits * 10 ^ place` rounds to the number: it lies between the midpoints to the
two neighbours, which count if the mantissa is even. -/
def roundsTo (x : Binary64) (digits : Nat) (place : Int) : Bool :=
  let below := if x.mantissa = twoPow 52 && x.exponent > minExponent then 1 else 2
  let unit := twoPow x.exponent.toNat
  let up := tenPow (-place).toNat
  let point := digits * tenPow place.toNat * (4 * x.den)
  let low := (4 * x.mantissa - below) * unit * up
  let high := (4 * x.mantissa + 2) * unit * up
  if x.mantissa % 2 = 0 then low ≤ point && point ≤ high else low < point && point < high

/-- The distance of `digits * 10 ^ place` from the number, in units common to one `place`. -/
def distance (x : Binary64) (digits : Nat) (place : Int) : Nat :=
  let point := digits * tenPow place.toNat * x.den
  let value := x.num * tenPow (-place).toNat
  (point - value) + (value - point)

/-- The decimal point's place: the least `k` with the number below `10 ^ k`. -/
def magnitude (x : Binary64) : Int :=
  if x.den ≤ x.num then ((Nat.toDigits 10 (x.num / x.den)).length : Int)
  else
    let zeros : Nat := ((List.range 330).find? (fun j => x.den ≤ x.num * tenPow (j + 1))).getD 330
    0 - (zeros : Int)

/-- The number's neighbours on the grid of multiples of `10 ^ place` that round to it; the
nearer one, or the even one of two as near. -/
def onGrid? (x : Binary64) (place : Int) : Option Nat :=
  let floor := x.num * tenPow (-place).toNat / (x.den * tenPow place.toNat)
  match roundsTo x floor place, roundsTo x (floor + 1) place with
  | false, false => none
  | true, false => some floor
  | false, true => some (floor + 1)
  | true, true =>
    let below := distance x floor place
    let above := distance x (floor + 1) place
    if below < above || (below == above && floor % 2 == 0) then some floor else some (floor + 1)

/-- The fewest decimal digits that round back to a number other than zero, with the place of
the last one: the first of the grids of 1, 2, … 17 digits with a point that does. -/
def shortest (x : Binary64) : Nat × Int :=
  let places := (List.range 17).map fun n => magnitude x - (n + 1 : Nat)
  (places.findSome? fun place => (onGrid? x place).map (·, place)).getD (0, 0)

/-! ## Text -/

/-- How a number is written: positional notation for decimal points from five places before the
first digit to sixteen after it, always with a fraction; else one digit, its fraction, and a
signed exponent. -/
def text (x : Binary64) : String :=
  let sign := if x.negative then "-" else ""
  if x.mantissa = 0 then sign ++ "0.0"
  else
    let (n, place) := shortest x
    let digits := (Nat.toDigits 10 n)
    let trimmed := (digits.reverse.dropWhile (· == '0')).reverse
    let place := place + (digits.length - trimmed.length : Nat)
    let point := place + (trimmed.length : Int)
    let zeros (k : Int) := List.replicate k.toNat '0'
    let body :=
      if 0 ≤ place && point ≤ 16 then trimmed ++ zeros place ++ ['.', '0']
      else if 0 < point && point ≤ 16 then
        trimmed.take point.toNat ++ '.' :: trimmed.drop point.toNat
      else if -5 < point && point ≤ 0 then ['0', '.'] ++ zeros (-point) ++ trimmed
      else
        let mantissa :=
          match trimmed with
          | [d] => [d]
          | d :: ds => d :: '.' :: ds
          | [] => []
        let e := point - 1
        mantissa ++ 'e' :: (if e < 0 then '-' else '+') :: Nat.toDigits 10 e.natAbs
    sign ++ String.ofList body

end Binary64
end UserDirectory.Json

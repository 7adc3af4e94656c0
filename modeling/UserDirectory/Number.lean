/-!
# Number — powers, the integers of a fixed size, and digits

* `twoPow`, `tenPow`: powers of two and of ten.
* `fitsSigned bits n`: `n` is one of the integers that so many bits have with a sign.
* `digitChar`, `twoDigits`, `threeDigits`, `fourDigits`: numbers in a fixed number of digits.
* `natOfDigits`: the number that decimal digits write; `natBelow?`: the same below a bound.
* `integer?`: the integer that a text writes, sign and digits.
* `hexDigit`, `hexValue?`, `fixedHex`, `natOfHex`: the same to the base 16.
-/

namespace UserDirectory

/-! ## Powers and sizes -/

/-- A power of two. -/
def twoPow (n : Nat) : Nat := Nat.pow 2 n

/-- A power of ten. -/
def tenPow (n : Nat) : Nat := Nat.pow 10 n

/-- Whether an integer fits so many bits, one of them for the sign. -/
def fitsSigned (bits : Nat) (n : Int) : Bool :=
  -(twoPow (bits - 1) : Int) ≤ n && n < (twoPow (bits - 1) : Int)

theorem twoPow_pos (n : Nat) : 0 < twoPow n := Nat.pow_pos (by decide)

theorem fitsSigned_32 {n : Int} : fitsSigned 32 n = true ↔ -2147483648 ≤ n ∧ n < 2147483648 := by
  have h : (twoPow (32 - 1) : Int) = 2147483648 := rfl
  simp [fitsSigned, h]

theorem fitsSigned_64 {n : Int} :
    fitsSigned 64 n = true ↔ -9223372036854775808 ≤ n ∧ n < 9223372036854775808 := by
  have h : (twoPow (64 - 1) : Int) = 9223372036854775808 := rfl
  simp [fitsSigned, h]

end UserDirectory

namespace UserDirectory.Text

/-! ## Base 10 -/

/-- The last decimal digit of a number. -/
def digitChar (n : Nat) : Char := Char.ofNat (0x30 + n % 10)

/-- The last two digits of a number. -/
def twoDigits (n : Nat) : List Char := [digitChar (n / 10), digitChar n]

/-- The last three digits of a number. -/
def threeDigits (n : Nat) : List Char := digitChar (n / 100) :: twoDigits n

/-- The last four digits of a number. -/
def fourDigits (n : Nat) : List Char := digitChar (n / 1000) :: threeDigits n

/-- The value of a decimal digit. -/
def digitValue (c : Char) : Nat := c.toNat - 0x30

/-- The number that decimal digits write. -/
def natOfDigits (ds : List Char) : Nat := ds.foldl (fun n c => 10 * n + digitValue c) 0

/-- Goes on with the number `n` as long as it stays below the bound. -/
def natBelowFrom? (bound n : Nat) : List Char → Option Nat
  | [] => some n
  | c :: r =>
    if 10 * n + digitValue c < bound then natBelowFrom? bound (10 * n + digitValue c) r else none

/-- The number that decimal digits write, if it is below the bound. -/
def natBelow? (bound : Nat) (ds : List Char) : Option Nat :=
  if 0 < bound then natBelowFrom? bound 0 ds else none

/-- The natural number that one digit or more writes, if it is below the bound. -/
def natural? (bound : Nat) (t : List Char) : Option Nat :=
  if !t.isEmpty && t.all Char.isDigit then natBelow? bound t else none

/-- The integer that digits write, with or without a sign, if its absolute value is below the
bound. -/
def integer? (bound : Nat) : List Char → Option Int
  | '-' :: r => (natural? bound r).map fun n => -(n : Int)
  | '+' :: r => (natural? bound r).map Int.ofNat
  | t => (natural? bound t).map Int.ofNat

/-- The decimal digits of a natural number, without leading zeros. -/
def natDigits (n : Nat) : List Char := Nat.toDigits 10 n

/-- The decimal digits of an integer, behind a sign if it is negative. -/
def intDigits : Int → List Char
  | .ofNat n => natDigits n
  | .negSucc n => '-' :: natDigits (n + 1)

theorem le_foldl_digits (n : Nat) (ds : List Char) :
    n ≤ ds.foldl (fun n c => 10 * n + digitValue c) n := by
  induction ds generalizing n with
  | nil => exact Nat.le_refl n
  | cons c r ih => exact Nat.le_trans (by omega) (ih (10 * n + digitValue c))

theorem natBelowFrom?_eq {bound n : Nat} (h : n < bound) (ds : List Char) :
    natBelowFrom? bound n ds =
      if ds.foldl (fun n c => 10 * n + digitValue c) n < bound then
        some (ds.foldl (fun n c => 10 * n + digitValue c) n)
      else none := by
  induction ds generalizing n with
  | nil => simp [natBelowFrom?, h]
  | cons c r ih =>
    unfold natBelowFrom?
    split
    · next hc => exact ih hc
    · next hc =>
      have := le_foldl_digits (10 * n + digitValue c) r
      rw [if_neg]
      simp only [List.foldl_cons]
      omega

theorem natBelow?_eq (bound : Nat) (ds : List Char) :
    natBelow? bound ds = if natOfDigits ds < bound then some (natOfDigits ds) else none := by
  unfold natBelow?
  split
  · next h => exact natBelowFrom?_eq h ds
  · next h => rw [if_neg (by omega)]

/-! ## Base 16 -/

/-- A hexadecimal digit, in lower case. -/
def hexDigit (n : Nat) : Char :=
  if n < 10 then Char.ofNat (0x30 + n) else Char.ofNat (0x57 + n)

/-- The value of a hexadecimal digit in either case. -/
def hexValue? (c : Char) : Option Nat :=
  if '0' ≤ c ∧ c ≤ '9' then some (c.toNat - 0x30)
  else if 'a' ≤ c ∧ c ≤ 'f' then some (c.toNat - 0x57)
  else if 'A' ≤ c ∧ c ≤ 'F' then some (c.toNat - 0x37)
  else none

/-- The last `width` hexadecimal digits of a number. -/
def fixedHex : Nat → Nat → List Char
  | 0, _ => []
  | width + 1, n => fixedHex width (n / 16) ++ [hexDigit (n % 16)]

/-- The number that hexadecimal digits write. -/
def natOfHex (ds : List Char) : Nat := ds.foldl (fun n c => 16 * n + (hexValue? c).getD 0) 0

end UserDirectory.Text

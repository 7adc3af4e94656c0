import UserDirectory.Proofs.Instant.Reading

/-!
# Proofs.Instant.Words — cutting to milliseconds in machine words

`Instant.truncate` cuts with integers of any size.  A machine goes by the count of nanoseconds since
1970, in words of 64 bits: it takes the remainder of the count off the instant.

* `word bits fault n`: the number `n` as the result of a step, in a word of so many bits.
* `countInWords`: the count of nanoseconds, refused if it has no word.
* `earlier`: an instant less a part of a second.
* `cutInWords`, `truncateInWords`: the cut; where the count is refused, the instant as it is.
* `hasNanoCount_iff_fitsSigned`: the instants whose count has a word have a count, those of one
  second excepted.
* `countInWords_eq`: the steps refuse a count exactly where `hasNanoCount` does.
* `earlier_part`: what is taken off stays within the second, a leap second included.
* `truncateInWords_eq`: no step overflows, and what they give is `truncate`.
-/

namespace UserDirectory.Instant

open Steps

/-! ## Words -/

/-- Why a computation in words has no result. -/
inductive WordFault where
  /-- The computation asked whether a result has a word, and it has none. -/
  | refused
  /-- A result that was taken for granted has no word, or is no instant. -/
  | overflowed
deriving DecidableEq, Repr

/-- A number as a word of so many bits, one of them for the sign. -/
def word (bits : Nat) (fault : WordFault) (n : Int) : Except WordFault Int :=
  if fitsSigned bits n then .ok n else .error fault

section Word

variable {bits : Nat} {fault : WordFault} {n : Int}

theorem word_of_fits (h : fitsSigned bits n = true) : word bits fault n = .ok n := if_pos h

theorem word_of_not_fits (h : ¬ fitsSigned bits n = true) : word bits fault n = .error fault :=
  if_neg h

end Word

/-! ## The steps -/

/-- The count of nanoseconds since 1970.  Before 1970 it starts from the end of the second, for the
product that starts from its beginning can be too small although the count is not. -/
def countInWords (t : Instant) : Except WordFault Int :=
  if t.seconds < 0 then do
    let second ← word 64 .overflowed (t.seconds + 1)
    let back ← word 64 .overflowed (t.nanos - 1000000000)
    let product ← word 64 .refused (second * 1000000000)
    word 64 .refused (product + back)
  else do
    let product ← word 64 .refused (t.seconds * 1000000000)
    word 64 .refused (product + t.nanos)

/-- The instant that is so many nanoseconds earlier, fewer than a second.  They come off the
nanoseconds of the second, in a leap second too; if these are not enough, the second before lends
its own. -/
def earlier (t : Instant) (d : Int) : Except WordFault Instant := do
  let left ← word 32 .overflowed (t.nanos - d)
  let second ← word 64 .overflowed (if left < 0 then t.seconds - 1 else t.seconds)
  let nanos ← word 32 .overflowed (if left < 0 then left + 1000000000 else left)
  if h : (firstSecond ≤ second ∧ second ≤ lastSecond) ∧ nanos.toNat < 2000000000 then
    .ok ⟨second, nanos.toNat, h.1, h.2⟩
  else .error .overflowed

/-- The latest whole millisecond that is not after the instant.  The remainder of a count before
1970 is negative, and the millisecond lies as far behind it as is left of a whole one. -/
def cutInWords (t : Instant) : Except WordFault Instant := do
  let count ← t.countInWords
  let rest ← word 64 .overflowed (count.tmod 1000000)
  if rest = 0 then .ok t
  else if 0 < rest then t.earlier rest
  else do
    let size ← word 64 .overflowed (-rest)
    let left ← word 64 .overflowed (1000000 - size)
    t.earlier left

/-- The cut, and the instant as it is if its count is refused. -/
def truncateInWords (t : Instant) : Except WordFault Instant :=
  match t.cutInWords with
  | .error .refused => .ok t
  | result => result

/-! ## The count -/

theorem nanoCount_eq (t : Instant) : t.nanoCount = t.seconds * 1000000000 + t.nanos := rfl

theorem hasNanoCount_eq_true {t : Instant} :
    t.hasNanoCount = true ↔
      (-9223372036854775808 ≤ t.countedSecond * 1000000000 ∧
        t.countedSecond * 1000000000 < 9223372036854775808) ∧
      -9223372036854775808 ≤ t.nanoCount ∧ t.nanoCount < 9223372036854775808 := by
  unfold hasNanoCount
  rw [Bool.and_eq_true, fitsSigned_64, fitsSigned_64]

/-- **Where there is a count.**  One second has leap seconds whose count has a word although the
product for it has none. -/
theorem hasNanoCount_iff_fitsSigned {t : Instant} :
    t.hasNanoCount = true ↔ fitsSigned 64 t.nanoCount = true ∧ t.seconds ≠ -9223372038 := by
  have hbound := t.nanosBound
  rw [hasNanoCount_eq_true, fitsSigned_64, nanoCount_eq]
  unfold countedSecond
  split <;> omega

/-- A product and a sum, each in a word if it has one. -/
theorem product_sum (second part : Int) :
    (do
      let product ← word 64 .refused (second * 1000000000)
      word 64 .refused (product + part)) =
      if fitsSigned 64 (second * 1000000000) && fitsSigned 64 (second * 1000000000 + part) then
        .ok (second * 1000000000 + part)
      else .error .refused := by
  by_cases hproduct : fitsSigned 64 (second * 1000000000) = true
  · rw [word_of_fits hproduct, ok_bind, hproduct, Bool.true_and]
    rfl
  · rw [word_of_not_fits hproduct, error_bind, Bool.eq_false_iff.mpr hproduct, Bool.false_and]
    rfl

/-- **The count in words** is the count of nanoseconds where this and the product for it have a
word, and refused elsewhere. -/
theorem countInWords_eq (t : Instant) :
    t.countInWords = if t.hasNanoCount then .ok t.nanoCount else .error .refused := by
  have hrange := t.inRange
  have hbound := t.nanosBound
  unfold firstSecond lastSecond at hrange
  unfold countInWords hasNanoCount countedSecond
  by_cases hpast : t.seconds < 0
  · have hsecond : fitsSigned 64 (t.seconds + 1) = true := fitsSigned_64.mpr (by omega)
    have hback : fitsSigned 64 ((t.nanos : Int) - 1000000000) = true :=
      fitsSigned_64.mpr (by omega)
    have hsum : (t.seconds + 1) * 1000000000 + (t.nanos - 1000000000) = t.nanoCount := by
      rw [nanoCount_eq]
      omega
    rw [if_pos hpast, if_pos hpast, word_of_fits hsecond, ok_bind, word_of_fits hback, ok_bind,
      product_sum, hsum]
  · rw [if_neg hpast, if_neg hpast, product_sum, nanoCount_eq]

/-- Seconds are whole milliseconds, so the nanoseconds alone tell what is left over. -/
theorem nanoCount_emod (t : Instant) :
    t.nanoCount % 1000000 = (t.nanos % 1000000 : Nat) := by
  rw [nanoCount_eq]
  omega

/-! ## What is taken off -/

/-- The part of a millisecond comes off the nanoseconds of the second. -/
theorem earlier_part (t : Instant) : t.earlier (t.nanos % 1000000 : Nat) = .ok t.cutNanos := by
  have hrange := t.inRange
  have hbound := t.nanosBound
  have hpart := t.cutNanos.nanosBound
  unfold firstSecond lastSecond at hrange
  have hleft : (t.nanos : Int) - (t.nanos % 1000000 : Nat) = t.cutNanos.nanos := by
    rw [cutNanos_nanos]
    omega
  have hnanos : fitsSigned 32 t.cutNanos.nanos = true := by
    rw [fitsSigned_32, cutNanos_nanos]
    omega
  have hsecond : fitsSigned 64 t.seconds = true := fitsSigned_64.mpr (by omega)
  have hborrow : ¬ (t.cutNanos.nanos : Int) < 0 := by omega
  have hparts : (firstSecond ≤ t.seconds ∧ t.seconds ≤ lastSecond) ∧
      (t.cutNanos.nanos : Int).toNat < 2000000000 := ⟨t.inRange, hpart⟩
  unfold earlier
  rw [hleft, word_of_fits hnanos, ok_bind, if_neg hborrow, word_of_fits hsecond, ok_bind,
    if_neg hborrow, word_of_fits hnanos, ok_bind, dif_pos hparts]
  rfl

/-- The remainder of a division that rounds towards zero: the remainder of the one that rounds
down, or negative and a divisor below it. -/
theorem tmod_eq_or (n : Int) :
    n.tmod 1000000 = n % 1000000 ∨
      n.tmod 1000000 < 0 ∧ 1000000 + n.tmod 1000000 = n % 1000000 := by
  rw [Int.tmod_eq_emod]
  split
  · exact .inl (by omega)
  · exact .inr (by omega)

/-! ## The cut -/

/-- **The cut in words**, where there is a count. -/
theorem cutInWords_eq (t : Instant) :
    t.cutInWords = if t.hasNanoCount then .ok t.cutNanos else .error .refused := by
  have hpart := t.nanoCount_emod
  have hrest := tmod_eq_or t.nanoCount
  have hfits : fitsSigned 64 (t.nanoCount.tmod 1000000) = true := by
    rw [fitsSigned_64]
    omega
  unfold cutInWords
  rw [countInWords_eq]
  by_cases hcount : t.hasNanoCount = true
  · rw [if_pos hcount, if_pos hcount, ok_bind, word_of_fits hfits, ok_bind]
    by_cases hzero : t.nanoCount.tmod 1000000 = 0
    · have hwhole : t.IsWhole := by
        show t.nanos % 1000000 = 0
        omega
      rw [if_pos hzero, hwhole.cutNanos_eq]
    rw [if_neg hzero]
    by_cases hpos : 0 < t.nanoCount.tmod 1000000
    · have hoff : t.nanoCount.tmod 1000000 = (t.nanos % 1000000 : Nat) := by omega
      rw [if_pos hpos, hoff, earlier_part]
    · have hsize : fitsSigned 64 (-t.nanoCount.tmod 1000000) = true := by
        rw [fitsSigned_64]
        omega
      have hoff : 1000000 - -t.nanoCount.tmod 1000000 = (t.nanos % 1000000 : Nat) := by omega
      have hleft : fitsSigned 64 (1000000 - -t.nanoCount.tmod 1000000) = true := by
        rw [fitsSigned_64]
        omega
      rw [if_neg hpos, word_of_fits hsize, ok_bind, word_of_fits hleft, ok_bind, hoff, earlier_part]
  · rw [if_neg hcount, if_neg hcount, error_bind]

/-- **The words compute the cut**: no step overflows, for any instant. -/
theorem truncateInWords_eq (t : Instant) : t.truncateInWords = .ok t.truncate := by
  unfold truncateInWords truncate
  rw [cutInWords_eq]
  by_cases hcount : t.hasNanoCount = true
  · rw [if_pos hcount, if_pos hcount]
  · rw [if_neg hcount, if_neg hcount]

end UserDirectory.Instant

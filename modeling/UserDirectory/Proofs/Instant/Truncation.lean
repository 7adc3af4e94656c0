import UserDirectory.Proofs.Instant.Order
import UserDirectory.Proofs.Instant.Words

/-!
# Proofs.Instant.Truncation — what cutting to milliseconds does to an instant

* `IsCountable t`: the count of nanoseconds has a word, and `t` is not in the one second where the
  product for the count has none.
* `TruncatesTo t c`: `c` is `t` without its part of a millisecond, or `t` itself if it is not
  countable.
* `truncate_determined`: machine words compute `truncate` without an overflow, it is the one instant
  that `TruncatesTo` describes, and cutting once more changes nothing.
* `truncate_counted_leap`: in that one second a part of a millisecond stays.
* `firstCounted`: the first of the instants that have a count.
* `Divided a b`: the millisecond of `firstCounted`, of which the part before it has no count.
* `truncate_le_truncate_iff`: cutting keeps the order, but for instants divided like this.
-/

namespace UserDirectory.Instant

/-! ## The cut -/

/-- The instant lies in a leap second. -/
def InLeapSecond (t : Instant) : Prop := 1000000000 ≤ t.nanos

/-- The count of nanoseconds has a word.  The second −9223372038 is left out: only in its leap
second there are such counts, and the count of the whole seconds, which comes first, has none. -/
def IsCountable (t : Instant) : Prop := fitsSigned 64 t.nanoCount = true ∧ t.seconds ≠ -9223372038

/-- The instant cut to whole milliseconds. -/
structure TruncatesTo (t c : Instant) : Prop where
  notLater : c ≤ t
  lessThanMillisecond : t.nanoCount - c.nanoCount < 1000000
  sameSecond : c.seconds = t.seconds
  sameForm : c.InLeapSecond ↔ t.InLeapSecond
  isWhole : t.IsCountable → c.IsWhole
  unchanged : ¬ t.IsCountable → c = t
  sameText : c.text = t.text

theorem cutNanos_le (t : Instant) : t.cutNanos ≤ t :=
  le_iff.mpr (.inr ⟨rfl, Nat.sub_le _ _⟩)

theorem truncate_of_isCountable {t : Instant} (h : t.IsCountable) : t.truncate = t.cutNanos :=
  truncate_of_hasNanoCount (hasNanoCount_iff_fitsSigned.mpr h)

theorem truncate_of_not_isCountable {t : Instant} (h : ¬ t.IsCountable) : t.truncate = t :=
  truncate_of_not_hasNanoCount fun hcount => h (hasNanoCount_iff_fitsSigned.mp hcount)

/-- What `truncate` gives is the instant cut to whole milliseconds. -/
theorem truncatesTo_truncate (t : Instant) : t.TruncatesTo t.truncate := by
  by_cases hcount : t.IsCountable
  · rw [truncate_of_isCountable hcount]
    have hnanos := t.cutNanos_nanos
    have hseconds : t.cutNanos.seconds = t.seconds := rfl
    refine ⟨t.cutNanos_le, ?_, hseconds, ?_, fun _ => t.isWhole_cutNanos,
      fun hnone => absurd hcount hnone, t.text_cutNanos⟩
    · rw [nanoCount_eq, nanoCount_eq, hseconds, hnanos]
      omega
    · unfold InLeapSecond
      rw [hnanos]
      omega
  · rw [truncate_of_not_isCountable hcount]
    refine ⟨le_refl t, ?_, rfl, Iff.rfl, fun h => absurd h hcount, fun _ => rfl, rfl⟩
    omega

/-- Of the whole milliseconds of a second only one is less than a millisecond before an instant. -/
theorem TruncatesTo.eq_truncate {t c : Instant} (h : t.TruncatesTo c) : c = t.truncate := by
  by_cases hcount : t.IsCountable
  · rw [truncate_of_isCountable hcount]
    have hpart := h.lessThanMillisecond
    have hsecond := h.sameSecond
    have hwhole : c.nanos % 1000000 = 0 := h.isWhole hcount
    have hle := le_iff.mp h.notLater
    rw [nanoCount_eq, nanoCount_eq] at hpart
    refine ext_parts hsecond ?_
    rw [cutNanos_nanos]
    omega
  · rw [truncate_of_not_isCountable hcount]
    exact h.unchanged hcount

/-- **Cutting to milliseconds.**  Machine words compute `truncate` for every instant, and no step
overflows.  It gives the one instant that is not later, less than a millisecond earlier, in the same
second and a leap second exactly if that is one, a whole number of milliseconds where that is
countable and the same instant where it is not, and written with the same text.  Cutting once more
changes nothing. -/
theorem truncate_determined (t : Instant) :
    t.truncateInWords = .ok t.truncate ∧
      (∀ c, t.TruncatesTo c ↔ c = t.truncate) ∧
      t.truncate.truncate = t.truncate := by
  refine ⟨t.truncateInWords_eq, ?_, t.truncate_truncate⟩
  intro c
  constructor
  · exact TruncatesTo.eq_truncate
  · rintro rfl
    exact t.truncatesTo_truncate

/-- The first instant that has a count is cut to one that has none. -/
example : truncateInWords ⟨-9223372037, 145224192, by decide, by decide⟩ =
    .ok ⟨-9223372037, 145000000, by decide, by decide⟩ := by decide

/-- The leap second behind the second −9223372038 reaches instants whose count has a word.  These
are not cut either. -/
theorem truncate_counted_leap :
    let t : Instant := ⟨-9223372038, 1145224193, by decide, by decide⟩
    fitsSigned 64 t.nanoCount = true ∧ t.truncateInWords = .ok t ∧ ¬ t.truncate.IsWhole := by
  intro t
  refine ⟨by decide, by decide, ?_⟩
  have huncut : t.truncate = t := by decide
  rw [huncut]
  show ¬ 1145224193 % 1000000 = 0
  omega

/-! ## The order -/

/-- The first instant that has a count of nanoseconds, in the year 1677. -/
def firstCounted : Instant := ⟨-9223372037, 145224192, by decide, by decide⟩

/-- **The counted instants** start at `firstCounted`.  At the other end, in the year 2262, their
counts tell, for a leap second there has greater counts than the second behind it. -/
theorem hasNanoCount_iff {t : Instant} :
    t.hasNanoCount = true ↔ firstCounted ≤ t ∧ t.nanoCount < 9223372036854775808 := by
  have hbound := t.nanosBound
  rw [hasNanoCount_iff_fitsSigned, fitsSigned_64, nanoCount_eq, le_iff]
  dsimp only [firstCounted]
  omega

/-- Of an earlier instant without a count, which is not too early for one, the second is over. -/
theorem seconds_lt_of_uncounted {a b : Instant} (h : a ≤ b) (hb : b.hasNanoCount = true)
    (ha : ¬ a.hasNanoCount = true) (hfirst : firstCounted ≤ a) : a.seconds < b.seconds := by
  have hlate : ¬ a.nanoCount < 9223372036854775808 := fun hlt =>
    ha (hasNanoCount_iff.mpr ⟨hfirst, hlt⟩)
  have hearly := (hasNanoCount_iff.mp hb).2
  rw [le_iff] at h
  rw [nanoCount_eq] at hlate hearly
  omega

/-- Two instants of the millisecond of `firstCounted`, the first behind its start and before
`firstCounted`, the second not before it. -/
structure Divided (a b : Instant) : Prop where
  behindStart : firstCounted.cutNanos < a
  uncounted : a < firstCounted
  counted : firstCounted ≤ b
  sameMillisecond : b.cutNanos = firstCounted.cutNanos

/-- The part of a divided millisecond that has a count is cut to its start. -/
theorem cutNanos_lt_iff_divided {a b : Instant} (ha : a < firstCounted) (hb : firstCounted ≤ b) :
    b.cutNanos < a ↔ Divided a b := by
  constructor
  · intro h
    have hstart : firstCounted.cutNanos ≤ b.cutNanos := cutNanos_mono hb
    have hsame : b.cutNanos ≤ firstCounted.cutNanos := by
      have hmono := cutNanos_mono (le_of_lt (lt_trans h ha))
      rwa [cutNanos_cutNanos] at hmono
    exact ⟨lt_of_le_of_lt hstart h, ha, hb, le_antisymm hsame hstart⟩
  · intro h
    rw [h.sameMillisecond]
    exact h.behindStart

/-- **Cutting keeps the order**, except where of two instants in one millisecond only the second has
a count: then it is cut to the start of the millisecond, and the first stays behind it. -/
theorem truncate_le_truncate_iff {a b : Instant} (h : a ≤ b) :
    a.truncate ≤ b.truncate ↔ ¬ Divided a b := by
  by_cases hb : b.hasNanoCount = true
  · rw [truncate_of_hasNanoCount hb]
    by_cases ha : a.hasNanoCount = true
    · have hcounted : ¬ Divided a b := fun hd =>
        not_le_of_gt hd.uncounted (hasNanoCount_iff.mp ha).1
      rw [truncate_of_hasNanoCount ha]
      exact iff_of_true (cutNanos_mono h) hcounted
    rw [truncate_of_not_hasNanoCount ha]
    by_cases hfirst : firstCounted ≤ a
    · have hcounted : ¬ Divided a b := fun hd => not_le_of_gt hd.uncounted hfirst
      have hsecond : a.seconds < b.seconds := seconds_lt_of_uncounted h hb ha hfirst
      exact iff_of_true (le_iff.mpr (.inl hsecond)) hcounted
    · rw [← cutNanos_lt_iff_divided (not_le_iff.mp hfirst) (hasNanoCount_iff.mp hb).1,
        ← not_le_iff, not_not]
  · have hcounted : ¬ Divided a b := by
      intro hd
      refine hb (hasNanoCount_iff.mpr ⟨hd.counted, ?_⟩)
      have hseconds : b.cutNanos.seconds = firstCounted.cutNanos.seconds :=
        congrArg Instant.seconds hd.sameMillisecond
      have hearly : b.seconds = -9223372037 := hseconds
      have hbound := b.nanosBound
      rw [nanoCount_eq]
      omega
    rw [truncate_of_not_hasNanoCount hb]
    exact iff_of_true (le_trans a.truncatesTo_truncate.notLater h) hcounted

end UserDirectory.Instant

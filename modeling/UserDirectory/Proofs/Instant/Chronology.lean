import UserDirectory.Proofs.Calendar.Order
import UserDirectory.Proofs.Instant.Order
import UserDirectory.Proofs.Instant.Reading
import UserDirectory.Proofs.Text.Order

/-!
# Proofs.Instant.Chronology — texts of instants compare as the instants

* `FourDigitYear`: the years 0 to 9999, which are written without a sign.
* `text_lt_of_lt`: of two such instants that differ in whole milliseconds the earlier one has the
  smaller text.  It is decided by the first of date, hour, minute, second and millisecond in which
  they differ; a leap second shows as second 60, behind all others of its minute.
* `text_lt_iff`: so comparing the texts is comparing the instants as they are read back.
-/

namespace UserDirectory

open Text (twoDigits threeDigits fourDigits append_lt_append lt_of_marked twoDigits_lt
  threeDigits_lt fourDigits_lt)

/-! ## Dates -/

namespace Date

/-- The year is one of those that are written with four digits and no sign. -/
def FourDigitYear (d : Date) : Prop := 0 ≤ d.year ∧ d.year ≤ 9999

instance (d : Date) : Decidable d.FourDigitYear :=
  inferInstanceAs (Decidable (0 ≤ d.year ∧ d.year ≤ 9999))

theorem FourDigitYear.text_eq {d : Date} (h : d.FourDigitYear) :
    d.text = fourDigits d.year.toNat ++ '-' :: (twoDigits d.month ++ '-' :: twoDigits d.day) := by
  obtain ⟨hlow, hhigh⟩ := h
  have hyear : 0 ≤ d.year ∧ d.year < 10000 := by omega
  have hnat : d.year.toNat < 10000 := by omega
  unfold text yearText yearDigits
  rw [if_pos hyear, if_pos hnat]
  simp

/-- The year is written with as many characters as any other. -/
theorem FourDigitYear.length_text {d : Date} (h : d.FourDigitYear) : d.text.length = 10 := by
  rw [h.text_eq]
  rfl

/-- **Earlier dates have smaller texts.** -/
theorem Before.text_lt {a b : Date} (h : a.Before b) (ha : a.FourDigitYear) (hb : b.FourDigitYear)
    (hmonth : b.month < 100) (hday : b.day < 100) : a.text < b.text := by
  rw [ha.text_eq, hb.text_eq]
  obtain ⟨ha0, -⟩ := ha
  obtain ⟨hb0, hb9⟩ := hb
  refine lt_of_marked '-' rfl ?_
  rcases h with hyear | ⟨hyear, h⟩
  · exact .inl (fourDigits_lt (by omega) (by omega))
  · rw [hyear]
    refine .inr ⟨rfl, lt_of_marked '-' rfl ?_⟩
    rcases h with hlt | ⟨heq, hlt⟩
    · exact .inl (twoDigits_lt hlt hmonth)
    · rw [heq]
      exact .inr ⟨rfl, twoDigits_lt hlt hday⟩

end Date

namespace Instant

/-! ## Times of day -/

/-- **Earlier times of day have smaller texts**: the second of the day decides, and within it the
milliseconds do. -/
theorem clockText_lt {a b : Instant} (ha : a.LeapAtMinuteEnd) (h : a.secondOfDay < b.secondOfDay ∨
    a.secondOfDay = b.secondOfDay ∧ a.nanos / 1000000 < b.nanos / 1000000) (r s : List Char) :
    a.clockText ++ r < b.clockText ++ s := by
  have hday := b.secondOfDay_lt
  have hshown := b.shown_second_le
  have hbound := a.nanosBound
  have hleap : a.nanos < 1000000000 ∨ a.seconds % 60 = 59 := ha
  have hsecond : (a.secondOfDay % 60 : Nat) = a.seconds % 60 := by
    unfold secondOfDay
    omega
  rw [clockText_append, clockText_append]
  refine lt_of_marked ':' rfl ?_
  by_cases hhour : a.secondOfDay / 3600 < b.secondOfDay / 3600
  · exact .inl (twoDigits_lt hhour (by omega))
  have hhours : a.secondOfDay / 3600 = b.secondOfDay / 3600 := by omega
  rw [hhours]
  refine .inr ⟨rfl, lt_of_marked ':' rfl ?_⟩
  by_cases hminute : a.secondOfDay / 60 % 60 < b.secondOfDay / 60 % 60
  · exact .inl (twoDigits_lt hminute (by omega))
  have hminutes : a.secondOfDay / 60 % 60 = b.secondOfDay / 60 % 60 := by omega
  rw [hminutes]
  refine .inr ⟨rfl, lt_of_marked '.' rfl ?_⟩
  -- Within a minute the second as it is shown decides; only the last one can be a leap second.
  by_cases hshow : a.secondOfDay % 60 + a.nanos / 1000000000 <
      b.secondOfDay % 60 + b.nanos / 1000000000
  · exact .inl (twoDigits_lt hshow (by omega))
  have hshows : a.secondOfDay % 60 + a.nanos / 1000000000 =
      b.secondOfDay % 60 + b.nanos / 1000000000 := by omega
  rw [hshows]
  have hmillis : threeDigits (a.nanos / 1000000 % 1000) < threeDigits (b.nanos / 1000000 % 1000) :=
    threeDigits_lt (by omega) (by omega)
  refine .inr ⟨rfl, append_lt_append ?_ hmillis r s⟩
  rfl

/-! ## Instants -/

/-- The instant lies in the years 0 to 9999. -/
def FourDigitYear (t : Instant) : Prop := t.date.FourDigitYear

instance (t : Instant) : Decidable t.FourDigitYear :=
  inferInstanceAs (Decidable t.date.FourDigitYear)

/-- Cut instants are ordered by their seconds, then by their whole milliseconds. -/
theorem cutNanos_lt_iff {a b : Instant} : a.cutNanos < b.cutNanos ↔
    a.seconds < b.seconds ∨ a.seconds = b.seconds ∧ a.nanos / 1000000 < b.nanos / 1000000 := by
  have hseconds : ∀ t : Instant, t.cutNanos.seconds = t.seconds := fun _ => rfl
  rw [lt_iff, hseconds, hseconds, cutNanos_nanos, cutNanos_nanos]
  omega

/-- **Earlier instants have smaller texts.** -/
theorem text_lt_of_lt {a b : Instant} (ha : a.FourDigitYear) (hb : b.FourDigitYear)
    (hleap : a.LeapAtMinuteEnd) (h : a.cutNanos < b.cutNanos) : a.text < b.text := by
  have hwidth : a.date.text.length = b.date.text.length := by
    rw [Date.FourDigitYear.length_text ha, Date.FourDigitYear.length_text hb]
  obtain ⟨hmonth, hday⟩ := b.month_day_date
  rw [cutNanos_lt_iff] at h
  rw [text_eq, text_eq]
  refine lt_of_marked 'T' hwidth ?_
  by_cases hdays : a.seconds / 86400 < b.seconds / 86400
  · have hbefore : a.date.Before b.date := Date.ofDays_before hdays
    exact .inl (hbefore.text_lt ha hb (by omega) (by omega))
  · have hsame : a.seconds / 86400 = b.seconds / 86400 := by omega
    have hdate : a.date = b.date := congrArg Date.ofDays hsame
    have hclock : a.clockText ++ ['Z'] < b.clockText ++ ['Z'] := by
      refine clockText_lt hleap ?_ _ _
      unfold secondOfDay
      omega
    exact .inr ⟨congrArg Date.text hdate, hclock⟩

/-- Instants have the same text if and only if they are read back as the same. -/
theorem text_eq_iff {a b : Instant} : a.text = b.text ↔ a.readBack = b.readBack := by
  constructor
  · intro h
    have hread := a.read_text
    rw [h, b.read_text, Except.ok.injEq] at hread
    exact hread.symm
  · intro h
    rw [← a.text_readBack, h, b.text_readBack]

theorem fourDigitYear_named {t : Instant} : t.named.FourDigitYear ↔ t.FourDigitYear := by
  unfold FourDigitYear
  rw [date_named]

/-- An instant that is read back as an earlier one has a smaller text. -/
theorem text_lt_of_readBack_lt {a b : Instant} (ha : a.FourDigitYear) (hb : b.FourDigitYear)
    (h : a.readBack < b.readBack) : a.text < b.text := by
  rw [← a.text_named, ← b.text_named]
  exact text_lt_of_lt (fourDigitYear_named.mpr ha) (fourDigitYear_named.mpr hb)
    a.leapAtMinuteEnd_named h

/-- **Texts compare as instants**: in the years 0 to 9999 one text is smaller than another if and
only if its instant, as it is read back, is earlier. -/
theorem text_lt_iff {a b : Instant} (ha : a.FourDigitYear) (hb : b.FourDigitYear) :
    String.ofList a.text < String.ofList b.text ↔ a.readBack < b.readBack := by
  rw [String.lt_iff, String.toList_ofList, String.toList_ofList]
  constructor
  · intro h
    rcases lt_or_eq_or_gt a.readBack b.readBack with hlt | heq | hgt
    · exact hlt
    · rw [text_eq_iff.mpr heq] at h
      exact absurd h (List.lt_irrefl b.text)
    · exact absurd (List.lt_trans h (text_lt_of_readBack_lt hb ha hgt)) (List.lt_irrefl a.text)
  · exact text_lt_of_readBack_lt ha hb

end Instant
end UserDirectory

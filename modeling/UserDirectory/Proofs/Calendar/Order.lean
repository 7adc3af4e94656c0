import UserDirectory.Proofs.Calendar

/-!
# Proofs.Calendar.Order — later days have later dates

* `Date.Before`: one date is before another, by year, month and day.
* `marchDays`: the days up to the first of March of a year; `toDays_eq_marchDays`: every date is
  some days behind that, and before the next first of March.
* `ofDays_before`: a later day has a later date.
-/

namespace UserDirectory.Date

/-- One date is before another. -/
def Before (a b : Date) : Prop :=
  a.year < b.year ∨
    a.year = b.year ∧ (a.month < b.month ∨ a.month = b.month ∧ a.day < b.day)

/-! ## Years that begin on 1 March -/

/-- The days from 1 March of the year 0 to 1 March of another year. -/
def marchDays (year : Int) : Int := 365 * year + year / 4 - year / 100 + year / 400

theorem toDays_eq_marchDays (year : Int) {d : Nat} (hd : d ≤ 365) :
    (ofMarchYear year d).toDays = marchDays year + d - 719468 := by
  rw [toDays_ofMarchYear year hd]
  unfold marchDays
  omega

theorem marchDays_mono {y z : Int} (h : y ≤ z) : marchDays y ≤ marchDays z := by
  unfold marchDays
  omega

/-- A year ends before the next one begins: it has a day 365 in leap years only. -/
theorem YearDay.lt_marchDays {n e : Int} {c q y d : Nat} (h : YearDay n e c q y d) :
    marchDays (marchYear e c q y) + d < marchDays (marchYear e c q y + 1) := by
  have hd := h.day
  by_cases hlast : d = 365
  · obtain ⟨hfour, hcentury⟩ := (isLeapYear_iff _).mp (h.isLeapYear hlast)
    unfold marchDays
    omega
  · unfold marchDays
    omega

/-- Days of a year from March on are in the order of their dates. -/
theorem ofMarchYear_before {y z : Int} {d f : Nat} (hd : d ≤ 365) (hf : f ≤ 365)
    (h : y < z ∨ y = z ∧ d < f) : (ofMarchYear y d).Before (ofMarchYear z f) := by
  have hm := month_le hd
  have hn := month_le hf
  unfold ofMarchYear Before
  dsimp only
  split_ifs
  · dsimp only
    omega
  · dsimp only
    omega
  · dsimp only
    omega
  · dsimp only
    omega

/-! ## Dates -/

/-- **Later days have later dates.** -/
theorem ofDays_before {m n : Int} (h : m < n) : (ofDays m).Before (ofDays n) := by
  obtain ⟨e, c, q, y, d, hm, hmeq⟩ := ofDays_eq m
  obtain ⟨e', c', q', y', d', hn, hneq⟩ := ofDays_eq n
  have hmdays : m = marchDays (marchYear e c q y) + d - 719468 := by
    rw [← toDays_eq_marchDays _ hm.day, ← hmeq, toDays_ofDays]
  have hndays : n = marchDays (marchYear e' c' q' y') + d' - 719468 := by
    rw [← toDays_eq_marchDays _ hn.day, ← hneq, toDays_ofDays]
  rw [hmeq, hneq]
  refine ofMarchYear_before hm.day hn.day ?_
  rcases Int.lt_trichotomy (marchYear e c q y) (marchYear e' c' q' y') with hlt | heq | hgt
  · exact .inl hlt
  · rw [heq] at hmdays
    exact .inr ⟨heq, by omega⟩
  · -- Then the later day would be in a year that ended before the earlier one began.
    have hyear := hn.lt_marchDays
    have hmono : marchDays (marchYear e' c' q' y' + 1) ≤ marchDays (marchYear e c q y) :=
      marchDays_mono hgt
    omega

end UserDirectory.Date

import Mathlib.Tactic.Common
import UserDirectory.Calendar

/-!
# Proofs.Calendar — days and dates are inverse

* `YearDay n e c q y d`: the parts into which `Date.ofDays n` divides `n`: eras of 400 years,
  centuries, cycles of four years, years, and days from 1 March.
* `ofDays_eq`: the date in terms of these parts.
* `toDays_ofDays`: counting the days to that date gives `n` back.
* `isValid_ofDays`: the calendar has that date; the leap day is the last of its year.
* `year_ofDays`: bounds of its year.
-/

namespace UserDirectory.Date

/-! ## The parts of a day count -/

/-- `n` days after 1 January 1970 is day `d` (from 1 March) of year `y` of cycle `q` of century `c`
of era `e`.  Only the last year of a cycle may have a day 365, and of the last cycle of a century
only if the century is the last of its era. -/
structure YearDay (n e : Int) (c q y d : Nat) : Prop where
  count : n + 719468 = 146097 * e + (36524 * c + 1461 * q + 365 * y + d : Nat)
  century : c ≤ 3
  cycle : q ≤ 24
  year : y ≤ 3
  day : d ≤ 365
  leap : d = 365 → y = 3 ∧ (q = 24 → c = 3)

/-- The year of the parts, from 1 March on. -/
def marchYear (e : Int) (c q y : Nat) : Int := 400 * e + (100 * c + 4 * q + y : Nat)

/-- The date of day `d` of a year that begins on 1 March. -/
def ofMarchYear (year : Int) (d : Nat) : Date :=
  let month := (5 * d + 2) / 153
  let day := d - (153 * month + 2) / 5 + 1
  if month < 10 then ⟨year, month + 3, day⟩ else ⟨year + 1, month - 9, day⟩

/-- **The date of a day count** in terms of its parts. -/
theorem ofDays_eq (n : Int) :
    ∃ e c q y d, YearDay n e c q y d ∧ ofDays n = ofMarchYear (marchYear e c q y) d := by
  have hn : 0 ≤ (n + epochDays) % 146097 ∧ (n + epochDays) % 146097 < 146097 := by omega
  set m := ((n + epochDays) % 146097).toNat with hm
  set c := min (m / 36524) 3 with hc
  set q := (m - 36524 * c) / 1461 with hq
  set y := min ((m - 36524 * c - 1461 * q) / 365) 3 with hy
  refine ⟨(n + epochDays) / 146097, c, q, y, m - 36524 * c - 1461 * q - 365 * y, ?_, rfl⟩
  unfold epochDays at hn hm ⊢
  refine ⟨?_, ?_, ?_, ?_, ?_, ?_⟩ <;> omega

/-! ## Counting the days back -/

/-- The month of a day of the year, from March on. -/
theorem month_le {d : Nat} (hd : d ≤ 365) : (5 * d + 2) / 153 ≤ 11 := by omega

theorem toDays_ofMarchYear (year : Int) {d : Nat} (hd : d ≤ 365) :
    (ofMarchYear year d).toDays =
      146097 * (year / 400) + (365 * (year % 400).toNat + (year % 400).toNat / 4
        - (year % 400).toNat / 100 + d : Nat) - 719468 := by
  have hm := month_le hd
  unfold ofMarchYear
  dsimp only
  split
  · next h =>
    unfold toDays epochDays
    dsimp only
    rw [if_neg (by omega), if_neg (by omega)]
    omega
  · next h =>
    unfold toDays epochDays
    dsimp only
    rw [if_pos (by omega), if_pos (by omega), Int.add_sub_cancel]
    omega

theorem YearDay.marchYear_div {n e : Int} {c q y d : Nat} (h : YearDay n e c q y d) :
    marchYear e c q y / 400 = e ∧ (marchYear e c q y % 400).toNat = 100 * c + 4 * q + y := by
  obtain ⟨-, hc, hq, hy, -, -⟩ := h
  unfold marchYear
  omega

/-- **Days and dates**: the date a number of days after 1 January 1970 is that many days after
it. -/
theorem toDays_ofDays (n : Int) : (ofDays n).toDays = n := by
  obtain ⟨e, c, q, y, d, h, heq⟩ := ofDays_eq n
  obtain ⟨he, hy⟩ := h.marchYear_div
  obtain ⟨hcount, h1, h2, h3, hd, -⟩ := h
  rw [heq, toDays_ofMarchYear _ hd, he, hy]
  omega

/-! ## The calendar has the date -/

theorem isLeapYear_iff (year : Int) :
    isLeapYear year = true ↔ year % 4 = 0 ∧ (year % 100 ≠ 0 ∨ year % 400 = 0) := by
  simp [isLeapYear]

theorem YearDay.isLeapYear {n e : Int} {c q y d : Nat} (h : YearDay n e c q y d) (hd : d = 365) :
    isLeapYear (marchYear e c q y + 1) = true := by
  obtain ⟨hy, hc⟩ := h.leap hd
  obtain ⟨-, h1, h2, -, -, -⟩ := h
  rw [isLeapYear_iff]
  unfold marchYear
  omega

theorem daysInMonth_of_ne {year : Int} {month : Nat} (h : month ≠ 2) :
    daysInMonth year month =
      if month = 4 ∨ month = 6 ∨ month = 9 ∨ month = 11 then 30 else 31 := by
  simp [daysInMonth, h, or_assoc]

theorem daysInMonth_two (year : Int) :
    daysInMonth year 2 = if Date.isLeapYear year then 29 else 28 := rfl

theorem isValid_ofMarchYear {year : Int} {d : Nat} (hd : d ≤ 365)
    (hleap : d = 365 → Date.isLeapYear (year + 1) = true) :
    (ofMarchYear year d).isValid = true := by
  have hm := month_le hd
  unfold ofMarchYear
  dsimp only
  generalize hmonth : (5 * d + 2) / 153 = month at hm ⊢
  unfold isValid
  split
  · next h =>
    have hlen : d - (153 * month + 2) / 5 + 1 ≤ daysInMonth year (month + 3) := by
      rw [daysInMonth_of_ne (by omega)]
      split <;> omega
    simp only [Bool.and_eq_true, decide_eq_true_eq]
    omega
  · next h =>
    have hlen : d - (153 * month + 2) / 5 + 1 ≤ daysInMonth (year + 1) (month - 9) := by
      by_cases hfeb : month = 11
      · subst hfeb
        show d - (153 * 11 + 2) / 5 + 1 ≤ daysInMonth (year + 1) 2
        rw [daysInMonth_two]
        split_ifs with hl
        · omega
        · have hlast : d ≠ 365 := fun h365 => hl (hleap h365)
          omega
      · rw [daysInMonth_of_ne (by omega)]
        split <;> omega
    simp only [Bool.and_eq_true, decide_eq_true_eq]
    omega

/-- The calendar has the date of every day. -/
theorem isValid_ofDays (n : Int) : (ofDays n).isValid = true := by
  obtain ⟨e, c, q, y, d, h, heq⟩ := ofDays_eq n
  rw [heq]
  exact isValid_ofMarchYear h.day h.isLeapYear

/-! ## Bounds of the year -/

/-- The days up to 95026236 end with the last day of 262142: its part before March and the rest of
it are told apart by the day of the year. -/
theorem YearDay.year_le {n e : Int} {c q y d : Nat} (h : YearDay n e c q y d)
    (hn : n ≤ 95026236) :
    marchYear e c q y ≤ 262141 ∨ marchYear e c q y = 262142 ∧ d ≤ 305 := by
  obtain ⟨hcount, hc, hq, hy, -, -⟩ := h
  unfold marchYear
  by_contra hlt
  have he : e = 655 := by omega
  subst he
  have hc1 : c = 1 := by omega
  subst hc1
  have hq10 : q = 10 := by omega
  subst hq10
  omega

/-- The days from -96465292 on begin with the first day of -262143, which is day 306 from March of
the year before. -/
theorem YearDay.le_year {n e : Int} {c q y d : Nat} (h : YearDay n e c q y d)
    (hn : -96465292 ≤ n) :
    -262143 ≤ marchYear e c q y ∨ marchYear e c q y = -262144 ∧ 306 ≤ d := by
  obtain ⟨hcount, hc, hq, hy, hd, -⟩ := h
  unfold marchYear
  by_contra hlt
  have he : e = -656 := by omega
  subst he
  have hc2 : c = 2 := by omega
  subst hc2
  have hq14 : q = 14 := by omega
  subst hq14
  omega

/-- The days from -96465292 to 95026236 lie in the years from -262143 to 262142. -/
theorem year_ofDays {n : Int} (h : -96465292 ≤ n ∧ n ≤ 95026236) :
    -262143 ≤ (ofDays n).year ∧ (ofDays n).year ≤ 262142 := by
  obtain ⟨e, c, q, y, d, hp, heq⟩ := ofDays_eq n
  have hlow := hp.le_year h.1
  have hhigh := hp.year_le h.2
  have hd := hp.day
  rw [heq]
  unfold ofMarchYear
  dsimp only
  split
  · dsimp only
    omega
  · dsimp only
    omega

end UserDirectory.Date

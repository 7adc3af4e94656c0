import UserDirectory.Instant
import UserDirectory.Instant.Reader
import UserDirectory.Proofs.Calendar
import UserDirectory.Proofs.Steps
import UserDirectory.Proofs.Text.Digit

/-!
# Proofs.Instant.Reading — instants read back from their text

* `LeapAtMinuteEnd`, `named`: a text names an instant whose leap second ends a minute, and any
  other leap second as the second behind it.
* `readBack`: the instant that a text names, cut to milliseconds.
* `number_append`: the number reader takes the digits it is given and leaves what follows.
* `readDate_text`, `readClock_clockText`: the date and the time of day read back.
* `read_text`: the whole text of an instant reads back as `readBack` says, in every year and for
  leap seconds too.
* `leapAtMinuteEnd_of_read`: no text names a leap second that ends no minute.
-/

namespace UserDirectory.Instant

open Steps Text

/-! ## Cutting to milliseconds -/

/-- An instant is its seconds and its nanoseconds. -/
theorem ext_parts {a b : Instant} (hs : a.seconds = b.seconds) (hn : a.nanos = b.nanos) :
    a = b := by
  obtain ⟨s, n, _, _⟩ := a
  obtain ⟨s', n', _, _⟩ := b
  rw [Instant.mk.injEq]
  exact ⟨hs, hn⟩

theorem cutNanos_nanos (t : Instant) : t.cutNanos.nanos = t.nanos - t.nanos % 1000000 := rfl

theorem cutNanos_cutNanos (t : Instant) : t.cutNanos.cutNanos = t.cutNanos := by
  unfold cutNanos
  congr 1
  dsimp only
  omega

theorem truncate_of_hasNanoCount {t : Instant} (h : t.hasNanoCount = true) :
    t.truncate = t.cutNanos := if_pos h

theorem truncate_of_not_hasNanoCount {t : Instant} (h : ¬ t.hasNanoCount = true) :
    t.truncate = t := if_neg h

theorem truncate_cutNanos (t : Instant) : t.cutNanos.truncate = t.cutNanos := by
  unfold truncate
  split
  · exact t.cutNanos_cutNanos
  · rfl

theorem cutNanos_truncate (t : Instant) : t.truncate.cutNanos = t.cutNanos := by
  unfold truncate
  split
  · exact t.cutNanos_cutNanos
  · rfl

theorem truncate_truncate (t : Instant) : t.truncate.truncate = t.truncate := by
  by_cases h : t.hasNanoCount = true
  · rw [truncate_of_hasNanoCount h, t.truncate_cutNanos]
  · rw [truncate_of_not_hasNanoCount h, truncate_of_not_hasNanoCount h]

/-- The instant has no part of a millisecond. -/
def IsWhole (t : Instant) : Prop := t.nanos % 1000000 = 0

theorem IsWhole.cutNanos_eq {t : Instant} (h : t.IsWhole) : t.cutNanos = t := by
  have hzero : t.nanos % 1000000 = 0 := h
  refine ext_parts rfl ?_
  rw [cutNanos_nanos, hzero, Nat.sub_zero]

/-- The text shows no more than whole milliseconds. -/
theorem text_cutNanos (t : Instant) : t.cutNanos.text = t.text := by
  have hsec : t.cutNanos.nanos / 1000000000 = t.nanos / 1000000000 := by
    rw [cutNanos_nanos]
    omega
  have hmilli : t.cutNanos.nanos / 1000000 = t.nanos / 1000000 := by
    rw [cutNanos_nanos]
    omega
  have hclock : t.cutNanos.clockText = t.clockText := by
    unfold clockText
    rw [hsec, hmilli]
    rfl
  unfold text
  rw [hclock]
  rfl

theorem text_truncate (t : Instant) : t.truncate.text = t.text := by
  rw [← text_cutNanos, cutNanos_truncate, text_cutNanos]

/-! ## What a text names -/

/-- The instant lies in no leap second, or in one that ends a minute. -/
def LeapAtMinuteEnd (t : Instant) : Prop := t.nanos < 1000000000 ∨ t.seconds % 60 = 59

instance (t : Instant) : Decidable t.LeapAtMinuteEnd :=
  inferInstanceAs (Decidable (t.nanos < 1000000000 ∨ t.seconds % 60 = 59))

/-- A second that has a second of its minute behind it is not the last there is. -/
theorem inRange_succ {t : Instant} (h : ¬ t.LeapAtMinuteEnd) :
    firstSecond ≤ t.seconds + 1 ∧ t.seconds + 1 ≤ lastSecond := by
  have hrange := t.inRange
  unfold LeapAtMinuteEnd at h
  unfold firstSecond lastSecond at hrange ⊢
  omega

/-- The instant that the text of an instant names.  There is no second 60 within a minute: a leap
second there is written as the second behind it. -/
def named (t : Instant) : Instant :=
  if h : t.LeapAtMinuteEnd then t
  else ⟨t.seconds + 1, t.nanos - 1000000000, inRange_succ h, by have := t.nanosBound; omega⟩

theorem named_eq {t : Instant} (h : t.LeapAtMinuteEnd) : t.named = t := dif_pos h

theorem seconds_named {t : Instant} (h : ¬ t.LeapAtMinuteEnd) :
    t.named.seconds = t.seconds + 1 := by
  unfold named
  rw [dif_neg h]

theorem nanos_named {t : Instant} (h : ¬ t.LeapAtMinuteEnd) :
    t.named.nanos = t.nanos - 1000000000 := by
  unfold named
  rw [dif_neg h]

theorem leapAtMinuteEnd_named (t : Instant) : t.named.LeapAtMinuteEnd := by
  by_cases h : t.LeapAtMinuteEnd
  · rw [named_eq h]
    exact h
  · have hbound := t.nanosBound
    refine .inl ?_
    rw [nanos_named h]
    omega

theorem leapAtMinuteEnd_cutNanos {t : Instant} :
    t.cutNanos.LeapAtMinuteEnd ↔ t.LeapAtMinuteEnd := by
  unfold LeapAtMinuteEnd
  rw [cutNanos_nanos]
  show _ ∨ t.seconds % 60 = 59 ↔ _
  omega

theorem date_named (t : Instant) : t.named.date = t.date := by
  by_cases h : t.LeapAtMinuteEnd
  · rw [named_eq h]
  · have hday : (t.seconds + 1) / 86400 = t.seconds / 86400 := by
      unfold LeapAtMinuteEnd at h
      omega
    unfold date
    rw [seconds_named h, hday]

theorem clockText_named (t : Instant) : t.named.clockText = t.clockText := by
  by_cases h : t.LeapAtMinuteEnd
  · rw [named_eq h]
  have hbound := t.nanosBound
  have hsecond : t.named.secondOfDay = t.secondOfDay + 1 := by
    unfold secondOfDay
    rw [seconds_named h]
    unfold LeapAtMinuteEnd at h
    omega
  have hwithin : t.secondOfDay % 60 < 59 ∧ 1000000000 ≤ t.nanos := by
    unfold LeapAtMinuteEnd at h
    unfold secondOfDay
    omega
  have hhour : (t.secondOfDay + 1) / 3600 = t.secondOfDay / 3600 := by omega
  have hminute : (t.secondOfDay + 1) / 60 = t.secondOfDay / 60 := by omega
  have hshown : (t.secondOfDay + 1) % 60 + (t.nanos - 1000000000) / 1000000000 =
      t.secondOfDay % 60 + t.nanos / 1000000000 := by omega
  have hmilli : (t.nanos - 1000000000) / 1000000 % 1000 = t.nanos / 1000000 % 1000 := by omega
  unfold clockText
  dsimp only
  rw [hsecond, nanos_named h, hhour, hminute, hshown, hmilli]

/-- The text of an instant is the text of the instant that it names. -/
theorem text_named (t : Instant) : t.named.text = t.text := by
  unfold text
  rw [date_named, clockText_named]

/-- What the text of an instant tells of it: the instant that it names, in whole milliseconds. -/
def readBack (t : Instant) : Instant := t.named.cutNanos

theorem readBack_eq {t : Instant} (h : t.LeapAtMinuteEnd) : t.readBack = t.cutNanos :=
  congrArg cutNanos (named_eq h)

theorem text_readBack (t : Instant) : t.readBack.text = t.text := by
  unfold readBack
  rw [text_cutNanos, text_named]

theorem leapAtMinuteEnd_readBack (t : Instant) : t.readBack.LeapAtMinuteEnd :=
  leapAtMinuteEnd_cutNanos.mpr t.leapAtMinuteEnd_named

theorem isWhole_cutNanos (t : Instant) : t.cutNanos.IsWhole := by
  show t.cutNanos.nanos % 1000000 = 0
  rw [cutNanos_nanos]
  omega

/-- Cutting to whole milliseconds changes the instants that have a part of one. -/
theorem cutNanos_eq_self_iff {t : Instant} : t.cutNanos = t ↔ t.IsWhole := by
  refine ⟨?_, IsWhole.cutNanos_eq⟩
  intro h
  rw [← h]
  exact t.isWhole_cutNanos

theorem isWhole_readBack (t : Instant) : t.readBack.IsWhole := t.named.isWhole_cutNanos

theorem truncate_readBack (t : Instant) : t.readBack.truncate = t.readBack :=
  t.named.truncate_cutNanos

/-- A text tells all of an instant that has no part of a millisecond, unless it is in a leap second
that ends no minute. -/
theorem readBack_eq_self_iff {t : Instant} : t.readBack = t ↔ t.IsWhole ∧ t.LeapAtMinuteEnd := by
  constructor
  · intro h
    rw [← h]
    exact ⟨t.isWhole_readBack, t.leapAtMinuteEnd_readBack⟩
  · rintro ⟨hwhole, hleap⟩
    rw [readBack_eq hleap, hwhole.cutNanos_eq]

theorem readBack_cutNanos (t : Instant) : t.cutNanos.readBack = t.readBack := by
  by_cases h : t.LeapAtMinuteEnd
  · rw [readBack_eq (leapAtMinuteEnd_cutNanos.mpr h), readBack_eq h, cutNanos_cutNanos]
  · have hcut : ¬ t.cutNanos.LeapAtMinuteEnd := fun hc => h (leapAtMinuteEnd_cutNanos.mp hc)
    have hwithin : 1000000000 ≤ t.nanos := by
      unfold LeapAtMinuteEnd at h
      omega
    have hseconds : t.cutNanos.named.seconds = t.named.seconds := by
      rw [seconds_named hcut, seconds_named h]
      rfl
    have hnanos : t.cutNanos.readBack.nanos = t.readBack.nanos := by
      unfold readBack
      rw [cutNanos_nanos, cutNanos_nanos, nanos_named hcut, nanos_named h, cutNanos_nanos]
      omega
    exact ext_parts hseconds hnanos

theorem readBack_truncate (t : Instant) : t.truncate.readBack = t.readBack := by
  rw [← readBack_cutNanos, cutNanos_truncate, readBack_cutNanos]

/-! ## Numbers -/

/-- What follows a number of at most `max` digits, of which there are `n`. -/
def Ends (max n : Nat) (rest : List Char) : Prop :=
  n = max ∨ ∀ c r, rest = c :: r → c.isDigit = false

theorem leadingDigits_append {max : Nat} {ds rest : List Char}
    (hds : ∀ c ∈ ds, c.isDigit = true) (hlen : ds.length ≤ max) (hend : Ends max ds.length rest) :
    leadingDigits max (ds ++ rest) = ds := by
  unfold leadingDigits
  rw [List.take_append, List.take_of_length_le hlen, List.takeWhile_append_of_pos hds]
  have hnone : (rest.take (max - ds.length)).takeWhile Char.isDigit = [] := by
    rcases hend with hfull | hstop
    · rw [hfull, Nat.sub_self, List.take_zero]
      rfl
    · cases rest with
      | nil => rw [List.take_nil]; rfl
      | cons c r =>
        cases max - ds.length with
        | zero => rfl
        | succ n => rw [List.take_succ_cons, List.takeWhile_cons_of_neg (by simp [hstop c r rfl])]
  rw [hnone, List.append_nil]

/-- **Numbers**: digits that end where they should are read as the number they write. -/
theorem number_append {max : Nat} {ds rest : List Char} (hds : ∀ c ∈ ds, c.isDigit = true)
    (hne : ds ≠ []) (hlen : ds.length ≤ max) (hend : Ends max ds.length rest)
    (hbound : natOfDigits ds < twoPow 63) :
    number max (ds ++ rest) = .ok (natOfDigits ds, rest) := by
  have hempty : (ds ++ rest).isEmpty = false := by
    cases ds with
    | nil => exact absurd rfl hne
    | cons c r => rfl
  have hdsne : ds.isEmpty = false := by
    cases ds with
    | nil => exact absurd rfl hne
    | cons c r => rfl
  unfold number
  dsimp only
  rw [leadingDigits_append hds hlen hend, hempty, hdsne, natBelow?_eq, if_pos hbound]
  simp

theorem isBlank_of_isDigit {c : Char} (h : c.isDigit = true) : isBlank c = false := by
  have hd := toNat_of_isDigit h
  simp [isBlank]
  omega

theorem trimStart_digits {ds : List Char} (hds : ∀ c ∈ ds, c.isDigit = true) (hne : ds ≠ [])
    (rest : List Char) : trimStart (ds ++ rest) = ds ++ rest := by
  cases ds with
  | nil => exact absurd rfl hne
  | cons c r =>
    exact trimStart_cons_of_not_isBlank (isBlank_of_isDigit (hds c List.mem_cons_self)) _

/-- A number of two digits between its bounds. -/
theorem field_twoDigits {low high n : Nat} (hlow : low ≤ n) (hhigh : n ≤ high) (hn : n < 100)
    (rest : List Char) : field low high (twoDigits n ++ rest) = .ok (n, rest) := by
  have hds := isDigit_twoDigits n
  have hval : natOfDigits (twoDigits n) = n := by
    rw [natOfDigits_twoDigits]
    omega
  have hbound : natOfDigits (twoDigits n) < twoPow 63 := by
    rw [hval]
    exact Nat.lt_trans hn (by decide)
  have hne : twoDigits n ≠ [] := by simp [twoDigits]
  have hlen : (twoDigits n).length ≤ 2 := Nat.le_refl 2
  have hend : Ends 2 (twoDigits n).length rest := .inl rfl
  have hnum := number_append hds hne hlen hend hbound
  rw [hval] at hnum
  unfold field
  rw [trimStart_digits hds hne, hnum]
  show (if low ≤ n ∧ n ≤ high then _ else _) = _
  rw [if_pos ⟨hlow, hhigh⟩]
  rfl

theorem mark_cons {c : Char} (hc : isBlank c = false) (rest : List Char) :
    mark c (c :: rest) = .ok rest := by
  unfold mark
  rw [trimStart_cons_of_not_isBlank hc]
  simp

/-! ## Dates -/

theorem isDigit_yearDigits (n : Nat) : ∀ c ∈ Date.yearDigits n, c.isDigit = true := by
  unfold Date.yearDigits
  split
  · exact isDigit_fourDigits n
  · exact isDigit_natDigits n

theorem yearDigits_ne_nil (n : Nat) : Date.yearDigits n ≠ [] := by
  unfold Date.yearDigits
  split
  · simp [fourDigits]
  · exact natDigits_ne_nil n

theorem natOfDigits_yearDigits (n : Nat) : natOfDigits (Date.yearDigits n) = n := by
  unfold Date.yearDigits
  split
  · next h =>
    rw [natOfDigits_fourDigits]
    omega
  · exact natOfDigits_natDigits n

/-- The digits of a year behind its sign are all read, up to the hyphen. -/
theorem number_yearDigits {n : Nat} (hn : n < 1000000) (rest : List Char) :
    number (Date.yearDigits n ++ '-' :: rest).length (Date.yearDigits n ++ '-' :: rest) =
      .ok (n, '-' :: rest) := by
  have hlen : (Date.yearDigits n).length ≤ (Date.yearDigits n ++ '-' :: rest).length := by
    rw [List.length_append]
    omega
  have hend : Ends (Date.yearDigits n ++ '-' :: rest).length (Date.yearDigits n).length
      ('-' :: rest) := by
    refine .inr fun c r h => ?_
    obtain ⟨rfl, -⟩ := List.cons_eq_cons.mp h
    rfl
  have hbound : natOfDigits (Date.yearDigits n) < twoPow 63 := by
    rw [natOfDigits_yearDigits]
    exact Nat.lt_trans hn (by decide)
  have hnum := number_append (isDigit_yearDigits n) (yearDigits_ne_nil n) hlen hend hbound
  rw [natOfDigits_yearDigits] at hnum
  exact hnum

theorem fitsSigned_32_of_year {y : Int} (h : -262143 ≤ y ∧ y ≤ 262142) :
    fitsSigned 32 y = true := by
  rw [fitsSigned_32]
  omega

/-- **Years**: four digits without a sign, or a sign and all the digits. -/
theorem year_yearText {y : Int} (h : -262143 ≤ y ∧ y ≤ 262142) (rest : List Char) :
    year (Date.yearText y ++ '-' :: rest) = .ok (y, '-' :: rest) := by
  have hfits := fitsSigned_32_of_year h
  unfold Date.yearText
  split
  · next hy =>
    have hdigits : Date.yearDigits y.toNat = fourDigits y.toNat := by
      unfold Date.yearDigits
      rw [if_pos (by omega)]
    have hval : natOfDigits (fourDigits y.toNat) = y.toNat := by
      rw [natOfDigits_fourDigits]
      omega
    have hend : Ends 4 (fourDigits y.toNat).length ('-' :: rest) := .inl rfl
    have hbound : natOfDigits (fourDigits y.toNat) < twoPow 63 := by
      rw [hval]
      exact Nat.lt_trans (m := 10000) (by omega) (by decide)
    have hne : fourDigits y.toNat ≠ [] := by simp [fourDigits]
    have hnum := number_append (isDigit_fourDigits y.toNat) hne (Nat.le_refl 4) hend hbound
    have hsign : ∀ c, c.isDigit = false → ∀ r, fourDigits y.toNat ++ '-' :: rest ≠ c :: r := by
      intro c hc r heq
      have hd := isDigit_digitChar (y.toNat / 1000)
      obtain ⟨rfl, -⟩ := List.cons_eq_cons.mp heq
      rw [hc] at hd
      exact absurd hd (by decide)
    unfold year
    rw [hdigits, trimStart_digits (isDigit_fourDigits y.toNat) hne]
    split
    · next heq => exact absurd heq (hsign _ rfl _)
    · next heq => exact absurd heq (hsign _ rfl _)
    · rw [hnum, hval, map_ok, ok_bind]
      dsimp only
      rw [Int.toNat_of_nonneg hy.1, if_pos hfits, pure_eq_ok]
  · next hy =>
    have hnum := number_yearDigits (n := y.natAbs) (by omega) rest
    by_cases hneg : y < 0
    · rw [if_pos hneg, List.cons_append]
      have habs : -((y.natAbs : Nat) : Int) = y := by omega
      unfold year
      rw [trimStart_cons_of_not_isBlank (by decide)]
      change (Except.map _ (number _ _) >>= _) = _
      rw [hnum, map_ok, ok_bind]
      dsimp only
      rw [habs, if_pos hfits, pure_eq_ok]
    · rw [if_neg hneg, List.cons_append]
      have habs : ((y.natAbs : Nat) : Int) = y := by omega
      unfold year
      rw [trimStart_cons_of_not_isBlank (by decide)]
      change (Except.map _ (number _ _) >>= _) = _
      rw [hnum, map_ok, ok_bind]
      dsimp only
      rw [habs, if_pos hfits, pure_eq_ok]

/-- **Dates**: the text of a date is read as its year, month and day. -/
theorem readDate_text {d : Date} (hy : -262143 ≤ d.year ∧ d.year ≤ 262142)
    (hm : 1 ≤ d.month ∧ d.month ≤ 12) (hd : 1 ≤ d.day ∧ d.day ≤ 31) (rest : List Char) :
    readDate (d.text ++ rest) = .ok (d, rest) := by
  have htext : d.text ++ rest = Date.yearText d.year ++ '-' ::
      (twoDigits d.month ++ '-' :: (twoDigits d.day ++ rest)) := by
    simp [Date.text]
  unfold readDate
  rw [htext, year_yearText hy, ok_bind]
  dsimp only
  rw [mark_cons (by decide), ok_bind, field_twoDigits hm.1 hm.2 (by omega), ok_bind]
  dsimp only
  rw [mark_cons (by decide), ok_bind, field_twoDigits hd.1 hd.2 (by omega), ok_bind]
  rfl

/-! ## Times of day -/

/-- The three digits behind the point are milliseconds. -/
theorem fraction_threeDigits {m : Nat} (hm : m < 1000) {rest : List Char}
    (hrest : ∀ c r, rest = c :: r → c.isDigit = false) :
    fraction ('.' :: (threeDigits m ++ rest)) = .ok (1000000 * m, rest) := by
  have hval : natOfDigits (threeDigits m) = m := by
    rw [natOfDigits_threeDigits]
    omega
  have hlen : (threeDigits m).length ≤ 9 := by simp [threeDigits, twoDigits]
  have hend : Ends 9 (threeDigits m).length rest := .inr hrest
  have hbound : natOfDigits (threeDigits m) < twoPow 63 := by
    rw [hval]
    exact Nat.lt_trans hm (by decide)
  have hne : threeDigits m ≠ [] := by simp [threeDigits]
  have hnum := number_append (isDigit_threeDigits m) hne hlen hend hbound
  have hlead := leadingDigits_append (isDigit_threeDigits m) hlen hend
  have hdrop : rest.dropWhile Char.isDigit = rest := by
    cases rest with
    | nil => rfl
    | cons c r => rw [List.dropWhile_cons_of_neg (by simp [hrest c r rfl])]
  have hpow : tenPow (9 - (threeDigits m).length) = 1000000 := rfl
  unfold fraction
  change (number 9 (threeDigits m ++ rest) >>= _) = _
  rw [hnum, hval, ok_bind]
  dsimp only
  rw [hlead, hpow, hdrop, Nat.mul_comm, pure_eq_ok]

theorem secondOfDay_lt (t : Instant) : t.secondOfDay < 86400 := by
  unfold secondOfDay
  omega

/-- The leap second shows as second 60. -/
theorem shown_second_le (t : Instant) : t.secondOfDay % 60 + t.nanos / 1000000000 ≤ 60 := by
  have hbound := t.nanosBound
  omega

/-- The fields of the time of day, each with its mark behind it. -/
theorem clockText_append (t : Instant) (rest : List Char) :
    t.clockText ++ rest = twoDigits (t.secondOfDay / 3600) ++ ':' ::
      (twoDigits (t.secondOfDay / 60 % 60) ++ ':' ::
        (twoDigits (t.secondOfDay % 60 + t.nanos / 1000000000) ++ '.' ::
          (threeDigits (t.nanos / 1000000 % 1000) ++ rest))) := by
  simp [clockText]

/-- **Times of day**: hour, minute, the second as it is shown, and the whole milliseconds of it. -/
theorem readClock_clockText (t : Instant) {rest : List Char}
    (hrest : ∀ c r, rest = c :: r → c.isDigit = false) :
    readClock (t.clockText ++ rest) =
      .ok (⟨t.secondOfDay / 3600, t.secondOfDay / 60 % 60,
        t.secondOfDay % 60 + t.nanos / 1000000000,
        1000000 * (t.nanos / 1000000 % 1000)⟩, rest) := by
  have hs := t.secondOfDay_lt
  have hsecond := t.shown_second_le
  unfold readClock
  rw [clockText_append, field_twoDigits (by omega) (by omega) (by omega), ok_bind]
  dsimp only
  rw [mark_cons (by decide), ok_bind, field_twoDigits (by omega) (by omega) (by omega), ok_bind]
  dsimp only
  rw [mark_cons (by decide), ok_bind, field_twoDigits (by omega) hsecond (by omega), ok_bind]
  dsimp only
  rw [fraction_threeDigits (by omega) hrest, ok_bind]
  rfl

/-! ## Whole texts -/

theorem ofParts?_self {t : Instant} (h : t.LeapAtMinuteEnd) :
    ofParts? t.seconds t.nanos = some t := by
  have hminute : t.nanos < 1000000000 ∨ t.nanos < 2000000000 ∧ t.seconds % 60 = 59 :=
    h.imp_right fun hend => ⟨t.nanosBound, hend⟩
  unfold ofParts?
  rw [dif_pos t.inRange, dif_pos hminute]

theorem isYear_date (t : Instant) : isYear t.date.year = true := by
  have hrange := t.inRange
  unfold firstSecond lastSecond at hrange
  have hyear := Date.year_ofDays (n := t.seconds / 86400) (by omega)
  unfold isYear
  rw [Bool.and_eq_true, decide_eq_true_eq, decide_eq_true_eq]
  exact hyear

/-- The date and the clock of an instant give it again, cut to milliseconds. -/
theorem ofDateTime_parts {t : Instant} (h : t.LeapAtMinuteEnd) :
    ofDateTime t.date ⟨t.secondOfDay / 3600, t.secondOfDay / 60 % 60,
      t.secondOfDay % 60 + t.nanos / 1000000000, 1000000 * (t.nanos / 1000000 % 1000)⟩ 0 =
      .ok t.cutNanos := by
  have hbound := t.nanosBound
  have hself := ofParts?_self (leapAtMinuteEnd_cutNanos.mpr h)
  have hday : (t.secondOfDay : Int) = t.seconds % 86400 := by
    unfold secondOfDay
    omega
  have hdays : t.date.toDays = t.seconds / 86400 := Date.toDays_ofDays _
  have hvalid : t.date.isValid = true := Date.isValid_ofDays _
  -- The second shown is 60 exactly in a leap second, whose nanoseconds start at 10 ^ 9.
  have hleap : (if t.secondOfDay % 60 + t.nanos / 1000000000 = 60 then 1 else 0) =
      t.nanos / 1000000000 := by
    unfold LeapAtMinuteEnd at h
    split_ifs <;> omega
  have hseconds : 86400 * t.date.toDays +
      ((3600 * (t.secondOfDay / 3600) + 60 * (t.secondOfDay / 60 % 60)
        + (t.secondOfDay % 60 + t.nanos / 1000000000 - t.nanos / 1000000000) : Nat) : Int) - 0 =
      t.cutNanos.seconds := by
    show _ = t.seconds
    rw [hdays]
    omega
  have hnanos : 1000000000 * (t.nanos / 1000000000) + 1000000 * (t.nanos / 1000000 % 1000) =
      t.cutNanos.nanos := by
    rw [cutNanos_nanos]
    omega
  unfold ofDateTime
  dsimp only
  rw [t.isYear_date, hvalid, if_neg (by decide), hleap, hseconds, hnanos, hself]

theorem offset_utc : offset ['Z'] = .ok (0, []) := rfl

theorem month_day_date (t : Instant) :
    (1 ≤ t.date.month ∧ t.date.month ≤ 12) ∧ 1 ≤ t.date.day ∧ t.date.day ≤ 31 := by
  have hvalid : t.date.isValid = true := Date.isValid_ofDays _
  have hlen : Date.daysInMonth t.date.year t.date.month ≤ 31 := by
    unfold Date.daysInMonth
    split_ifs <;> omega
  simp only [Date.isValid, Bool.and_eq_true, decide_eq_true_eq] at hvalid
  omega

/-- The date, the time of day behind its mark, and the mark of the zone. -/
theorem text_eq (t : Instant) : t.text = t.date.text ++ 'T' :: (t.clockText ++ ['Z']) := by
  simp [text]

/-- An instant whose leap second, if it is in one, ends a minute is read from its text in whole
milliseconds. -/
theorem read_text_of_leapAtMinuteEnd {t : Instant} (h : t.LeapAtMinuteEnd) :
    read t.text = .ok t.cutNanos := by
  obtain ⟨hmonth, hday⟩ := t.month_day_date
  have hyear : -262143 ≤ t.date.year ∧ t.date.year ≤ 262142 := by
    have h := t.isYear_date
    unfold isYear at h
    rw [Bool.and_eq_true, decide_eq_true_eq, decide_eq_true_eq] at h
    exact h
  have hz : ∀ c r, ['Z'] = c :: r → c.isDigit = false := by
    intro c r h
    obtain ⟨rfl, -⟩ := List.cons_eq_cons.mp h
    rfl
  have hsep : separator ('T' :: (t.clockText ++ ['Z'])) = .ok (t.clockText ++ ['Z']) := rfl
  have hblank : trimStart ['Z'] = ['Z'] := trimStart_cons_of_not_isBlank (by decide) []
  unfold read
  rw [text_eq, readDate_text hyear hmonth hday, ok_bind]
  dsimp only
  rw [hsep, ok_bind, readClock_clockText t hz, ok_bind]
  dsimp only
  rw [hblank, offset_utc, ok_bind]
  exact ofDateTime_parts h

/-- **Instants read back**: the reader gives for a text the instant that it names, cut to
milliseconds. -/
theorem read_text (t : Instant) : read t.text = .ok t.readBack := by
  rw [← text_named]
  exact read_text_of_leapAtMinuteEnd t.leapAtMinuteEnd_named

theorem leapAtMinuteEnd_of_ofParts? {s : Int} {n : Nat} {t : Instant} (h : ofParts? s n = some t) :
    t.LeapAtMinuteEnd := by
  unfold ofParts? at h
  split at h
  · split at h
    · next hminute =>
      obtain rfl := Option.some.inj h
      exact hminute.imp_right And.right
    · cases h
  · cases h

/-- A text names instants whose leap seconds end a minute, and no others. -/
theorem leapAtMinuteEnd_of_read {s : List Char} {t : Instant} (h : read s = .ok t) :
    t.LeapAtMinuteEnd := by
  obtain ⟨⟨date, r⟩, -, h⟩ := bind_eq_ok.mp h
  obtain ⟨r, -, h⟩ := bind_eq_ok.mp h
  obtain ⟨⟨clock, r⟩, -, h⟩ := bind_eq_ok.mp h
  obtain ⟨⟨offset, r⟩, -, h⟩ := bind_eq_ok.mp h
  dsimp only at h
  split at h
  · unfold ofDateTime at h
    split at h
    · cases h
    · dsimp only at h
      split at h
      · next hparts =>
        obtain rfl := Except.ok.inj h
        exact leapAtMinuteEnd_of_ofParts? hparts
      · cases h
  · cases h

end UserDirectory.Instant

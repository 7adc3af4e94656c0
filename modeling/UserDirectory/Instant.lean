import UserDirectory.Calendar
import UserDirectory.Number

/-!
# Instant — points in time, to the nanosecond, and their text, to the millisecond

* `Instant`: seconds since 1 January 1970 and nanoseconds; from a thousand million nanoseconds on,
  a leap second.
* `Instant.truncate`: the instant cut to whole milliseconds.
* `Instant.text`: an instant as RFC 3339 text, `YYYY-MM-DDTHH:MM:SS.mmmZ`.  A year outside 0 to
  9999 has a sign and at least four digits; a leap second shows as the second before it with one
  more, so that at the end of a minute as second 60.
-/

namespace UserDirectory

/-! ## Points in time -/

/-- The first second of the year −262143. -/
def firstSecond : Int := -8334601228800

/-- The last second of the year 262142. -/
def lastSecond : Int := 8210266876799

/-- A point in time.  A leap second repeats the second before it, with its nanoseconds counted on;
clocks and texts have it at the end of a minute, but a point in time may have it anywhere. -/
structure Instant where
  seconds : Int
  nanos : Nat
  inRange : firstSecond ≤ seconds ∧ seconds ≤ lastSecond
  nanosBound : nanos < 2000000000
deriving DecidableEq, Repr

namespace Instant

/-- The instant with these seconds and nanoseconds, if there is one and its leap second, if it is
in one, ends a minute. -/
def ofParts? (seconds : Int) (nanos : Nat) : Option Instant :=
  if h : firstSecond ≤ seconds ∧ seconds ≤ lastSecond then
    if l : nanos < 1000000000 ∨ nanos < 2000000000 ∧ seconds % 60 = 59 then
      some ⟨seconds, nanos, h, by omega⟩
    else none
  else none

/-- The nanoseconds since 1 January 1970. -/
def nanoCount (t : Instant) : Int := t.seconds * 1000000000 + t.nanos

/-- The second that the nanoseconds are counted from: before 1970, the one behind. -/
def countedSecond (t : Instant) : Int := if t.seconds < 0 then t.seconds + 1 else t.seconds

/-- Whether the nanoseconds since 1 January 1970 can be counted in signed 64-bit integers: those of
whole seconds, and with them all. -/
def hasNanoCount (t : Instant) : Bool :=
  fitsSigned 64 (t.countedSecond * 1000000000) && fitsSigned 64 t.nanoCount

/-- The nanoseconds cut down to whole milliseconds. -/
def cutNanos (t : Instant) : Instant where
  seconds := t.seconds
  nanos := t.nanos - t.nanos % 1000000
  inRange := t.inRange
  nanosBound := by have := t.nanosBound; omega

/-- The latest whole millisecond that is not after the instant; an instant too far from 1970 for
a 64-bit count of nanoseconds stays as it is. -/
def truncate (t : Instant) : Instant := if t.hasNanoCount then t.cutNanos else t

end Instant

/-! ## Texts -/

open Text (twoDigits threeDigits fourDigits natDigits)

namespace Date

/-- The digits of a year without its sign, four at least. -/
def yearDigits (n : Nat) : List Char := if n < 10000 then fourDigits n else natDigits n

/-- The text of a year. -/
def yearText (year : Int) : List Char :=
  if 0 ≤ year ∧ year < 10000 then yearDigits year.toNat
  else (if year < 0 then '-' else '+') :: yearDigits year.natAbs

/-- The text of a date. -/
def text (d : Date) : List Char :=
  yearText d.year ++ '-' :: twoDigits d.month ++ '-' :: twoDigits d.day

end Date

namespace Instant

/-- The date of an instant. -/
def date (t : Instant) : Date := Date.ofDays (t.seconds / 86400)

/-- The second of the day. -/
def secondOfDay (t : Instant) : Nat := (t.seconds % 86400).toNat

/-- The text of the time of day. -/
def clockText (t : Instant) : List Char :=
  let s := t.secondOfDay
  twoDigits (s / 3600) ++ ':' :: twoDigits (s / 60 % 60)
    ++ ':' :: twoDigits (s % 60 + t.nanos / 1000000000)
    ++ '.' :: threeDigits (t.nanos / 1000000 % 1000)

/-- The text of an instant. -/
def text (t : Instant) : List Char := t.date.text ++ 'T' :: t.clockText ++ ['Z']

end Instant

end UserDirectory

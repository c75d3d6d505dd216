/-!
# Calendar time

Instants are counted in seconds since 1970-01-01 00:00:00 UTC. `CivilTime.ofUnix` turns such a
count into a date and time of day in UTC, on the Gregorian calendar extended to all years, by
counting days in eras of 400 years (146097 days each), so no loop is needed.

Calendar arithmetic counts seconds in 64 unsigned bits from 1 March of the year
-292277022400. An instant before that day (only the last few centuries of 64-bit seconds reach
it) wraps around and shows as the date 2^64 seconds later, near the year 292277026596.

`CivilTime.stamp` writes `YYYY-MM-DD HH:MM:SS` the way `strftime`-style formatting does: the year
is padded with zeros to four places, and a negative year is three zeros followed by the byte of
the year's low eight bits with the bits of `'0'` set, a replacement character whenever that byte
is not ASCII.

A `Timestamp` is an instant to the nanosecond together with the offset from UTC it is shown
in. The instant 0001-01-01 00:00:00 UTC (`Timestamp.zero`) stands for an unknown time.
-/

namespace StableWatch

/-- A date and time of day to the second. -/
structure CivilTime where
  year : Int
  month : Nat
  day : Nat
  hour : Nat
  minute : Nat
  second : Nat
  deriving DecidableEq, Repr

namespace CivilTime

/-- The seconds of a day. -/
def secondsPerDay : Int := 86400

/-- The instant 0001-01-01 00:00:00 UTC, in seconds since 1970-01-01 00:00:00 UTC. -/
def zeroInstant : Int := -62135596800

/-- The date of a day counted from 1970-01-01: year, month (1 to 12) and day of month. The count
is shifted to start on 0000-03-01, so that the leap day ends a year. -/
def dateOfDays (days : Int) : Int × Nat × Nat :=
  let shifted := days + 719468
  let era := shifted / 146097
  let dayOfEra := (shifted - era * 146097).toNat
  let yearOfEra := (dayOfEra - dayOfEra / 1460 + dayOfEra / 36524 - dayOfEra / 146096) / 365
  let dayOfYear := dayOfEra - (365 * yearOfEra + yearOfEra / 4 - yearOfEra / 100)
  let shiftedMonth := (5 * dayOfYear + 2) / 153
  let day := dayOfYear - (153 * shiftedMonth + 2) / 5 + 1
  let month := if shiftedMonth < 10 then shiftedMonth + 3 else shiftedMonth - 9
  let year := (yearOfEra : Int) + era * 400 + (if month ≤ 2 then 1 else 0)
  (year, month, day)

/-- The day, counted from 1970-01-01, of a date given by year, month (1 to 12) and day of month;
`dateOfDays` undoes it. -/
def daysOfDate (year : Int) (month day : Nat) : Int :=
  let shiftedYear := if month ≤ 2 then year - 1 else year
  let era := shiftedYear / 400
  let yearOfEra := (shiftedYear - era * 400).toNat
  let dayOfYear := (153 * ((month + 9) % 12) + 2) / 5 + day - 1
  let dayOfEra := yearOfEra * 365 + yearOfEra / 4 - yearOfEra / 100 + dayOfYear
  era * 146097 + dayOfEra - 719468

/-- Whether a year of the Gregorian calendar has a leap day. -/
def isLeapYear (year : Int) : Bool :=
  year % 4 = 0 && (year % 100 ≠ 0 || year % 400 = 0)

/-- The number of days of a month (1 to 12) in a year. -/
def daysInMonth (year : Int) (month : Nat) : Nat :=
  if month = 2 then (if isLeapYear year then 29 else 28)
  else if month = 4 || month = 6 || month = 9 || month = 11 then 30
  else 31

/-- Seconds from the first day calendar arithmetic counts from, 1 March -292277022400, to
1970-01-01. -/
def unixToAbsolute : Int := 9223372028741760000

/-- The instant calendar arithmetic sees: instants before its first day wrap around by 2^64
seconds. -/
def wrapped (seconds : Int) : Int :=
  if seconds + unixToAbsolute < 0 then seconds + Int.pow 2 64 else seconds

/-- The UTC date and time of an instant. -/
def ofUnix (seconds : Int) : CivilTime :=
  let seconds := wrapped seconds
  let (year, month, day) := dateOfDays (seconds / secondsPerDay)
  let ofDay := (seconds % secondsPerDay).toNat
  { year, month, day, hour := ofDay / 3600, minute := ofDay / 60 % 60, second := ofDay % 60 }

/-- A number with at least `width` digits, zeros in front. -/
def padded (width n : Nat) : String :=
  let digits := Nat.toDigits 10 n
  String.ofList (List.replicate (width - digits.length) '0' ++ digits)

/-- A year with at least four digits, a sign in front when it is negative. -/
def yearText (year : Int) : String :=
  (if year < 0 then "-" else "") ++ padded 4 year.natAbs

/-- The last place of a negative year as `strftime`-style formatting writes it: the low eight
bits of the year with the bits of `'0'` set, a replacement character when that is not an ASCII
byte. -/
def lastPlace (n : Int) : Char :=
  let b := (n % 256).toNat ||| 0x30
  if b < 0x80 then Char.ofNat b else '\uFFFD'

/-- A year as `strftime`-style formatting writes it: a year that is not negative with four
places at least, zeros in front; a negative year as three zeros and `lastPlace`. -/
def stampYear (year : Int) : String :=
  if year ≥ 0 then padded 4 year.toNat else "000" ++ String.singleton (lastPlace year)

/-- `YYYY-MM-DD HH:MM:SS`, the year as `stampYear` writes it. -/
def stamp (t : CivilTime) : String :=
  stampYear t.year ++ "-" ++ padded 2 t.month ++ "-" ++ padded 2 t.day ++ " " ++
    padded 2 t.hour ++ ":" ++ padded 2 t.minute ++ ":" ++ padded 2 t.second

end CivilTime

/-- An instant, in seconds since 1970-01-01 00:00:00 UTC and nanoseconds after them, shown at an
offset from UTC in seconds. -/
structure Timestamp where
  seconds : Int
  nanos : Nat := 0
  offset : Int := 0
  deriving DecidableEq, Repr

namespace Timestamp

/-- The instant that stands for an unknown time, shown in UTC. -/
def zero : Timestamp := { seconds := CivilTime.zeroInstant }

/-- Whether a timestamp is the unknown time, at whatever offset it is shown. -/
def isZero (t : Timestamp) : Bool :=
  t.seconds = CivilTime.zeroInstant && t.nanos = 0

/-- The date and time of day shown at the timestamp's offset. -/
def civil (t : Timestamp) : CivilTime :=
  CivilTime.ofUnix (t.seconds + t.offset)

end Timestamp

end StableWatch

import StableWatch.Time.Calendar
/-!
# RFC 3339 timestamps

`Timestamp.ofRfc3339?` reads the strict form `YYYY-MM-DDTHH:MM:SS`, an optional fraction of a
second (a point and digits, of which the first nine count), and `Z` or an offset `±hh:mm`. The
year lies in 0 to 9999, the day exists in its month, hours lie below 24, minutes and seconds
below 60, and so do the offset's hours and minutes. The timestamp keeps the offset it was
written with.

Text the strict form refuses is read again by the general layout reader for the same layout,
which is more lenient: the hour may have one digit, the fraction may follow a comma, and the
offset's hours may reach 24 and its minutes 60.

`Timestamp.jsonProblem?` tells why a timestamp has no strict RFC 3339 text: a year outside 0 to
9999, or an offset of 24 hours or more.

`Timestamp.rfc3339Nano` writes a timestamp at its offset in the same form, the fraction without
trailing zeros and left out when zero, and the offset as `Z` when it is zero.
-/

namespace StableWatch

namespace Timestamp

/-- The number written by decimal digits, when it lies in `lo` to `hi`. -/
def fixedNumber (lo hi : Nat) (cs : List Char) : Option Nat :=
  if cs.all Char.isDigit then
    let n := cs.foldl (fun acc c => acc * 10 + (c.toNat - '0'.toNat)) 0
    if lo ≤ n && n ≤ hi then some n else none
  else none

/-- The nanoseconds of a fraction's digits: the first nine, padded with zeros. -/
def fractionNanos (ds : List Char) : Nat :=
  let nine := ds.take 9
  nine.foldl (fun acc c => acc * 10 + (c.toNat - '0'.toNat)) 0 * Nat.pow 10 (9 - nine.length)

/-- The offset in seconds written as `Z` or `±hh:mm`. -/
def offsetOf : List Char → Option Int
  | ['Z'] => some 0
  | [sign, h1, h2, ':', m1, m2] => do
    let hours ← fixedNumber 0 23 [h1, h2]
    let minutes ← fixedNumber 0 59 [m1, m2]
    let magnitude : Int := (hours * 60 + minutes) * 60
    if sign = '+' then some magnitude else if sign = '-' then some (-magnitude) else none
  | _ => none

/-- Reads a strict RFC 3339 timestamp. -/
def ofStrict? (text : String) : Option Timestamp :=
  match text.toList with
  | y1 :: y2 :: y3 :: y4 :: '-' :: mo1 :: mo2 :: '-' :: d1 :: d2 :: 'T' ::
      h1 :: h2 :: ':' :: mi1 :: mi2 :: ':' :: s1 :: s2 :: rest => do
    let year ← fixedNumber 0 9999 [y1, y2, y3, y4]
    let month ← fixedNumber 1 12 [mo1, mo2]
    let day ← fixedNumber 1 (CivilTime.daysInMonth year month) [d1, d2]
    let hour ← fixedNumber 0 23 [h1, h2]
    let minute ← fixedNumber 0 59 [mi1, mi2]
    let second ← fixedNumber 0 59 [s1, s2]
    let (nanos, zone) := match rest with
      | '.' :: d :: more =>
        if d.isDigit then
          (fractionNanos (d :: more.takeWhile Char.isDigit), more.dropWhile Char.isDigit)
        else (0, rest)
      | _ => (0, rest)
    let offset ← offsetOf zone
    let wall := CivilTime.daysOfDate year month day * CivilTime.secondsPerDay +
      ((hour * 60 + minute) * 60 + second : Nat)
    pure { seconds := wall - offset, nanos, offset }
  | _ => none

/-- Two digits, as a number. -/
def twoDigits : List Char → Option Nat
  | [a, b] => if a.isDigit && b.isDigit then some ((a.toNat - 48) * 10 + (b.toNat - 48)) else none
  | _ => none

/-- A number of one or two digits at the start of a text, with the rest; `fixed` asks for two. -/
def leadingNumber (fixed : Bool) : List Char → Option (Nat × List Char)
  | a :: b :: rest =>
    if !a.isDigit then none
    else if b.isDigit then some ((a.toNat - 48) * 10 + (b.toNat - 48), rest)
    else if fixed then none
    else some (a.toNat - 48, b :: rest)
  | [a] => if a.isDigit && !fixed then some (a.toNat - 48, []) else none
  | [] => none

/-- Reads a literal character. -/
def literal (c : Char) : List Char → Option (List Char)
  | d :: rest => if c = d then some rest else none
  | [] => none

/-- The nanoseconds of a fraction after its separator, and the rest of the text, when a
separator (a point or a comma) and a digit follow. -/
def fractionAfter : List Char → Nat × List Char
  | sep :: d :: more =>
    if (sep = '.' || sep = ',') && d.isDigit then
      (fractionNanos (d :: more.takeWhile Char.isDigit), more.dropWhile Char.isDigit)
    else (0, sep :: d :: more)
  | rest => (0, rest)

/-- The offset written as `Z` or `±hh:mm`, its hours at most 24 and its minutes at most 60. -/
def looseOffset : List Char → Option Int
  | ['Z'] => some 0
  | [sign, h1, h2, ':', m1, m2] => do
    let hours ← twoDigits [h1, h2]
    let minutes ← twoDigits [m1, m2]
    if hours > 24 || minutes > 60 then none
    let magnitude : Int := (hours * 60 + minutes) * 60
    if sign = '+' then some magnitude else if sign = '-' then some (-magnitude) else none
  | _ => none

/-- Reads a timestamp by the general layout reader: a four-digit year, a two-digit month and
day, an hour of one or two digits, two-digit minutes and seconds, an optional fraction after a
point or a comma, and `Z` or an offset. -/
def ofLayout? (text : String) : Option Timestamp := do
  let cs := text.toList
  let yearDigits := cs.take 4
  if yearDigits.length < 4 || !yearDigits.all Char.isDigit then none
  let year : Nat := yearDigits.foldl (fun acc c => acc * 10 + (c.toNat - 48)) 0
  let rest ← literal '-' (cs.drop 4)
  let (month, rest) ← leadingNumber true rest
  if month < 1 || month > 12 then none
  let rest ← literal '-' rest
  let (day, rest) ← leadingNumber true rest
  let rest ← literal 'T' rest
  let (hour, rest) ← leadingNumber false rest
  if hour > 23 then none
  let rest ← literal ':' rest
  let (minute, rest) ← leadingNumber true rest
  if minute > 59 then none
  let rest ← literal ':' rest
  let (second, rest) ← leadingNumber true rest
  if second > 59 then none
  let (nanos, zone) := fractionAfter rest
  let offset ← looseOffset zone
  if day < 1 || day > CivilTime.daysInMonth year month then none
  let wall := CivilTime.daysOfDate year month day * CivilTime.secondsPerDay +
    ((hour * 60 + minute) * 60 + second : Nat)
  pure { seconds := wall - offset, nanos, offset }

/-- Reads an RFC 3339 timestamp: the strict form, or else what the general layout reader takes. -/
def ofRfc3339? (text : String) : Option Timestamp :=
  (ofStrict? text).orElse fun _ => ofLayout? text

/-- The digits of a fraction of a second in nanoseconds, without trailing zeros. -/
def fractionText (nanos : Nat) : String :=
  if nanos = 0 then ""
  else
    let digits := CivilTime.padded 9 nanos
    "." ++ String.ofList (digits.toList.reverse.dropWhile (· = '0')).reverse

/-- An offset from UTC as `Z` or `±hh:mm`. -/
def offsetText (offset : Int) : String :=
  if offset = 0 then "Z"
  else
    let minutes := offset.natAbs / 60
    (if offset < 0 then "-" else "+") ++ CivilTime.padded 2 (minutes / 60) ++ ":" ++
      CivilTime.padded 2 (minutes % 60)

/-- A timestamp in RFC 3339 form at its offset, with nanoseconds when it has them. -/
def rfc3339Nano (t : Timestamp) : String :=
  let c := t.civil
  CivilTime.yearText c.year ++ "-" ++ CivilTime.padded 2 c.month ++ "-" ++
    CivilTime.padded 2 c.day ++ "T" ++ CivilTime.padded 2 c.hour ++ ":" ++
    CivilTime.padded 2 c.minute ++ ":" ++ CivilTime.padded 2 c.second ++ fractionText t.nanos ++
    offsetText t.offset

/-- Why a timestamp has no strict RFC 3339 text, if it has none: its year at its offset lies
outside 0 to 9999, or its offset is 24 hours or more. -/
def jsonProblem? (t : Timestamp) : Option String :=
  let year := t.civil.year
  if year < 0 || year > 9999 then some "year outside of range [0,9999]"
  else if t.offset.natAbs / 3600 ≥ 24 then some "timezone hour outside of range [0,23]"
  else none

end Timestamp

end StableWatch

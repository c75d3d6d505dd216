import StableWatch.Text.Quoted
/-!
# Durations

A duration is a signed count of nanoseconds that fits in 64 bits.

* `Duration.text` writes it with units: `0s` for zero; below a second in one unit of `ns`, `µs`
  or `ms` with a fraction; from a second on as hours, minutes and seconds (`1h2m3.5s`), where
  hours and minutes appear only once the duration reaches them. Fractions drop trailing zeros.
* `Duration.round` rounds to a multiple of a positive step, halves away from zero, and stays at
  the largest or smallest duration when the rounded value would not fit.
* `Duration.parse` reads a sequence of decimal numbers, each followed by a unit (`ns`, `us`, `µs`,
  `μs`, `ms`, `s`, `m`, `h`), with an optional sign in front; a lone `0` needs no unit. The whole
  part of each number is exact; its fraction is scaled to the unit in binary floating point and
  truncated to nanoseconds. Every loop consumes the text, so each is bounded by its length.
-/

namespace StableWatch

/-- A signed count of nanoseconds. -/
structure Duration where
  ns : Int
  deriving DecidableEq, Repr

namespace Duration

/-- Nanoseconds in a microsecond, a millisecond, a second, a minute and an hour. -/
def microsecond : Nat := 1000
def millisecond : Nat := 1000000
def second : Nat := 1000000000
def minute : Nat := 60 * second
def hour : Nat := 60 * minute

/-- The largest duration, in nanoseconds. -/
def maxNs : Int := Int.pow 2 63 - 1

/-- The smallest duration, in nanoseconds. -/
def minNs : Int := -Int.pow 2 63

/-- The duration of a number of milliseconds. -/
def ofMillis (ms : Int) : Duration := ⟨ms * millisecond⟩

/-- `v / 10 ^ prec` in decimal: the whole part, then a point and the fraction's digits without
trailing zeros, or no point when the fraction is zero. -/
def withFraction (v prec : Nat) : String :=
  let digits := (Nat.toDigits 10 (v % Nat.pow 10 prec))
  let padded := List.replicate (prec - digits.length) '0' ++ digits
  let trimmed := (padded.reverse.dropWhile (· = '0')).reverse
  toString (v / Nat.pow 10 prec) ++ (if trimmed.isEmpty then "" else "." ++ String.ofList trimmed)

/-- The text of a duration of `u` nanoseconds, without sign. -/
def magnitudeText (u : Nat) : String :=
  if u = 0 then "0s"
  else if u < microsecond then toString u ++ "ns"
  else if u < millisecond then withFraction u 3 ++ "µs"
  else if u < second then withFraction u 6 ++ "ms"
  else
    let seconds := withFraction (u % minute) 9 ++ "s"
    let minutes := u / minute
    if minutes = 0 then seconds
    else
      let withMinutes := toString (minutes % 60) ++ "m" ++ seconds
      if minutes / 60 = 0 then withMinutes else toString (minutes / 60) ++ "h" ++ withMinutes

/-- The text of a duration. -/
def text (d : Duration) : String :=
  (if d.ns < 0 then "-" else "") ++ magnitudeText d.ns.natAbs

/-- Rounds to the nearest multiple of `step`, halves away from zero; a step that is not positive
leaves the duration as it is. -/
def round (d step : Duration) : Duration :=
  if step.ns ≤ 0 then d
  else
    let r := (d.ns.tmod step.ns).natAbs
    if 2 * r < step.ns then
      if d.ns < 0 then ⟨d.ns + r⟩ else ⟨d.ns - r⟩
    else if d.ns < 0 then
      ⟨max (d.ns - step.ns + r) minNs⟩
    else
      ⟨min (d.ns + step.ns - r) maxNs⟩

/-- Why a text is not a duration. -/
inductive ParseError where
  | invalid (text : String)
  | missingUnit (text : String)
  | unknownUnit (unit text : String)
  deriving DecidableEq, Repr

/-- The message names the text, and the unit, quoted in plain ASCII. -/
def ParseError.message : ParseError → String
  | .invalid text => "time: invalid duration " ++ Text.quoteAscii text
  | .missingUnit text => "time: missing unit in duration " ++ Text.quoteAscii text
  | .unknownUnit unit text =>
    "time: unknown unit " ++ Text.quoteAscii unit ++ " in duration " ++ Text.quoteAscii text

/-- The nanoseconds of a unit. -/
def unitNs : String → Option Nat
  | "ns" => some 1
  | "us" => some microsecond
  | "µs" => some microsecond
  | "μs" => some microsecond
  | "ms" => some millisecond
  | "s" => some second
  | "m" => some minute
  | "h" => some hour
  | _ => none

/-- The value of a decimal digit. -/
def digitValue (c : Char) : Nat := c.toNat - '0'.toNat

/-- The number of nanoseconds a duration may reach in magnitude. -/
def limit : Nat := Nat.pow 2 63

/-- The leading digits as a number, with the rest; none when the number passes `limit`. -/
def leadingInt (acc : Nat) : List Char → Option (Nat × List Char)
  | [] => some (acc, [])
  | c :: rest =>
    if c.isDigit then
      if acc > limit / 10 then none
      else
        let acc := acc * 10 + digitValue c
        if acc > limit then none else leadingInt acc rest
    else some (acc, c :: rest)

/-- The leading digits of a fraction: the number read and how many digits went into it (reading
stops taking digits once the number would pass `limit`), with the rest after all digits. -/
def leadingFraction (acc places : Nat) (full : Bool) : List Char → Nat × Nat × List Char
  | [] => (acc, places, [])
  | c :: rest =>
    if c.isDigit then
      if full then leadingFraction acc places true rest
      else if acc > (limit - 1) / 10 then leadingFraction acc places true rest
      else
        let next := acc * 10 + digitValue c
        if next > limit then leadingFraction acc places true rest
        else leadingFraction next (places + 1) false rest
    else (acc, places, c :: rest)

/-- The nanoseconds of a fraction `f / 10 ^ places` of a unit, computed in binary floating point
and truncated. -/
def fractionNs (f places unit : Nat) : Nat :=
  (Float.ofNat f * (Float.ofNat unit / Float.ofNat (Nat.pow 10 places))).toUInt64.toNat

/-- Reads the terms of a duration after its sign, adding their nanoseconds to `total`; at most
`fuel` terms are read. -/
def parseTerms (text : String) : Nat → Nat → List Char → Except ParseError Nat
  | _, total, [] => .ok total
  | 0, _, _ => .error (.invalid text)
  | fuel + 1, total, c :: rest =>
    if !(c = '.' || c.isDigit) then .error (.invalid text)
    else
      match leadingInt 0 (c :: rest) with
      | none => .error (.invalid text)
      | some (whole, afterWhole) =>
        let before := decide (afterWhole.length < (c :: rest).length)
        let (f, places, afterNumber, after) := match afterWhole with
          | '.' :: digits =>
            let (f, places, tail) := leadingFraction 0 0 false digits
            (f, places, tail, decide (tail.length < digits.length))
          | other => (0, 0, other, false)
        if !before && !after then .error (.invalid text)
        else
          let unitChars := afterNumber.takeWhile fun c => !(c = '.' || c.isDigit)
          let remaining := afterNumber.dropWhile fun c => !(c = '.' || c.isDigit)
          if unitChars.isEmpty then .error (.missingUnit text)
          else
            match unitNs (String.ofList unitChars) with
            | none => .error (.unknownUnit (String.ofList unitChars) text)
            | some unit =>
              if whole > limit / unit then .error (.invalid text)
              else
                let v := whole * unit + (if f > 0 then fractionNs f places unit else 0)
                if v > limit then .error (.invalid text)
                else if total + v > limit then .error (.invalid text)
                else parseTerms text fuel (total + v) remaining

/-- Reads a duration. -/
def parse (text : String) : Except ParseError Duration :=
  let (negative, body) := match text.toList with
    | '-' :: rest => (true, rest)
    | '+' :: rest => (false, rest)
    | other => (false, other)
  if body = ['0'] then .ok ⟨0⟩
  else if body.isEmpty then .error (.invalid text)
  else
    match parseTerms text body.length 0 body with
    | .error e => .error e
    | .ok total =>
      if negative then .ok ⟨-(total : Int)⟩
      else if total > limit - 1 then .error (.invalid text)
      else .ok ⟨total⟩

end Duration

end StableWatch

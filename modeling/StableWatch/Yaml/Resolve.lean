/-!
# What plain YAML scalars stand for

A scalar written without quotes and without a tag stands for a value of the core schema, read
off its text:

* `~`, `null`, `Null`, `NULL` and the empty text are null;
* `true`, `True`, `TRUE`, `false`, `False`, `FALSE` are booleans;
* `.inf`, `.nan` and their spellings are floats, and so is any text starting with `.` that reads
  as a decimal number, with underscores between digits;
* a text starting with a digit or a sign is, in this order, a timestamp (`YYYY-M-D` with an
  optional time), an integer (underscores dropped; prefixes `0b`, `0o`, `0x`, or `0` for octal;
  signed 64 bits, or unsigned 64 bits), or a float (decimal, with an exponent, not overflowing);
* anything else is a string, and so is every text whose first character is none of a digit, a
  sign, a point or one of `yYnNtTfFoO~`.

A plain `<<` is a merge key; that is decided where scalars are read, not here.

An explicit tag of the core schema must agree with what the text stands for, except that an
integer may be tagged a float; otherwise the scalar cannot be decoded. Tags are kept in their
short form `!!name`.
-/

namespace StableWatch.Yaml

/-- The kind of value a scalar stands for. -/
inductive Value where
  | null
  | bool
  | int
  | float
  | timestamp
  | str
  | merge
  /-- A tag outside the core schema: the text stands for itself. -/
  | other
  deriving DecidableEq, Repr

/-- The prefix of the core schema's tags. -/
def coreTagPrefix : String := "tag:yaml.org,2002:"

/-- A tag's short form: the core schema's prefix becomes `!!`. -/
def shortTag (tag : String) : String :=
  if coreTagPrefix.isPrefixOf tag then "!!" ++ String.ofList (tag.toList.drop coreTagPrefix.length)
  else tag

/-- The short tag of a kind of value. -/
def Value.tag : Value → String
  | .null => "!!null"
  | .bool => "!!bool"
  | .int => "!!int"
  | .float => "!!float"
  | .timestamp => "!!timestamp"
  | .str => "!!str"
  | .merge => "!!merge"
  | .other => ""

/-- The tags whose scalars are read off their text. -/
def resolvableTags : List String :=
  ["", "!!str", "!!bool", "!!int", "!!float", "!!null", "!!timestamp"]

/-- The texts that stand for a fixed value. -/
def fixedValue : String → Option Value
  | "true" | "True" | "TRUE" | "false" | "False" | "FALSE" => some .bool
  | "" | "~" | "null" | "Null" | "NULL" => some .null
  | ".nan" | ".NaN" | ".NAN" | ".inf" | ".Inf" | ".INF" => some .float
  | "+.inf" | "+.Inf" | "+.INF" | "-.inf" | "-.Inf" | "-.INF" => some .float
  | _ => none

/-- The value of a digit in a base, if it is one. -/
def digitIn (base : Nat) (c : Char) : Option Nat :=
  let v :=
    if '0' ≤ c && c ≤ '9' then c.toNat - '0'.toNat
    else if 'a' ≤ c && c ≤ 'z' then c.toNat - 'a'.toNat + 10
    else if 'A' ≤ c && c ≤ 'Z' then c.toNat - 'A'.toNat + 10
    else 99
  if v < base then some v else none

/-- The number written by digits in a base; none for no digits or a character that is not one. -/
def digitsValue (base : Nat) (digits : List Char) : Option Nat :=
  if digits.isEmpty then none
  else digits.foldl (fun acc c => acc.bind fun n => (digitIn base c).map (n * base + ·)) (some 0)

/-- An unsigned number with an optional base prefix (`0b`, `0o`, `0x`, or a leading `0` for
octal), below `2 ^ 64`. -/
def unsignedValue (text : List Char) : Option Nat :=
  let (base, digits) := match text with
    | '0' :: p :: rest@(_ :: _) =>
      if p = 'b' || p = 'B' then (2, rest)
      else if p = 'o' || p = 'O' then (8, rest)
      else if p = 'x' || p = 'X' then (16, rest)
      else (8, p :: rest)
    | ['0', p] => (8, [p])
    | ['0'] => (8, ['0'])
    | other => (10, other)
  (digitsValue base digits).filter (· < Nat.pow 2 64)

/-- A signed number with an optional base prefix, in signed 64 bits. -/
def signedValue (text : List Char) : Option Int :=
  let (negative, rest) := match text with
    | '+' :: rest => (false, rest)
    | '-' :: rest => (true, rest)
    | other => (false, other)
  (unsignedValue rest).bind fun n =>
    if negative then (if n ≤ Nat.pow 2 63 then some (-(n : Int)) else none)
    else if n < Nat.pow 2 63 then some n else none

/-- Splits off the leading decimal digits. -/
def spanDigits (text : List Char) : List Char × List Char :=
  (text.takeWhile Char.isDigit, text.dropWhile Char.isDigit)

/-- A decimal float: an optional sign, digits with an optional fraction or a point and digits,
and an optional exponent. Gives the digits of the mantissa and the power of ten. -/
def decimalParts (text : List Char) : Option (List Char × Int) :=
  let body := match text with
    | '+' :: rest => rest
    | '-' :: rest => rest
    | other => other
  let (whole, afterWhole) := spanDigits body
  let parts : Option (List Char × List Char × List Char) :=
    match afterWhole with
    | '.' :: rest =>
      let (fraction, afterFraction) := spanDigits rest
      if whole.isEmpty && fraction.isEmpty then none else some (whole, fraction, afterFraction)
    | rest => if whole.isEmpty then none else some (whole, [], rest)
  parts.bind fun (whole, fraction, rest) =>
    let exponent : Option Int := match rest with
      | [] => some 0
      | e :: more =>
        if e = 'e' || e = 'E' then
          let (negative, digits) := match more with
            | '+' :: ds => (false, ds)
            | '-' :: ds => (true, ds)
            | ds => (false, ds)
          if digits.isEmpty || !digits.all Char.isDigit then none
          else
            let n := (digitsValue 10 digits).getD 0
            some (if negative then -(n : Int) else n)
        else none
    exponent.map fun e => (whole ++ fraction, e - fraction.length)

/-- Whether `digits * 10 ^ exponent` is too large for a binary64 number, which holds from
`2 ^ 1024 - 2 ^ 970` on. -/
def overflows (digits : List Char) (exponent : Int) : Bool :=
  let mantissa := (digitsValue 10 digits).getD 0
  let significant := (Nat.toDigits 10 mantissa).length
  if mantissa = 0 then false
  else if (significant : Int) + exponent ≤ 308 then false
  else if (significant : Int) - 1 + exponent ≥ 309 then true
  else
    let limit := Nat.pow 2 1024 - Nat.pow 2 970
    if exponent ≥ 0 then mantissa * Nat.pow 10 exponent.toNat ≥ limit
    else mantissa ≥ limit * Nat.pow 10 exponent.natAbs

/-- A decimal float that does not overflow. -/
def isFloatText (text : List Char) : Bool :=
  match decimalParts text with
  | some (digits, exponent) => !overflows digits exponent
  | none => false

/-- Whether the underscores of a number stand only between digits, or between a base prefix and
a digit. -/
def underscoresFit (text : List Char) : Bool :=
  let body := match text with
    | '+' :: rest => rest
    | '-' :: rest => rest
    | other => other
  let (hex, body, seen) := match body with
    | '0' :: p :: rest =>
      if p = 'x' || p = 'X' then (true, rest, '0')
      else if p = 'b' || p = 'B' || p = 'o' || p = 'O' then (false, rest, '0')
      else (false, body, '^')
    | _ => (false, body, '^')
  let step : Option Char → Char → Option Char := fun seen c =>
    seen.bind fun s =>
      if c.isDigit || (hex && ((c.toLower ≥ 'a') && (c.toLower ≤ 'f'))) then some '0'
      else if c = '_' then (if s = '0' then some '_' else none)
      else if s = '_' then none
      else some '!'
  match body.foldl step (some seen) with
  | some s => s ≠ '_'
  | none => false

/-- A float written from its point on (`.5`, `.5e3`), underscores allowed between digits, that
does not overflow. -/
def isPointFloat (text : List Char) : Bool :=
  underscoresFit text && isFloatText (text.filter (· ≠ '_'))

/-- The days of a month. -/
def daysIn (year month : Nat) : Nat :=
  if month = 2 then
    if year % 4 = 0 && (year % 100 ≠ 0 || year % 400 = 0) then 29 else 28
  else if month = 4 || month = 6 || month = 9 || month = 11 then 30
  else 31

/-- One or two leading digits as a number, with the rest. -/
def number12 (text : List Char) : Option (Nat × List Char) :=
  match text with
  | a :: b :: rest =>
    if a.isDigit && b.isDigit then some ((a.toNat - 48) * 10 + (b.toNat - 48), rest)
    else if a.isDigit then some (a.toNat - 48, b :: rest)
    else none
  | [a] => if a.isDigit then some (a.toNat - 48, []) else none
  | [] => none

/-- Whether the text is a time zone: `Z` or `+hh:mm`, `-hh:mm`. -/
def isZone (text : List Char) : Bool :=
  match text with
  | ['Z'] => true
  | [s, h1, h2, ':', m1, m2] =>
    (s = '+' || s = '-') && [h1, h2, m1, m2].all Char.isDigit &&
      (h1.toNat - 48) * 10 + (h2.toNat - 48) ≤ 24 && (m1.toNat - 48) * 10 + (m2.toNat - 48) ≤ 60
  | _ => false

/-- Skips an optional fraction of a second: a point or comma and digits. -/
def skipFraction (text : List Char) : List Char :=
  match text with
  | p :: d :: rest => if (p = '.' || p = ',') && d.isDigit then rest.dropWhile Char.isDigit else text
  | _ => text

/-- Whether a time of day `H:M:S` with an optional fraction is followed by `tail` as `zone`
requires: a zone, or nothing. -/
def isClock (zone : Bool) (text : List Char) : Bool :=
  match number12 text with
  | some (hour, ':' :: rest) =>
    match number12 rest with
    | some (minute, ':' :: rest) =>
      match number12 rest with
      | some (second, rest) =>
        let rest := skipFraction rest
        hour < 24 && minute < 60 && second < 60 && (if zone then isZone rest else rest.isEmpty)
      | none => false
    | _ => false
  | _ => false

/-- A timestamp: `YYYY-M-D`, alone, or with `T` or `t` and a time with a zone, or with spaces
and a time without a zone; the day must exist. -/
def isTimestamp (text : List Char) : Bool :=
  match text with
  | y1 :: y2 :: y3 :: y4 :: '-' :: rest =>
    if not ([y1, y2, y3, y4].all Char.isDigit) then false
    else
      let year := (digitsValue 10 [y1, y2, y3, y4]).getD 0
      match number12 rest with
      | some (month, '-' :: rest) =>
        match number12 rest with
        | some (day, rest) =>
          let dateOk := 1 ≤ month && month ≤ 12 && 1 ≤ day && day ≤ daysIn year month
          dateOk && match rest with
            | [] => true
            | 'T' :: clock => isClock true clock
            | 't' :: clock => isClock true clock
            | ' ' :: clock =>
              let clock := clock.dropWhile (· = ' ')
              isClock false clock
            | _ => false
        | none => false
      | _ => false
  | _ => false

/-- Whether a first character hints that the text may stand for something other than a
string. -/
def hinted (c : Char) : Bool :=
  c.isDigit || c = '+' || c = '-' || c = '.' || "yYnNtTfFoO~".toList.contains c

/-- What a text stands for; `timestamps` allows it to be a timestamp. -/
def valueOf (timestamps : Bool) (text : String) : Value :=
  match text.toList with
  | [] => .null
  | c :: _ =>
    if !hinted c then .str
    else
      match fixedValue text with
      | some v => v
      | none =>
        if c = '.' then (if isPointFloat text.toList then .float else .str)
        else if c.isDigit || c = '+' || c = '-' then
          let plain := text.toList.filter (· ≠ '_')
          if timestamps && isTimestamp text.toList then .timestamp
          else if (signedValue plain).isSome || (unsignedValue plain).isSome then .int
          else if isFloatText plain then .float
          else .str
        else .str

/-- What a plain scalar's text stands for, with no tag. -/
def plainValue (text : String) : Value :=
  valueOf true text

/-- The tag a plain scalar gets when it has none. -/
def plainTag (text : String) : String :=
  (plainValue text).tag

/-- What a scalar with short tag `tag` and this text stands for, and the tag it resolves to; an
error when the tag of the core schema disagrees with the text. A signed integer may be read as a
float. -/
def resolve (tag text : String) : Except String (String × Value) :=
  if !resolvableTags.contains tag then .ok (tag, .other)
  else
    let found : Value :=
      if tag = "!!str" then .str else valueOf (tag = "" || tag = "!!timestamp") text
    if tag = "" || tag = found.tag || tag = "!!str" then .ok (found.tag, found)
    else if tag = "!!float" && found = .int &&
        (signedValue (text.toList.filter (· ≠ '_'))).isSome then .ok ("!!float", .float)
    else .error ("cannot decode " ++ found.tag ++ " `" ++ text ++ "` as a " ++ tag)

end StableWatch.Yaml

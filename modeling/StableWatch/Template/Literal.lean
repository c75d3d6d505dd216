import StableWatch.Template.Syntax
/-!
# Literals in templates

The values of the constants an action may write:

* **Quoted strings** take the escapes `\a \b \f \n \r \t \v \\ \"`, `\x` with two hex digits,
  `\u` with four and `\U` with eight (a valid code point), and three octal digits up to 255;
  anything else is `invalid syntax`. Raw strings between backquotes stand for their text without
  carriage returns.
* **Character constants** hold exactly one character or escape (`\'` instead of `\"`); a longer
  one is a `malformed character constant`.
* **Numbers** are integers when they read as one: an optional sign, then `0x`, `0o`, `0b` or a
  leading `0` for octal, digits, and underscores between digits or after a prefix. One that
  reads as an unsigned 64-bit integer but not a signed one is kept as such. Otherwise a number
  is a decimal (digits with a point and an exponent) or a hexadecimal one with a binary
  exponent; without `.`, `e`, `E`, `p` or `P` in it such a number is an `integer overflow`. A
  number ending in `i` is imaginary. Anything else is `illegal number syntax`.
* **Complex pairs** `a±bi` are cut into their two parts by `floatToken`; a pair that is not cut
  at its sign and its `i` is a `syntax error scanning complex number`, and a part that is no
  double is refused with its own text, sign included, and the reason (`invalid syntax` or
  `value out of range`).
-/

namespace StableWatch.Template

/-- A hex digit's value. -/
def hexValue (c : Char) : Option Nat :=
  if c.isDigit then some (c.toNat - '0'.toNat)
  else if 'a' ≤ c ∧ c ≤ 'f' then some (c.toNat - 'a'.toNat + 10)
  else if 'A' ≤ c ∧ c ≤ 'F' then some (c.toNat - 'A'.toNat + 10)
  else none

/-- The value of a list of hex digits. -/
def hexNumber (cs : List Char) : Option Nat :=
  cs.foldl (fun acc c => do let a ← acc; let d ← hexValue c; pure (a * 16 + d)) (some 0)

/-- Whether a number is a code point that a character may hold. -/
def validCodePoint (n : Nat) : Bool :=
  n < 0x110000 && !(0xD800 ≤ n && n < 0xE000)

/-- Reads one character or escape of quoted text closed by `quote`; gives the character, whether
it stands for a single byte (a `\x` or octal escape), and the rest. -/
def unquoteChar (quote : Char) : List Char → Option (Char × Bool × List Char)
  | [] => none
  | '\\' :: c :: rest =>
    let simple : Option Char :=
      match c with
      | 'a' => some '\x07' | 'b' => some '\x08' | 'f' => some '\x0c' | 'n' => some '\n'
      | 'r' => some '\r' | 't' => some '\t' | 'v' => some '\x0b' | '\\' => some '\\'
      | _ => none
    match simple with
    | some v => some (v, false, rest)
    | none =>
      if c = '\'' ∨ c = '"' then if c = quote then some (c, false, rest) else none
      else
        let width := if c = 'x' then 2 else if c = 'u' then 4 else if c = 'U' then 8 else 0
        if width > 0 then
          if rest.length < width then none
          else
            match hexNumber (rest.take width) with
            | some v =>
              if c = 'x' ∨ validCodePoint v then some (Char.ofNat v, c = 'x', rest.drop width)
              else none
            | none => none
        else if '0' ≤ c ∧ c ≤ '7' then
          match rest with
          | d1 :: d2 :: more =>
            if '0' ≤ d1 ∧ d1 ≤ '7' ∧ '0' ≤ d2 ∧ d2 ≤ '7' then
              let v := (c.toNat - 48) * 64 + (d1.toNat - 48) * 8 + (d2.toNat - 48)
              if v > 255 then none else some (Char.ofNat v, true, more)
            else none
          | _ => none
        else none
  | ['\\'] => none
  | c :: rest => if c = quote then none else some (c, false, rest)

/-- Reads the bytes of quoted text up to its end, within `fuel` characters: a character in UTF-8,
a byte escape as its byte. -/
def unquoteBody (quote : Char) : Nat → List Char → Option (List UInt8)
  | _, [] => some []
  | 0, _ => none
  | fuel + 1, cs =>
    if cs.head? = some '\n' then none
    else do
      let (c, single, rest) ← unquoteChar quote cs
      let more ← unquoteBody quote fuel rest
      let bytes := if single then [c.toNat.toUInt8] else c.toString.toUTF8.toList
      pure (bytes ++ more)

/-- The bytes a quoted or raw string token stands for, or `invalid syntax`. -/
def unquote (token : String) : Except String (List UInt8) :=
  match token.toList with
  | '\x60' :: rest => .ok (String.ofList ((rest.dropLast).filter (· ≠ '\r'))).toUTF8.toList
  | '"' :: rest =>
    match unquoteBody '"' rest.length rest.dropLast with
    | some bytes => .ok bytes
    | none => .error "invalid syntax"
  | _ => .error "invalid syntax"

/-- Whether the underscores of a number stand only between digits, or between a base prefix and
a digit. -/
def underscoresFit (cs : List Char) : Bool :=
  let cs := match cs with
    | '+' :: rest | '-' :: rest => rest
    | _ => cs
  let (hex, start, body) := match cs with
    | '0' :: p :: rest =>
      if p.toLower = 'x' then (true, '0', rest)
      else if p.toLower = 'b' ∨ p.toLower = 'o' then (false, '0', rest)
      else (false, '^', cs)
    | _ => (false, '^', cs)
  let last := body.foldl (fun (saw : Option Char) c =>
    match saw with
    | none => none
    | some s =>
      if c.isDigit ∨ (hex ∧ 'a' ≤ c.toLower ∧ c.toLower ≤ 'f') then some '0'
      else if c = '_' then (if s = '0' then some '_' else none)
      else if s = '_' then none
      else some '!') (some start)
  match last with
  | some s => s ≠ '_'
  | none => false

/-- Reads an unsigned integer with its base given by its prefix; digits must be below the base and
the value below 2^64. -/
def readUnsigned (cs : List Char) : Option Nat :=
  let (base, digits) := match cs with
    | '0' :: p :: rest@(_ :: _) =>
      if p.toLower = 'b' then (2, rest)
      else if p.toLower = 'o' then (8, rest)
      else if p.toLower = 'x' then (16, rest)
      else (8, p :: rest)
    | '0' :: rest => (8, rest)
    | _ => (10, cs)
  let value := digits.foldl (fun (acc : Option Nat) c =>
    if c = '_' then acc
    else do
      let a ← acc
      let d ← if c.isDigit then some (c.toNat - 48)
        else if c.isAlpha then some (c.toLower.toNat - 'a'.toNat + 10) else none
      if d < base then pure (a * base + d) else none) (some 0)
  if cs.isEmpty then none
  else if cs.contains '_' ∧ !underscoresFit cs then none
  else value.filter (· < Nat.pow 2 64)

/-- Reads a signed 64-bit integer. -/
def readSigned (cs : List Char) : Option Int :=
  match cs with
  | '-' :: rest =>
    (readUnsigned rest).bind fun n => if n ≤ Nat.pow 2 63 then some (-(n : Int)) else none
  | '+' :: rest => (readUnsigned rest).bind fun n => if n < Nat.pow 2 63 then some n else none
  | _ => (readUnsigned cs).bind fun n => if n < Nat.pow 2 63 then some n else none

/-- The value of decimal digits with underscores left out. -/
def decimalDigits (cs : List Char) : Nat :=
  cs.foldl (fun acc c => if c = '_' then acc else acc * 10 + (c.toNat - 48)) 0

/-- Reads an exponent: an optional sign and decimal digits (at least one). -/
def readExponent (cs : List Char) : Option Int :=
  let (negative, digits) := match cs with
    | '-' :: rest => (true, rest)
    | '+' :: rest => (false, rest)
    | _ => (false, cs)
  if digits.isEmpty ∨ !digits.all (fun c => c.isDigit ∨ c = '_') ∨ !digits.any Char.isDigit then
    none
  else
    let n := (decimalDigits digits : Int)
    some (if negative then -n else n)

/-- Why a text is refused as a double: it is no number, or its value lies past the largest
double. -/
inductive FloatFault where
  | malformed
  | outOfRange
  deriving DecidableEq, Repr

/-- The words for a refused double. -/
def FloatFault.message : FloatFault → String
  | .malformed => "invalid syntax"
  | .outOfRange => "value out of range"

/-- A double whose value is finite; past the largest one it is out of range. -/
def finiteValue (x : Binary64) : Except FloatFault Binary64 :=
  if x.isFinite then .ok x else .error .outOfRange

/-- A reading that may fail as malformed. -/
def orMalformed {α : Type} : Option α → Except FloatFault α
  | some a => .ok a
  | none => .error .malformed

/-- Reads a decimal or hexadecimal floating-point number as the nearest double. A decimal one
needs a digit; a hexadecimal one needs a digit and a binary exponent. A value past the largest
double is out of range. -/
def parseFloat (cs : List Char) : Except FloatFault Binary64 :=
  let (negative, body) := match cs with
    | '-' :: rest => (true, rest)
    | '+' :: rest => (false, rest)
    | _ => (false, cs)
  if cs.contains '_' ∧ !underscoresFit cs then .error .malformed
  else
    match body with
    | '0' :: x :: rest =>
      if x.toLower = 'x' then
        let mant := rest.takeWhile fun c => (hexValue c).isSome ∨ c = '.' ∨ c = '_'
        let after := rest.drop mant.length
        let whole := mant.takeWhile (· ≠ '.')
        let frac := (mant.drop (whole.length + 1)).filter (· ≠ '_')
        let digits := (whole.filter (· ≠ '_')) ++ frac
        match after with
        | p :: expText =>
          if p.toLower ≠ 'p' ∨ digits.isEmpty ∨ (mant.filter (· = '.')).length > 1 then
            .error .malformed
          else do
            let e ← orMalformed (readExponent expText)
            let m ← orMalformed (hexNumber digits)
            finiteValue (Binary64.ofBinary negative m (e - 4 * frac.length))
        | [] => .error .malformed
      else readPlain negative body
    | _ => readPlain negative body
where
  readPlain (negative : Bool) (body : List Char) : Except FloatFault Binary64 :=
    let mant := body.takeWhile fun c => c.isDigit ∨ c = '.' ∨ c = '_'
    let after := body.drop mant.length
    let whole := mant.takeWhile (· ≠ '.')
    let frac := mant.drop (whole.length + 1)
    let digitCount := (mant.filter Char.isDigit).length
    if digitCount = 0 ∨ (mant.filter (· = '.')).length > 1 then .error .malformed
    else
      let exponent : Option Int := match after with
        | [] => some 0
        | e :: rest => if e.toLower = 'e' then readExponent rest else none
      match exponent with
      | none => .error .malformed
      | some e =>
        let m := decimalDigits (whole ++ frac.filter (· ≠ '.'))
        let fracDigits := (frac.filter Char.isDigit).length
        finiteValue (Binary64.ofDecimal negative m (e - fracDigits))

/-- The double a number's text reads as, when it reads as a finite one. -/
def readFloat (cs : List Char) : Option Binary64 :=
  match parseFloat cs with
  | .ok x => some x
  | .error _ => none

/-- Moves the next character from the rest to the text read, when it is one of `set`; the text
read is kept last character first. -/
def shiftOne (set : List Char) : List Char × List Char → Bool × List Char × List Char
  | (read, c :: rest) =>
    if set.contains c then (true, c :: read, rest) else (false, read, c :: rest)
  | (read, []) => (false, read, [])

/-- Moves the longest run of characters of `set` from the rest to the text read. -/
def shiftRun (set : List Char) : List Char × List Char → List Char × List Char
  | (read, rest) =>
    let run := rest.takeWhile set.contains
    (run.reverse ++ read, rest.drop run.length)

/-- Splits off the text of one floating-point number at the start, the way a scan of a pair of
numbers cuts it: `NaN`, or an optional sign, then `Inf`, or digits and underscores (hex ones
after `0x`), a point with more of them, and an exponent (`p` after `0x`, else `e`) with an
optional sign and decimal digits. The text is cut, not checked: each part may be empty. -/
def floatToken (cs : List Char) : List Char × List Char :=
  let decimal := "0123456789_".toList
  let s : List Char × List Char := ([], cs)
  let (n1, s) := shiftOne ['n', 'N'] s
  let (a1, s) := if n1 then shiftOne ['a', 'A'] s else (false, s)
  let (n2, s) := if a1 then shiftOne ['n', 'N'] s else (false, s)
  if n2 then (s.1.reverse, s.2)
  else
    let s := (shiftOne ['+', '-'] s).2
    let (i1, s) := shiftOne ['i', 'I'] s
    let (n3, s) := if i1 then shiftOne ['n', 'N'] s else (false, s)
    let (f1, s) := if n3 then shiftOne ['f', 'F'] s else (false, s)
    if f1 then (s.1.reverse, s.2)
    else
      let (zero, s) := shiftOne ['0'] s
      let (hex, s) := if zero then shiftOne ['x', 'X'] s else (false, s)
      let digits := if hex then "0123456789abcdefABCDEF_".toList else decimal
      let s := shiftRun digits s
      let (point, s) := shiftOne ['.'] s
      let s := if point then shiftRun digits s else s
      let (exp, s) := shiftOne (if hex then ['p', 'P'] else ['e', 'E']) s
      let s := if exp then shiftRun decimal (shiftOne ['+', '-'] s).2 else s
      (s.1.reverse, s.2)

/-- The texts of the two parts of a complex number `a±bi`, the sign with the imaginary part; the
sign and the final `i` must be where the cut of `floatToken` leaves them. -/
def complexParts (cs : List Char) : Option (List Char × List Char) :=
  let (re, rest) := floatToken cs
  match rest with
  | sign :: rest =>
    if sign = '+' ∨ sign = '-' then
      match floatToken rest with
      | (im, 'i' :: _) => some (re, sign :: im)
      | _ => none
    else none
  | [] => none

/-- The double of one part of a complex number, or the message refusing it. -/
def complexPart (cs : List Char) : Except String Binary64 :=
  match parseFloat cs with
  | .ok x => .ok x
  | .error fault =>
    .error ("strconv.ParseFloat: parsing " ++ Text.quote (String.ofList cs) ++ ": " ++
      fault.message)

/-- The value of a number token, or the message refusing it. -/
def readNumber (kind : TokenKind) (text : String) : Except String Constant :=
  let cs := text.toList
  match kind with
  | .charConstant =>
    match unquoteChar '\'' (cs.drop 1) with
    | some (c, _, ['\'']) => .ok (.int c.toNat)
    | some _ => .error ("malformed character constant: " ++ text)
    | none => .error "invalid syntax"
  | .complex =>
    match complexParts cs with
    | some (reText, imText) => do
      let re ← complexPart reText
      let im ← complexPart imText
      pure (.complex re im)
    | none => .error "syntax error scanning complex number"
  | _ =>
    let imaginary := if cs.getLast? = some 'i' then readFloat cs.dropLast else none
    match imaginary with
    | some im => .ok (.complex Binary64.zero im)
    | none =>
      match readSigned cs, readUnsigned cs with
      | some n, _ => .ok (.int n)
      | none, some n => .ok (.unsigned n)
      | none, none =>
        match readFloat cs with
        | some x =>
          if cs.any (fun c => ".eEpP".toList.contains c) then .ok (.float x)
          else .error ("integer overflow: " ++ Text.quote text)
        | none => .error ("illegal number syntax: " ++ Text.quote text)

end StableWatch.Template

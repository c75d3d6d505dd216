import StableWatch.Number.Decimal
/-!
# Doubles as text

`Binary64.format verb precision` writes a double the way a number is written by the `%e %E %f
%g %G %x %X %b` conversions with a precision, or with the shortest digits that read back when
there is none:

* `e`: one digit, a point and `precision` more (six by default), then `e`, a sign and an exponent
  of at least two digits;
* `f`: all integer digits, then a point and `precision` digits;
* `g`: `precision` significant digits (at least one), written as `e` when the exponent is below
  -4 or not below the precision (six when digits are shortest), otherwise as `f`, with no
  trailing zeros;
* `x`: `0x`, the leading bit, a point and hex digits of the rest of the significand, then `p`, a
  sign and a binary exponent of at least two digits; a precision rounds the hex digits, to the
  nearest and a tie to even;
* `b`: the significand in decimal, `p`, and the binary exponent with its sign.

Infinities are `+Inf` and `-Inf`, not-a-number is `NaN`; a negative zero keeps its sign.
-/

namespace StableWatch

namespace Binary64

/-- `n` zeros. -/
def zeros (n : Nat) : String := String.ofList (List.replicate n '0')

/-- A digit as a character. -/
def digitChar (d : Nat) : Char := Char.ofNat (48 + d)

/-- An exponent with its sign and at least two digits. -/
def exponentText (e : Int) : String :=
  let digits := toString e.natAbs
  (if e < 0 then "-" else "+") ++ (if digits.length < 2 then "0" else "") ++ digits

/-- Scientific notation: the first digit, `precision` digits after the point, the exponent. -/
def scientific (sign : String) (d : Decimal) (precision : Int) (letter : Char) : String :=
  let first := digitChar (d.digits.headD 0)
  let fraction :=
    if precision > 0 then
      let shown := (d.digits.drop 1).take precision.toNat
      "." ++ String.ofList (shown.map digitChar) ++ zeros (precision.toNat - shown.length)
    else ""
  let exponent : Int := if d.digits.isEmpty then 0 else d.point - 1
  sign ++ first.toString ++ fraction ++ letter.toString ++ exponentText exponent

/-- Positional notation: every integer digit, `precision` digits after the point. -/
def positional (sign : String) (d : Decimal) (precision : Nat) : String :=
  let whole :=
    if d.point > 0 then
      let shown := d.digits.take d.point.toNat
      String.ofList (shown.map digitChar) ++ zeros (d.point.toNat - shown.length)
    else "0"
  let digitAt (i : Nat) : Char :=
    let j := d.point + i
    if 0 ≤ j then digitChar (d.digits.getD j.toNat 0) else '0'
  let fraction :=
    if precision > 0 then "." ++ String.ofList ((List.range precision).map digitAt) else ""
  sign ++ whole ++ fraction

/-- Digits written for the `e`, `f` or `g` conversion; `shortest` tells that the digits are the
shortest ones, which makes six the threshold of `g`. -/
def ofDigits (shortest : Bool) (sign : String) (d : Decimal) (precision : Nat) (verb : Char) :
    String :=
  let count := d.digits.length
  if verb = 'e' ∨ verb = 'E' then scientific sign d precision verb
  else if verb = 'f' then positional sign d precision
  else
    let limit : Int :=
      if shortest then 6
      else if precision > count ∧ (count : Int) ≥ d.point then count else precision
    let exponent := d.point - 1
    if exponent < -4 ∨ exponent ≥ limit then
      scientific sign d ((min precision count : Nat) - 1 : Int) (if verb = 'G' then 'E' else 'e')
    else
      let precision : Int := if (precision : Int) > d.point then count else precision
      positional sign d (precision - d.point).toNat

/-- Hex digits of the 60 fraction bits below the leading bit, most significant first. -/
def hexFraction (fraction : Nat) (upper : Bool) : List Char :=
  (List.range 15).map fun i =>
    let digit := (fraction / twoPow (56 - 4 * i)) % 16
    let c := if digit < 10 then Char.ofNat (48 + digit) else Char.ofNat (87 + digit)
    if upper then c.toUpper else c

/-- Hexadecimal notation of the magnitude `m · 2^e`: the significand moved so its leading bit is
bit 60, rounded to `precision` hex digits when one is given. -/
def hexadecimal (sign : String) (m : Nat) (e : Int) (precision : Option Nat) (upper : Bool) :
    String :=
  let exp0 : Int := if m = 0 then 0 else e + 52
  -- the significand with its leading bit at bit 60
  let order := Nat.log2 m
  let (mant, exp) :=
    if m = 0 then (0, exp0) else (m * twoPow (60 - order), exp0 - (52 - order : Nat))
  let (mant, exp) := match precision with
    | some p =>
      if p < 15 then
        let shift := 60 - 4 * p
        let extra := mant % twoPow shift
        let kept := mant / twoPow shift
        let half := twoPow (shift - 1)
        let kept := if extra > half ∨ (extra = half ∧ kept % 2 = 1) then kept + 1 else kept
        let mant := kept * twoPow shift
        if mant ≥ twoPow 61 then (mant / 2, exp + 1) else (mant, exp)
      else (mant, exp)
    | none => (mant, exp)
  let lead := if mant ≥ twoPow 60 then '1' else '0'
  let digits := hexFraction (mant % twoPow 60) upper
  let fraction := match precision with
    | none =>
      let kept := (digits.reverse.dropWhile (· = '0')).reverse
      if kept.isEmpty then "" else "." ++ String.ofList kept
    | some p =>
      if p = 0 then "" else "." ++ String.ofList (digits.take p) ++ zeros (p - min p 15)
  sign ++ "0" ++ (if upper then "X" else "x") ++ lead.toString ++ fraction ++
    (if upper then "P" else "p") ++ exponentText exp

/-- A double written by a conversion verb, with a precision or, when there is none, the shortest
digits. -/
def format (verb : Char) (precision : Option Nat) (x : Binary64) : String :=
  match x with
  | .nan => "NaN"
  | .infinite s => if s then "-Inf" else "+Inf"
  | .finite negative m e =>
    let sign := if negative then "-" else ""
    if verb = 'b' then
      let exp : Int := if m = 0 then -1074 else e
      sign ++ toString m ++ "p" ++ (if exp ≥ 0 then "+" else "") ++ toString exp
    else if verb = 'x' ∨ verb = 'X' then hexadecimal sign m e precision (verb = 'X')
    else if verb ∈ ['e', 'E', 'f', 'g', 'G'] then
      match precision with
      | none =>
        let d := Decimal.shortest x
        let count := d.digits.length
        let precision :=
          if verb = 'e' ∨ verb = 'E' then count - 1
          else if verb = 'f' then (count - d.point).toNat
          else count
        ofDigits true sign d precision verb
      | some p =>
        let d := Decimal.exact m e
        if verb = 'e' ∨ verb = 'E' then ofDigits false sign (d.round (p + 1)) p verb
        else if verb = 'f' then ofDigits false sign (d.round (d.point + p)) p verb
        else
          let p := max p 1
          ofDigits false sign (d.round p) p verb
    else "%" ++ verb.toString

end Binary64

end StableWatch

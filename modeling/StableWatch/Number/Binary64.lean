/-!
# Double-precision numbers

A `Binary64` is a number of the IEEE 754 double format: a signed finite value
`significand · 2^exponent`, a signed infinity, or not-a-number. A finite value is kept in the one
form the format allows: a zero is `finite s 0 0`; any other value has either a significand of 53
bits (`2^52 ≤ m < 2^53`) and an exponent in `[-1074, 971]`, or the exponent `-1074` and a
significand below `2^52` (a subnormal value).

Every number is made by `Binary64.ofRatio`, which rounds an exact quotient of naturals to the
nearest value of the format, a tie to the even significand, and gives an infinity past the largest
finite value. `ofDecimal` and `ofBinary` put a bound on the exponent first, so that a literal with
a huge exponent never builds a huge number.

Comparisons are those of the values: the two zeros are equal, not-a-number is equal to nothing
and ordered with nothing.
-/

namespace StableWatch

/-- A number of the double format. -/
inductive Binary64 where
  /-- The value `(-1)^negative · significand · 2^exponent`. -/
  | finite (negative : Bool) (significand : Nat) (exponent : Int)
  | infinite (negative : Bool)
  | nan
  deriving DecidableEq, Repr, Inhabited

namespace Binary64

/-- `2^n`. -/
def twoPow (n : Nat) : Nat := Nat.pow 2 n

/-- The quotient `p / q` rounded to the nearest natural number, a tie to the even one. -/
def roundQuotient (p q : Nat) : Nat :=
  let d := p / q
  let twice := 2 * (p % q)
  if twice > q ∨ (twice = q ∧ d % 2 = 1) then d + 1 else d

/-- Whether `p / q ≥ 2^k`. -/
def atLeastPow (p q : Nat) (k : Int) : Bool :=
  if 0 ≤ k then decide (q * twoPow k.toNat ≤ p) else decide (q ≤ p * twoPow (-k).toNat)

/-- The number nearest to `±p / q`. The binary order `k` of the quotient (`2^k ≤ p/q < 2^(k+1)`)
is one of the two next to the difference of the orders of `p` and `q`; the significand keeps 53
bits from there, or fewer below the smallest normal order, and a significand that rounds up to
`2^53` moves one order up. -/
def ofRatio (negative : Bool) (p q : Nat) : Binary64 :=
  if p = 0 ∨ q = 0 then .finite negative 0 0
  else
    let k0 : Int := (Nat.log2 p : Int) - (Nat.log2 q : Int)
    let k := if atLeastPow p q k0 then k0 else k0 - 1
    let e := max (k - 52) (-1074)
    let m := if 0 ≤ e then roundQuotient p (q * twoPow e.toNat)
      else roundQuotient (p * twoPow (-e).toNat) q
    let (m, e) := if m = twoPow 53 then (twoPow 52, e + 1) else (m, e)
    if e > 971 then .infinite negative
    else if m = 0 then .finite negative 0 0
    else .finite negative m e

/-- The number of decimal digits of a natural number (one for zero). -/
def decimalSize (n : Nat) : Nat := (Nat.toDigits 10 n).length

/-- The number nearest to `±m · 10^e`. A value of more than 310 decimal orders is past the
largest finite one, and one below `10^-330` is nearer to zero than to the smallest subnormal. -/
def ofDecimal (negative : Bool) (m : Nat) (e : Int) : Binary64 :=
  let order := (decimalSize m : Int) + e
  if m = 0 then .finite negative 0 0
  else if order > 310 then .infinite negative
  else if order < -330 then .finite negative 0 0
  else if 0 ≤ e then ofRatio negative (m * Nat.pow 10 e.toNat) 1
  else ofRatio negative m (Nat.pow 10 (-e).toNat)

/-- The number nearest to `±m · 2^e`, with the same bounds as `ofDecimal` in binary orders. -/
def ofBinary (negative : Bool) (m : Nat) (e : Int) : Binary64 :=
  let order := (Nat.log2 m + 1 : Int) + e
  if m = 0 then .finite negative 0 0
  else if order > 1025 then .infinite negative
  else if order < -1076 then .finite negative 0 0
  else if 0 ≤ e then ofRatio negative (m * twoPow e.toNat) 1
  else ofRatio negative m (twoPow (-e).toNat)

/-- The number nearest to an integer. -/
def ofInt (n : Int) : Binary64 := ofRatio (decide (n < 0)) n.natAbs 1

/-- Zero. -/
def zero : Binary64 := .finite false 0 0

/-- Whether a number is not-a-number. -/
def isNaN : Binary64 → Bool
  | .nan => true
  | _ => false

/-- Whether a number is finite. -/
def isFinite : Binary64 → Bool
  | .finite .. => true
  | _ => false

/-- Whether a number is a zero of either sign. -/
def isZero : Binary64 → Bool
  | .finite _ m _ => m == 0
  | _ => false

/-- The sign bit: set for negative values, the negative zero and the negative infinity. -/
def signBit : Binary64 → Bool
  | .finite s .. | .infinite s => s
  | .nan => false

/-- The number with the sign bit flipped. -/
def neg : Binary64 → Binary64
  | .finite s m e => .finite (!s) m e
  | .infinite s => .infinite (!s)
  | .nan => .nan

/-- A finite value as an integer scaled by `2^shift`. -/
def scaled (negative : Bool) (m shift : Nat) : Int :=
  let v : Int := (m * twoPow shift : Nat)
  if negative then -v else v

/-- Equality of values: the two zeros are equal, not-a-number equals nothing. -/
def equal : Binary64 → Binary64 → Bool
  | .finite s m e, .finite t n f => (m == 0 && n == 0) || (s == t && m == n && e == f)
  | .infinite s, .infinite t => s == t
  | _, _ => false

/-- Whether one value lies below another; not-a-number lies below nothing and nothing below it. -/
def lessThan : Binary64 → Binary64 → Bool
  | .finite s m e, .finite t n f =>
    let g := min e f
    decide (scaled s m (e - g).toNat < scaled t n (f - g).toNat)
  | .finite .., .infinite t => !t
  | .infinite s, .finite .. => s
  | .infinite s, .infinite t => s && !t
  | _, _ => false

/-- The integer a finite value is, when it is one. -/
def toInt? : Binary64 → Option Int
  | .finite s m e =>
    if 0 ≤ e then some (scaled s m e.toNat)
    else if m % twoPow (-e).toNat = 0 then some (scaled s (m / twoPow (-e).toNat) 0)
    else none
  | _ => none

end Binary64

end StableWatch

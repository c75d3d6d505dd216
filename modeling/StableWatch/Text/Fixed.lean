/-!
# Binary floating point in fixed notation

`fixed places x` writes a binary64 number with `places` digits after the point: its exact binary
value is rounded to the nearest multiple of `10 ^ -places`, a tie going to the even multiple. The
number is read off its bits as `m * 2 ^ e`, so the rounding is done on whole numbers and is exact.
A negative number, negative zero included, gets a minus sign.
-/

namespace StableWatch.Text

/-- The mantissa and binary exponent of a finite binary64 number's magnitude, from its bits. -/
def binaryParts (bits : Nat) : Nat × Int :=
  let exponent : Nat := bits / Nat.pow 2 52 % Nat.pow 2 11
  let fraction : Nat := bits % Nat.pow 2 52
  if exponent = 0 then (fraction, -1074) else (fraction + Nat.pow 2 52, (exponent : Int) - 1075)

/-- `num / den` rounded to the nearest whole number, a tie going to the even one. -/
def roundHalfEven (num den : Nat) : Nat :=
  let q := num / den
  let r := num % den
  if 2 * r > den then q + 1
  else if 2 * r = den then q + q % 2
  else q

/-- The number `m * 2 ^ e` times `10 ^ places`, rounded to a whole number. -/
def scaledRound (m : Nat) (e : Int) (places : Nat) : Nat :=
  if e ≥ 0 then m * Nat.pow 10 places * Nat.pow 2 e.toNat
  else roundHalfEven (m * Nat.pow 10 places) (Nat.pow 2 e.natAbs)

/-- The text of a binary64 number with `places` digits after the point. -/
def fixed (places : Nat) (x : Float) : String :=
  let bits := x.toBits.toNat
  let (m, e) := binaryParts bits
  let n := scaledRound m e places
  let digits := Nat.toDigits 10 (n % Nat.pow 10 places)
  let fraction := String.ofList (List.replicate (places - digits.length) '0' ++ digits)
  (if bits ≥ Nat.pow 2 63 then "-" else "") ++ toString (n / Nat.pow 10 places) ++
    (if places = 0 then "" else "." ++ fraction)

end StableWatch.Text

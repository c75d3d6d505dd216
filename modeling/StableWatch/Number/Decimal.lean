import StableWatch.Number.Binary64
/-!
# Decimal digits of doubles

A `Decimal` is a run of decimal digits without trailing zeros and the position of the decimal
point: the value `0.d₁d₂…dₙ · 10^point`. No digits at all is zero.

* `Decimal.exact` gives every digit of a finite magnitude `m · 2^e`: a power of two below one is a
  power of ten over a power of five, so `m · 5^k` holds the digits of `m · 2^-k`.
* `Decimal.round` keeps a number of leading digits and rounds the rest away, to the nearest and a
  tie to the even digit. Working on the exact digits, this rounds the binary value itself.
* `Decimal.shortest` gives the fewest digits that read back as the same double: for each length
  from one on, the digits cut there and the next ones up are the only candidates; of two that
  read back the nearer one is taken.
-/

namespace StableWatch

/-- Decimal digits and the position of the point: `0.d₁d₂…dₙ · 10^point`. -/
structure Decimal where
  digits : List Nat
  point : Int
  deriving DecidableEq, Repr, Inhabited

namespace Decimal

/-- The digits of a natural number, most significant first. -/
def digitsOf (n : Nat) : List Nat :=
  (Nat.toDigits 10 n).map fun c => c.toNat - 48

/-- Digits without their trailing zeros. -/
def trimZeros (ds : List Nat) : List Nat :=
  (ds.reverse.dropWhile (· = 0)).reverse

/-- A decimal with its trailing zeros dropped; no digits is zero, with the point at zero. -/
def normal (ds : List Nat) (point : Int) : Decimal :=
  let kept := trimZeros ds
  if kept.isEmpty then ⟨[], 0⟩ else ⟨kept, point⟩

/-- Every digit of the magnitude `m · 2^e`. -/
def exact (m : Nat) (e : Int) : Decimal :=
  if m = 0 then ⟨[], 0⟩
  else if 0 ≤ e then
    let ds := digitsOf (m * Binary64.twoPow e.toNat)
    normal ds ds.length
  else
    let ds := digitsOf (m * Nat.pow 5 (-e).toNat)
    normal ds ((ds.length : Int) + e)

/-- The digits one unit up in the last place, with the point moved when all of them were nines. -/
def increment (ds : List Nat) (point : Int) : Decimal :=
  let rec carry : List Nat → Option (List Nat)
    | [] => none
    | d :: rest =>
      match carry rest with
      | some rest' => some (d :: rest')
      | none => if d < 9 then some [d + 1] else none
  match carry ds with
  | some ds' => normal ds' point
  | none => ⟨[1], point + 1⟩

/-- Whether digits that follow a cut ask to round up: above one half, or exactly one half after an
odd digit. -/
def roundsUp (kept rest : List Nat) : Bool :=
  match rest with
  | [] => false
  | [5] => (kept.getLast?.getD 0) % 2 == 1
  | d :: _ => d ≥ 5

/-- The first `n` digits, the rest rounded to the nearest, a tie to the even digit. A count below
zero or past the digits leaves the decimal as it is. -/
def round (d : Decimal) (n : Int) : Decimal :=
  if n < 0 ∨ n ≥ d.digits.length then d
  else
    let kept := d.digits.take n.toNat
    let rest := d.digits.drop n.toNat
    if roundsUp kept rest then increment kept d.point else normal kept d.point

/-- The value of a decimal as `digits · 10^exponent`. -/
def value (d : Decimal) : Nat × Int :=
  (d.digits.foldl (fun acc x => acc * 10 + x) 0, d.point - d.digits.length)

/-- Whether a decimal reads back as a double. -/
def readsBack (x : Binary64) (negative : Bool) (d : Decimal) : Bool :=
  let (m, e) := d.value
  (Binary64.ofDecimal negative m e).equal x

/-- The shortest digits of a finite double, trying at most `fuel` lengths from `n` on. -/
def shortestFrom (x : Binary64) (negative : Bool) (exactDigits : Decimal) :
    Nat → Nat → Decimal
  | 0, _ => exactDigits
  | fuel + 1, n =>
    if n ≥ exactDigits.digits.length then exactDigits
    else
      let kept := exactDigits.digits.take n
      let rest := exactDigits.digits.drop n
      let down := normal kept exactDigits.point
      let up := increment kept exactDigits.point
      match readsBack x negative down, readsBack x negative up with
      | true, true => if roundsUp kept rest then up else down
      | true, false => down
      | false, true => up
      | false, false => shortestFrom x negative exactDigits fuel (n + 1)

/-- The fewest digits that read back as a finite double; a zero has none. -/
def shortest (x : Binary64) : Decimal :=
  match x with
  | .finite negative m e =>
    if m = 0 then ⟨[], 0⟩ else shortestFrom x negative (exact m e) 17 1
  | _ => ⟨[], 0⟩

end Decimal

end StableWatch

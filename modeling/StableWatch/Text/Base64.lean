/-!
# Base64

`Text.decodeBase64` reads the standard base64 alphabet (`A`–`Z`, `a`–`z`, `0`–`9`, `+`, `/`)
with padding: line breaks are skipped, the rest must come in groups of four, and only the last
group may end in `=` or `==`. Bits left over in a padded group are dropped.
-/

namespace StableWatch.Text

/-- The value of a base64 digit. -/
def base64Digit (c : Char) : Option Nat :=
  if 'A' ≤ c && c ≤ 'Z' then some (c.toNat - 'A'.toNat)
  else if 'a' ≤ c && c ≤ 'z' then some (c.toNat - 'a'.toNat + 26)
  else if '0' ≤ c && c ≤ '9' then some (c.toNat - '0'.toNat + 52)
  else if c = '+' then some 62
  else if c = '/' then some 63
  else none

/-- The bytes of groups of four base64 characters. -/
def base64Groups : List Char → Option (List Nat)
  | [] => some []
  | [a, b, '=', '='] => do
    let v ← (base64Digit a).bind fun x => (base64Digit b).map fun y => x * 64 + y
    pure [v / 16]
  | [a, b, c, '='] => do
    let x ← base64Digit a
    let y ← base64Digit b
    let z ← base64Digit c
    let v := (x * 64 + y) * 64 + z
    pure [v / 1024, v / 4 % 256]
  | a :: b :: c :: d :: rest => do
    let x ← base64Digit a
    let y ← base64Digit b
    let z ← base64Digit c
    let w ← base64Digit d
    let v := ((x * 64 + y) * 64 + z) * 64 + w
    let more ← base64Groups rest
    pure (v / 65536 :: v / 256 % 256 :: v % 256 :: more)
  | _ => none

/-- The bytes a base64 text stands for, or none when it is not base64. -/
def decodeBase64 (text : String) : Option (List Nat) :=
  base64Groups (text.toList.filter fun c => c ≠ '\r' && c ≠ '\n')

end StableWatch.Text

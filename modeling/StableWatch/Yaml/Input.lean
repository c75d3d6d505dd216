import StableWatch.Text.Utf8
/-!
# YAML input

`Input.ofBytes` turns the bytes of a YAML stream into the characters the scanner reads. A byte
order mark at the start is dropped.

The reader takes the bytes in windows of 512: a window holds the characters that fit in it whole,
a character cut at its end waiting for the next window, which starts with it. All characters of a
window are checked when the first of them is needed, so the reader gives the characters before
the first window with a fault and then refuses with the fault's message:

* `invalid leading UTF-8 octet`: a byte that starts no sequence (`10xxxxxx`, `11111xxx`);
* `incomplete UTF-8 octet sequence`: a sequence the end of the input cuts short;
* `invalid trailing UTF-8 octet`: a sequence with a byte that does not continue it;
* `invalid length of a UTF-8 sequence`: an overlong form;
* `invalid Unicode character`: a surrogate or a value past U+10FFFF;
* `control characters are not allowed`: a character outside those YAML allows (tab, line feed,
  carriage return, printable ASCII, NEL, and the ranges from U+00A0 without surrogates, U+FFFE
  and U+FFFF).

The characters from a fault on are read as text is (`Text.decodeUtf8`): the scanner may look at
them but never reads past the window that holds the fault.
-/

namespace StableWatch.Yaml

/-- Whether YAML allows a character in a stream. -/
def isAllowed (c : Char) : Bool :=
  let n := c.toNat
  n = 0x09 || n = 0x0A || n = 0x0D || (0x20 ≤ n && n ≤ 0x7E) || n = 0x85 ||
    (0xA0 ≤ n && n ≤ 0xD7FF) || (0xE000 ≤ n && n ≤ 0xFFFD) || 0x10000 ≤ n

/-- The characters of a stream, and where and why the reader refuses to go on: the number of
characters it gives and the message. -/
structure Input where
  chars : List Char := []
  refusal : Option (Nat × String) := none
  deriving Repr, Inhabited

namespace Input

/-- The length of the sequence a leading byte starts, zero for a byte that starts none. -/
def sequenceLength (b : Nat) : Nat :=
  if b < 0x80 then 1
  else if b / 32 = 6 then 2
  else if b / 16 = 14 then 3
  else if b / 8 = 30 then 4
  else 0

/-- The code point of a sequence whose bytes all fit, or the fault in it. -/
def decodeSequence (lead : Nat) (tail : List Nat) : Except String Nat := do
  let width := tail.length + 1
  let value ← tail.foldlM (fun acc b =>
      if b / 64 = 2 then pure (acc * 64 + b % 64) else throw "invalid trailing UTF-8 octet")
    (if width = 1 then lead else lead % Nat.pow 2 (7 - width))
  if (width = 2 ∧ value < 0x80) ∨ (width = 3 ∧ value < 0x800) ∨ (width = 4 ∧ value < 0x10000) then
    throw "invalid length of a UTF-8 sequence"
  if (0xD800 ≤ value ∧ value ≤ 0xDFFF) ∨ value > 0x10FFFF then throw "invalid Unicode character"
  if !isAllowed (Char.ofNat value) then throw "control characters are not allowed"
  pure value

/-- Reads the bytes from character `i` at byte `pos`, the current window ending at byte
`windowEnd` and starting at character `windowStart`; the characters read so far are `acc`,
last first. -/
def readFrom : Nat → List Nat → Nat → Nat → Nat → Nat → List Char → Input
  | 0, _, _, _, _, _, acc => { chars := acc.reverse }
  | _, [], _, _, _, _, acc => { chars := acc.reverse }
  | fuel + 1, b :: rest, i, pos, windowEnd, windowStart, acc =>
    let width := sequenceLength b
    let refuse (start : Nat) (message : String) : Input :=
      { chars := acc.reverse ++ Text.decodeUtf8 (b :: rest), refusal := some (start, message) }
    if width = 0 then
      refuse (if pos + 1 > windowEnd then i else windowStart) "invalid leading UTF-8 octet"
    else if width > rest.length + 1 then refuse i "incomplete UTF-8 octet sequence"
    else
      let (windowEnd, windowStart) :=
        if pos + width > windowEnd then (pos + 512, i) else (windowEnd, windowStart)
      match decodeSequence b (rest.take (width - 1)) with
      | .error message => refuse windowStart message
      | .ok value =>
        readFrom fuel (rest.drop (width - 1)) (i + 1) (pos + width) windowEnd windowStart
          (Char.ofNat value :: acc)

/-- The input a stream of bytes gives the scanner. -/
def ofBytes (bytes : List UInt8) : Input :=
  let bytes := bytes.map (·.toNat)
  match bytes with
  | 0xEF :: 0xBB :: 0xBF :: rest => readFrom rest.length rest 0 3 512 0 []
  | _ => readFrom bytes.length bytes 0 0 512 0 []

end Input

end StableWatch.Yaml

/-!
# UTF-8 bytes

`Text.utf8Bytes` writes a character in UTF-8, one to four bytes. `Text.decodeUtf8` reads
bytes as UTF-8 text, and `Text.runes` splits them into the bytes of each character it reads. A well-formed sequence gives its character: no overlong form, no
surrogate, nothing above U+10FFFF. Any other byte gives one replacement character U+FFFD and
reading goes on at the next byte, so a sequence cut short shows one replacement character per
byte it kept.
-/

namespace StableWatch.Text

/-- The bytes of a character's UTF-8 encoding. -/
def utf8Bytes (c : Char) : List Nat :=
  let n := c.toNat
  if n < 0x80 then [n]
  else if n < 0x800 then [0xC0 + n / 64, 0x80 + n % 64]
  else if n < 0x10000 then [0xE0 + n / 4096, 0x80 + n / 64 % 64, 0x80 + n % 64]
  else [0xF0 + n / 262144, 0x80 + n / 4096 % 64, 0x80 + n / 64 % 64, 0x80 + n % 64]

/-- Whether a byte continues a UTF-8 sequence. -/
def isContinuation (b : Nat) : Bool :=
  0x80 ≤ b && b < 0xC0

/-- The range the second byte of a sequence must lie in, by its first byte. -/
def secondRange (b : Nat) : Nat × Nat :=
  if b = 0xE0 then (0xA0, 0xBF)
  else if b = 0xED then (0x80, 0x9F)
  else if b = 0xF0 then (0x90, 0xBF)
  else if b = 0xF4 then (0x80, 0x8F)
  else (0x80, 0xBF)

/-- The well-formed character at the start of the bytes, with how many bytes it takes. -/
def leadingChar (bytes : List Nat) : Option (Char × Nat) :=
  match bytes with
  | [] => none
  | b :: rest =>
    if b < 0x80 then some (Char.ofNat b, 1)
    else
      let width := if 0xC2 ≤ b && b ≤ 0xDF then 2 else if 0xE0 ≤ b && b ≤ 0xEF then 3
        else if 0xF0 ≤ b && b ≤ 0xF4 then 4 else 0
      let tail := rest.take (width - 1)
      let (lo, hi) := secondRange b
      let fits := width ≠ 0 && tail.length = width - 1 &&
        (match tail with
          | c :: more => lo ≤ c && c ≤ hi && more.all isContinuation
          | [] => false)
      if !fits then none
      else
        let lead := b % (Nat.pow 2 (7 - width))
        let code := tail.foldl (fun acc c => acc * 64 + c % 64) lead
        some (Char.ofNat code, width)

/-- The text the bytes spell in UTF-8, one replacement character for every byte that does not
start a well-formed sequence. -/
def decodeUtf8 (bytes : List Nat) : List Char :=
  go bytes.length bytes
where
  /-- Reads at most `fuel` characters; each takes at least one byte. -/
  go : Nat → List Nat → List Char
    | 0, _ => []
    | _, [] => []
    | fuel + 1, b :: rest =>
      match leadingChar (b :: rest) with
      | some (c, width) => c :: go fuel (rest.drop (width - 1))
      | none => '\uFFFD' :: go fuel rest

/-- The bytes of each character of a byte string, read as `decodeUtf8` reads them: a well-formed
sequence is one character, any other byte one on its own. -/
def runes (bytes : List Nat) : List (List Nat) :=
  go bytes.length bytes
where
  /-- Splits at most `fuel` characters off; each takes at least one byte. -/
  go : Nat → List Nat → List (List Nat)
    | 0, _ => []
    | _, [] => []
    | fuel + 1, b :: rest =>
      match leadingChar (b :: rest) with
      | some (_, width) => (b :: rest.take (width - 1)) :: go fuel (rest.drop (width - 1))
      | none => [b] :: go fuel rest

/-- The text bytes spell, one replacement character for every byte that does not start a
well-formed sequence. -/
def ofBytes (bytes : List UInt8) : String :=
  String.ofList (decodeUtf8 (bytes.map (·.toNat)))

end StableWatch.Text

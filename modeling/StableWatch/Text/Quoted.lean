import StableWatch.Text.Printable
import StableWatch.Text.Utf8
/-!
# Double-quoted text

Error messages show paths and names between double quotes. Inside the quotes a printable
character stands for itself, except the quote and the backslash, which get a backslash. The
seven control characters with a letter escape (`\a \b \f \n \r \t \v`) use it; other ASCII
controls and DEL are `\x` with two hex digits, and every other character that is not printable
is `\u` with four or `\U` with eight lowercase hex digits.

Messages about durations quote in plain ASCII instead (`quoteAscii`): only the quote and the
backslash get a backslash, and each byte of the UTF-8 encoding of a character outside printable
ASCII is written `\x` with two hex digits.
-/

namespace StableWatch.Text

/-- The lowercase hex digit of a number below sixteen. -/
def hexDigit (n : Nat) : Char :=
  if n < 10 then Char.ofNat (48 + n) else Char.ofNat (87 + n)

/-- The last `width` hex digits of a number, most significant first. -/
def hexDigits : Nat → Nat → List Char
  | 0, _ => []
  | width + 1, n => hexDigits width (n / 16) ++ [hexDigit (n % 16)]

/-- How one character is written between the quotes `mark`: the mark and the backslash get a
backslash, a printable character stands for itself (with `asciiOnly`, only printable ASCII does),
and the rest are escaped. -/
def escapeIn (mark : Char) (asciiOnly : Bool) (c : Char) : List Char :=
  if c = mark || c = '\\' then ['\\', c]
  else if (if asciiOnly then 0x20 ≤ c.toNat && c.toNat < 0x7F else isPrintable c) then [c]
  else if c = '\x07' then ['\\', 'a']
  else if c = '\x08' then ['\\', 'b']
  else if c = '\x0c' then ['\\', 'f']
  else if c = '\n' then ['\\', 'n']
  else if c = '\r' then ['\\', 'r']
  else if c = '\t' then ['\\', 't']
  else if c = '\x0b' then ['\\', 'v']
  else if c.toNat < 32 || c.toNat = 127 then '\\' :: 'x' :: hexDigits 2 c.toNat
  else if c.toNat < 0x10000 then '\\' :: 'u' :: hexDigits 4 c.toNat
  else '\\' :: 'U' :: hexDigits 8 c.toNat

/-- How one character is written between double quotes. -/
def escapeChar (c : Char) : List Char := escapeIn '"' false c

/-- The text between double quotes, each character escaped as `escapeChar` says. -/
def quote (text : String) : String :=
  String.ofList ('"' :: text.toList.flatMap escapeChar ++ ['"'])

/-- The characters between double quotes for bytes, at most `fuel` of them: a well-formed UTF-8
character is escaped as `escapeIn` says (with `asciiOnly`, everything outside printable ASCII is),
and any other byte is `\x` with two hex digits. -/
def quotedBytes (asciiOnly : Bool) : Nat → List Nat → List Char
  | 0, _ => []
  | _, [] => []
  | fuel + 1, b :: rest =>
    match leadingChar (b :: rest) with
    | some (c, width) =>
      escapeIn '"' asciiOnly c ++ quotedBytes asciiOnly fuel (rest.drop (width - 1))
    | none => '\\' :: 'x' :: hexDigits 2 b ++ quotedBytes asciiOnly fuel rest

/-- A character between single quotes, escaped as `escapeIn` says. -/
def quoteChar (c : Char) (asciiOnly : Bool) : String :=
  String.ofList ('\'' :: escapeIn '\'' asciiOnly c ++ ['\''])

/-- Bytes between double quotes, as `quotedBytes` writes them. -/
def quoteBytes (bytes : List Nat) : String :=
  String.ofList ('"' :: quotedBytes false bytes.length bytes ++ ['"'])

/-- Bytes between double quotes with everything outside printable ASCII escaped. -/
def quoteBytesToAscii (bytes : List Nat) : String :=
  String.ofList ('"' :: quotedBytes true bytes.length bytes ++ ['"'])

/-- Whether bytes can stand between backquotes: well-formed UTF-8 without a control character
but the tab, a backquote, DEL or a byte order mark. -/
def canBackquoteBytes (bytes : List Nat) : Bool :=
  (runes bytes).all fun r =>
    match leadingChar r with
    | some (c, _) =>
      !((c.toNat < 0x20 && c ≠ '\t') || c = '\x60' || c.toNat = 0x7F || c.toNat = 0xFEFF)
    | none => false

/-- How one character is written between double quotes in plain ASCII. -/
def escapeAscii (c : Char) : List Char :=
  if c = '"' || c = '\\' then ['\\', c]
  else if 0x20 ≤ c.toNat && c.toNat < 0x80 then [c]
  else (utf8Bytes c).flatMap fun b => '\\' :: 'x' :: hexDigits 2 b

/-- The text between double quotes in plain ASCII, each character escaped as `escapeAscii`
says. -/
def quoteAscii (text : String) : String :=
  String.ofList ('"' :: text.toList.flatMap escapeAscii ++ ['"'])

end StableWatch.Text

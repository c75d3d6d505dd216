import StableWatch.Template.Value
/-!
# Formatted printing

`sprintf format args` writes values by a format. Formats, text values and the result are strings
of bytes, which need not be UTF-8; widths and precisions of text count characters, a byte that
starts no well-formed character counting as one. Text outside directives stands for itself; a
directive is `%`, flags (`+ - # space 0`), an optional width and an optional precision (either
may be `*`, taking an integer argument), and a verb. `[n]` before the width, the precision or the
verb picks the `n`-th argument (from one) and goes on from there.

Each kind of value has its own verbs:

* `nil`: only `%v` and `%T`, as `<nil>`;
* truth values: `%t %v`;
* integers: `%d %v` in decimal, `%b %o %O %x %X` in other bases (`#` adds `0b`, `0`, `0x`), `%c`
  the character, `%q` the quoted character, `%U` the code point as `U+0041`;
* doubles: `%e %E %f %F %g %G %x %X %b` as `Binary64.format` writes them, `%v` as `%g`, with a
  sign when asked (`+` or a space), zeros after the sign for `0`, and `#` keeping the point and
  the trailing zeros;
* complex numbers: the float verbs on both parts, between parentheses with `i` after the second,
  which always has a sign;
* text: `%s %v`, `%q` quoted (`#` between backquotes when it can be, `+` in ASCII), `%x %X` the
  bytes in hex (a space between bytes with the space flag); the precision cuts the text to that
  many characters;
* the map: `map[key:value …]`, each key and value with the verb.

`%w`, which wraps an error, fits no value here, but takes `#` and `+` as `%v` does, so its
refusal shows the value that way. `%T` writes the type's name. A width pads on the left with spaces (zeros with `0`), on the right
with `-`; integers take the zeros of `0` as digits, after the sign. A verb that does not fit its value writes
`%!verb(type=value)`; a missing argument `%!verb(MISSING)`, a bad `[n]` `%!verb(BADINDEX)`, a `*`
without an integer `%!(BADWIDTH)` or `%!(BADPREC)`, an unfinished directive `%!(NOVERB)`, which
also ends the format, and arguments left over `%!(EXTRA type=value, …)` unless `[n]` was used.
-/

namespace StableWatch.Template

/-- The bytes of a text. -/
def bytesOf (s : String) : List UInt8 := s.toUTF8.toList

/-- The flags, width and precision of a directive. `plusV` and `sharpV` are the `+` and `#` of
`%v`, which change how values are shown rather than how numbers are signed. -/
structure Spec where
  plus : Bool := false
  minus : Bool := false
  sharp : Bool := false
  space : Bool := false
  zero : Bool := false
  plusV : Bool := false
  sharpV : Bool := false
  width : Option Nat := none
  precision : Option Nat := none
  deriving Repr, Inhabited

namespace Spec

/-- `n` bytes of padding: zeros when the directive pads with zeros on the left. -/
def fill (spec : Spec) (n : Nat) : List UInt8 :=
  List.replicate n (if spec.zero ∧ !spec.minus then 48 else 32)

/-- The number of characters in bytes. -/
def charCount (bytes : List UInt8) : Nat :=
  (Text.runes (bytes.map (·.toNat))).length

/-- Bytes padded to the width in characters, on the left or, with `-`, on the right. -/
def pad (spec : Spec) (bytes : List UInt8) : List UInt8 :=
  match spec.width with
  | none => bytes
  | some w =>
    let gap := w - charCount bytes
    if spec.minus then bytes ++ spec.fill gap else spec.fill gap ++ bytes

/-- Text padded to the width. -/
def padText (spec : Spec) (s : String) : List UInt8 := spec.pad (bytesOf s)

/-- The directive without zero padding. -/
def spaced (spec : Spec) : Spec := { spec with zero := false }

/-- Bytes cut to the precision, in characters. -/
def truncate (spec : Spec) (bytes : List UInt8) : List UInt8 :=
  match spec.precision with
  | some p => ((Text.runes (bytes.map (·.toNat))).take p).flatten.map (·.toUInt8)
  | none => bytes

/-! ## Integers -/

/-- The digits of a natural number in a base, most significant first. -/
def digitsIn (base : Nat) (upper : Bool) (n : Nat) : List Char :=
  let ds := Nat.toDigits base n
  if upper then ds.map Char.toUpper else ds

/-- An integer in a base: zeros up to the precision (or, with `0` and a width, up to the width
less the sign), the prefix `#` asks for, `0o` for `%O`, and the sign. -/
def integer (spec : Spec) (n : Int) (base : Nat) (upper octal : Bool) : List UInt8 :=
  let negative := decide (n < 0)
  let u := n.natAbs
  if spec.precision = some 0 ∧ u = 0 then spec.spaced.fill (spec.width.getD 0)
  else
    let least : Nat := match spec.precision with
      | some p => p
      | none =>
        match spec.width with
        | some w =>
          if spec.zero ∧ !spec.minus then
            (if negative ∨ spec.plus ∨ spec.space then w - 1 else w)
          else 0
        | none => 0
    let ds := digitsIn base upper u
    let ds := List.replicate (least - ds.length) '0' ++ ds
    let ds :=
      if spec.sharp then
        if base = 2 then '0' :: 'b' :: ds
        else if base = 8 then (if ds.head? = some '0' then ds else '0' :: ds)
        else if base = 16 then '0' :: (if upper then 'X' else 'x') :: ds
        else ds
      else ds
    let ds := if octal then '0' :: 'o' :: ds else ds
    let ds :=
      if negative then '-' :: ds
      else if spec.plus then '+' :: ds
      else if spec.space then ' ' :: ds
      else ds
    spec.spaced.padText (String.ofList ds)

/-- The code point an integer stands for as a character: itself when it is a Unicode scalar
value, the replacement character otherwise. -/
def runeOf (n : Int) : Nat :=
  if 0 ≤ n ∧ n ≤ 0x10FFFF ∧ ¬(0xD800 ≤ n ∧ n ≤ 0xDFFF) then n.toNat else 0xFFFD

/-- An integer as a quoted character, escaped as a character literal, in ASCII with `+`. -/
def quotedRune (spec : Spec) (n : Int) : List UInt8 :=
  spec.padText (Text.quoteChar (Char.ofNat (runeOf n)) spec.plus)

/-- An integer as a code point: `U+` and at least four (or the precision's) uppercase hex digits,
with `#` the character itself after it when printable. A negative integer is taken modulo
`2^64`. -/
def unicode (spec : Spec) (n : Int) : List UInt8 :=
  let u : Nat := if n < 0 then (Nat.pow 2 64 - n.natAbs) else n.toNat
  let least := match spec.precision with
    | some p => if p > 4 then p else 4
    | none => 4
  let hex := digitsIn 16 true u
  let hex := List.replicate (least - hex.length) '0' ++ hex
  let scalar := u ≤ 0x10FFFF ∧ ¬(0xD800 ≤ u ∧ u ≤ 0xDFFF)
  let shown :=
    if spec.sharp ∧ scalar ∧ Text.isPrintable (Char.ofNat u) then
      " '" ++ (Char.ofNat u).toString ++ "'"
    else ""
  spec.spaced.padText ("U+" ++ String.ofList hex ++ shown)

/-- An integer by a verb, or nothing when the verb does not fit. -/
def intVerb (spec : Spec) (verb : Char) (n : Int) : Option (List UInt8) :=
  match verb with
  | 'v' | 'd' => some (spec.integer n 10 false false)
  | 'b' => some (spec.integer n 2 false false)
  | 'o' => some (spec.integer n 8 false false)
  | 'O' => some (spec.integer n 8 false true)
  | 'x' => some (spec.integer n 16 false false)
  | 'X' => some (spec.integer n 16 true false)
  | 'c' => some (spec.padText (Char.ofNat (runeOf n)).toString)
  | 'q' => some (spec.quotedRune n)
  | 'U' => some (spec.unicode n)
  | _ => none

/-! ## Doubles -/

/-- The `#` form of a number with its sign: a point always, and for `%g` (and `%v`, `%x`)
zeros until the precision's count of significant characters, before the exponent. -/
def keepPoint (signed : List Char) (verb : Char) (precision : Option Nat) : List Char :=
  let wanted : Int :=
    if verb = 'v' ∨ verb = 'g' ∨ verb = 'G' ∨ verb = 'x' then (precision.getD 6 : Nat) else 0
  let body := signed.drop 1
  let isTail (c : Char) : Bool :=
    c = 'p' ∨ c = 'P' ∨ ((c = 'e' ∨ c = 'E') ∧ verb ≠ 'x' ∧ verb ≠ 'X')
  let mantissa := body.takeWhile (!isTail ·)
  let tail := body.drop mantissa.length
  let significant := ((mantissa.filter (· ≠ '.')).dropWhile (· = '0')).length
  let wanted := wanted - significant
  let (mantissa, wanted) :=
    if mantissa.contains '.' then (mantissa, wanted)
    else (mantissa ++ ['.'], if mantissa = ['0'] then wanted - 1 else wanted)
  signed.take 1 ++ mantissa ++ List.replicate wanted.toNat '0' ++ tail

/-- A double by a float verb with a default precision: the sign shown for `+` (a space for the
space flag), infinities and not-a-number padded with spaces, and zero padding after the sign. -/
def double (spec : Spec) (x : Binary64) (verb : Char) (default : Option Nat) : List UInt8 :=
  let precision := match spec.precision with
    | some p => some p
    | none => default
  let text := (x.format (if verb = 'F' then 'f' else verb) precision).toList
  let signed := match text with
    | '-' :: _ | '+' :: _ => text
    | _ => '+' :: text
  let signed := if spec.space ∧ signed.head? = some '+' ∧ !spec.plus then ' ' :: signed.drop 1
    else signed
  match signed.drop 1 with
  | 'I' :: _ => spec.spaced.padText (String.ofList signed)
  | 'N' :: _ =>
    spec.spaced.padText (String.ofList (if !spec.space ∧ !spec.plus then signed.drop 1 else signed))
  | _ =>
    let signed := if spec.sharp ∧ verb ≠ 'b' then keepPoint signed verb precision else signed
    if spec.plus ∨ signed.head? ≠ some '+' then
      match spec.width with
      | some w =>
        if spec.zero ∧ !spec.minus ∧ w > signed.length then
          bytesOf (String.ofList (signed.take 1)) ++ spec.fill (w - signed.length) ++
            bytesOf (String.ofList (signed.drop 1))
        else spec.padText (String.ofList signed)
      | none => bytesOf (String.ofList signed)
    else spec.padText (String.ofList (signed.drop 1))

/-- The verb and default precision a float verb formats with, or nothing for another verb. -/
def floatForm (verb : Char) : Option (Char × Option Nat) :=
  match verb with
  | 'v' => some ('g', none)
  | 'b' | 'g' | 'G' | 'x' | 'X' => some (verb, none)
  | 'f' | 'F' | 'e' | 'E' => some (verb, some 6)
  | _ => none

/-- A double by a verb, or nothing when the verb does not fit. -/
def floatVerb (spec : Spec) (verb : Char) (x : Binary64) : Option (List UInt8) :=
  (floatForm verb).map fun (v, default) => spec.double x v default

/-- A complex number by a verb: both parts, the second always signed. -/
def complexVerb (spec : Spec) (verb : Char) (re im : Binary64) : Option (List UInt8) :=
  (floatForm verb).map fun (v, default) =>
    bytesOf "(" ++ spec.double re v default ++ { spec with plus := true }.double im v default ++
      bytesOf "i)"

/-! ## Text -/

/-- Text quoted: between backquotes with `#` when it can stand there, in ASCII with `+`. -/
def quotedText (spec : Spec) (s : List UInt8) : List UInt8 :=
  let s := spec.truncate s
  let codes := s.map (·.toNat)
  if spec.sharp ∧ Text.canBackquoteBytes codes then spec.pad ([96] ++ s ++ [96])
  else spec.padText (if spec.plus then Text.quoteBytesToAscii codes else Text.quoteBytes codes)

/-- The bytes of text in hex, cut to the precision: `#` adds `0x` before all of them, or before
each with the space flag, which also puts a space between them. -/
def hexText (spec : Spec) (s : List UInt8) (upper : Bool) : List UInt8 :=
  let bytes := s.map (·.toNat)
  let bytes := match spec.precision with
    | some p => bytes.take p
    | none => bytes
  let n := bytes.length
  if n = 0 then spec.fill (spec.width.getD 0)
  else
    let size :=
      if spec.space then (if spec.sharp then 4 * n else 2 * n) + (n - 1)
      else if spec.sharp then 2 * n + 2 else 2 * n
    let lead := if upper then "0X" else "0x"
    let digit (d : Nat) : String :=
      let c := Text.hexDigit d
      (if upper then c.toUpper else c).toString
    let body := String.join ((List.range n).zip bytes |>.map fun (i, b) =>
      (if spec.space ∧ i > 0 then " " else "") ++
        (if spec.sharp ∧ (spec.space ∨ i = 0) then lead else "") ++ digit (b / 16) ++ digit (b % 16))
    let gap := (spec.width.getD 0) - size
    if spec.minus then bytesOf body ++ spec.fill gap else spec.fill gap ++ bytesOf body

/-- Text by a verb, or nothing when the verb does not fit. -/
def textVerb (spec : Spec) (verb : Char) (s : List UInt8) : Option (List UInt8) :=
  match verb with
  | 'v' => some (if spec.sharpV then spec.quotedText s else spec.pad (spec.truncate s))
  | 's' => some (spec.pad (spec.truncate s))
  | 'x' => some (spec.hexText s false)
  | 'X' => some (spec.hexText s true)
  | 'q' => some (spec.quotedText s)
  | _ => none

/-- A text of the map by a verb; a verb that does not fit is marked as for any value. -/
def entryText (spec : Spec) (verb : Char) (s : String) : List UInt8 :=
  match spec.textVerb verb (bytesOf s) with
  | some shown => shown
  | none =>
    bytesOf ("%!" ++ verb.toString ++ "(string=") ++ ((spec.textVerb 'v' (bytesOf s)).getD []) ++
      bytesOf ")"

/-- The map: its entries in order, each key and value by the verb; with `#v` as a composite
literal of its type. -/
def mapVerb (spec : Spec) (verb : Char) (entries : List (String × String)) : List UInt8 :=
  let shown := entries.map fun (k, v) => spec.entryText verb k ++ bytesOf ":" ++ spec.entryText verb v
  let joined (sep : String) : List UInt8 := (shown.intersperse (bytesOf sep)).flatten
  if spec.sharpV then bytesOf "map[string]string\x7b" ++ joined ", " ++ bytesOf "\x7d"
  else bytesOf "map[" ++ joined " " ++ bytesOf "]"

/-! ## Any value -/

/-- A value by a verb, or nothing when the verb does not fit. `nil` (and no value) fits only
`%v` and `%T`. -/
def valueVerb (spec : Spec) (verb : Char) (v : Value) : Option (List UInt8) :=
  match v with
  | .missing | .nil => if verb = 'v' ∨ verb = 'T' then some (spec.padText "<nil>") else none
  | _ =>
    if verb = 'T' then some (spec.pad (spec.truncate (bytesOf v.typeName)))
    else
      match v with
      | .bool b =>
        if verb = 't' ∨ verb = 'v' then some (spec.padText (if b then "true" else "false"))
        else none
      | .int n => spec.intVerb verb n
      | .byte b =>
        if verb = 'v' ∧ spec.sharpV then some ({ spec with sharp := true }.integer b.toNat 16 false false)
        else spec.intVerb verb b.toNat
      | .float x => spec.floatVerb verb x
      | .complex re im => spec.complexVerb verb re im
      | .string s => spec.textVerb verb s
      | .map entries => if verb = 'w' ∨ verb = 'p' then none else some (spec.mapVerb verb entries)
      | _ => none

/-- A value by a verb; a verb that does not fit writes `%!verb(type=value)`, the value shown by
`%v` under the same flags. -/
def value (spec : Spec) (verb : Char) (v : Value) : List UInt8 :=
  match spec.valueVerb verb v with
  | some s => s
  | none =>
    match v with
    | .missing | .nil => bytesOf ("%!" ++ verb.toString ++ "(<nil>)")
    | _ =>
      bytesOf ("%!" ++ verb.toString ++ "(" ++ v.typeName ++ "=") ++
        ((spec.valueVerb 'v' v).getD []) ++ bytesOf ")"

end Spec

/-! ## Directives -/

/-- What reading a count at the start of a format gives: no digit, a number and the digits it
took, or a number that passed a million before its last digit. -/
inductive Count where
  | absent
  | present (n used : Nat)
  | overflow
  deriving Repr, Inhabited

/-- Whether a byte is a decimal digit. -/
def isDigitByte (b : UInt8) : Bool := 48 ≤ b && b ≤ 57

/-- Reads the decimal digits at the start of a format. -/
def readCount (cs : List UInt8) : Count :=
  let rec go : List UInt8 → Nat → Nat → Count
    | c :: rest, acc, used =>
      if isDigitByte c then
        if acc > 1000000 then .overflow else go rest (acc * 10 + (c.toNat - 48)) (used + 1)
      else if used = 0 then .absent else .present acc used
    | [], acc, used => if used = 0 then .absent else .present acc used
  go cs 0 0

/-- What `[n]` at the start of a format gives: the index it names (from zero), how many bytes it
takes, and whether it reads as a number in brackets. Without a closing bracket it takes only the
`[`. -/
def readIndex (cs : List UInt8) : Int × Nat × Bool :=
  if cs.length < 3 then (0, 1, false)
  else
    match (cs.drop 1).findIdx? (· = 93) with
    | none => (0, 1, false)
    | some k =>
      match readCount ((cs.drop 1).take k) with
      | .present n used => if used = k then ((n : Int) - 1, k + 2, true) else (0, k + 2, false)
      | _ => (0, k + 2, false)

/-- The state of printing a format: the arguments, the next one, whether `[n]` was used, whether
the current directive's argument index is good, and the bytes so far. -/
structure Printer where
  args : List Value
  next : Nat := 0
  reordered : Bool := false
  goodIndex : Bool := true
  out : List UInt8 := []

namespace Printer

/-- Appends text to the output. -/
def emit (p : Printer) (s : String) : Printer := { p with out := p.out ++ bytesOf s }

/-- Reads `[n]` if the format goes on with one: moves to that argument when it exists, and marks
the directive's index bad when it does not. Tells whether a good index was read. -/
def index (p : Printer) (cs : List UInt8) : Printer × List UInt8 × Bool :=
  match cs with
  | 91 :: _ =>
    let (i, used, ok) := readIndex cs
    let p := { p with reordered := true }
    if ok ∧ 0 ≤ i ∧ i < p.args.length then ({ p with next := i.toNat }, cs.drop used, true)
    else ({ p with goodIndex := false }, cs.drop used, ok)
  | _ => (p, cs, false)

/-- The integer argument a `*` takes, if the next argument is an integer of at most a million in
size; the argument is used up either way. -/
def star (p : Printer) : Printer × Option Int :=
  match p.args[p.next]? with
  | some (.int n) => ({ p with next := p.next + 1 }, if n.natAbs > 1000000 then none else some n)
  | some (.byte b) => ({ p with next := p.next + 1 }, some b.toNat)
  | some _ => ({ p with next := p.next + 1 }, none)
  | none => (p, none)

/-- Reads the flags of a directive. -/
def flags (spec : Spec) : List UInt8 → Nat → Spec × List UInt8
  | [], _ => (spec, [])
  | cs, 0 => (spec, cs)
  | c :: rest, fuel + 1 =>
    if c = 35 then flags { spec with sharp := true } rest fuel
    else if c = 48 then flags { spec with zero := true } rest fuel
    else if c = 43 then flags { spec with plus := true } rest fuel
    else if c = 45 then flags { spec with minus := true } rest fuel
    else if c = 32 then flags { spec with space := true } rest fuel
    else (spec, c :: rest)

/-- The verb at the start of the rest of a directive and the bytes after it: a character read as
UTF-8, a byte that starts none being the replacement character. -/
def verbOf (b : UInt8) (rest : List UInt8) : Char × List UInt8 :=
  match Text.leadingChar ((b :: rest).map (·.toNat)) with
  | some (c, width) => (c, rest.drop (width - 1))
  | none => ('\uFFFD', rest)

/-- Writes one directive, the format after its `%`: the printer after it, the rest of the format,
and whether the format ends here (an unfinished directive). -/
def directive (p : Printer) (cs : List UInt8) : Printer × List UInt8 × Bool :=
  let p := { p with goodIndex := true }
  let (spec, cs) := flags {} cs cs.length
  let (p, cs, afterIndex) := p.index cs
  -- the width
  let (p, spec, cs, afterIndex) :=
    match cs with
    | 42 :: rest =>
      let (p, n) := p.star
      let p := if n.isNone then p.emit "%!(BADWIDTH)" else p
      let spec := match n with
        | some w =>
          if w < 0 then { spec with width := some w.natAbs, minus := true, zero := false }
          else { spec with width := some w.toNat }
        | none => spec
      (p, spec, rest, false)
    | _ =>
      match readCount cs with
      | .present w used =>
        let p := if afterIndex then { p with goodIndex := false } else p
        (p, { spec with width := some w }, cs.drop used, afterIndex)
      | .absent => (p, spec, cs, afterIndex)
      | .overflow => (p, spec, [], afterIndex)
  -- the precision
  let (p, spec, cs, afterIndex) :=
    match cs with
    | 46 :: rest@(_ :: _) =>
      let p := if afterIndex then { p with goodIndex := false } else p
      let (p, rest, afterIndex) := p.index rest
      match rest with
      | 42 :: more =>
        let (p, n) := p.star
        let n := n.bind fun n => if n < 0 then none else some n.toNat
        let p := if n.isNone then p.emit "%!(BADPREC)" else p
        (p, { spec with precision := n }, more, false)
      | _ =>
        match readCount rest with
        | .present n used => (p, { spec with precision := some n }, rest.drop used, afterIndex)
        | .absent => (p, { spec with precision := some 0 }, rest, afterIndex)
        | .overflow => (p, { spec with precision := some 0 }, [], afterIndex)
    | _ => (p, spec, cs, afterIndex)
  let (p, cs) := if afterIndex then (p, cs) else
    let (p, cs, _) := p.index cs
    (p, cs)
  match cs with
  | [] => (p.emit "%!(NOVERB)", [], true)
  | b :: rest =>
    let (verb, rest) := verbOf b rest
    if verb = '%' then (p.emit "%", rest, false)
    else if !p.goodIndex then (p.emit ("%!" ++ verb.toString ++ "(BADINDEX)"), rest, false)
    else
      match p.args[p.next]? with
      | none => (p.emit ("%!" ++ verb.toString ++ "(MISSING)"), rest, false)
      | some v =>
        let spec := if verb = 'v' ∨ verb = 'w' then
            { spec with sharpV := spec.sharp, sharp := false, plusV := spec.plus, plus := false }
          else spec
        ({ p with out := p.out ++ spec.value verb v, next := p.next + 1 }, rest, false)

/-- Writes a format, at most `fuel` pieces of it. -/
def run : Nat → Printer → List UInt8 → Printer
  | 0, p, _ => p
  | _, p, [] => p
  | fuel + 1, p, cs =>
    let literal := cs.takeWhile (· ≠ 37)
    let p := { p with out := p.out ++ literal }
    match cs.drop literal.length with
    | [] => p
    | _ :: rest =>
      let (p, rest, stop) := p.directive rest
      if stop then p else run fuel p rest

/-- The arguments no directive used, marked as left over. -/
def surplus (p : Printer) : List UInt8 :=
  let rest := p.args.drop p.next
  if p.reordered ∨ rest.isEmpty then []
  else
    let shown := rest.map fun v => match v with
      | .missing | .nil => bytesOf "<nil>"
      | _ => bytesOf (v.typeName ++ "=") ++ ({} : Spec).value 'v' v
    bytesOf "%!(EXTRA " ++ (shown.intersperse (bytesOf ", ")).flatten ++ bytesOf ")"

end Printer

/-- Values written by a format. -/
def sprintf (format : List UInt8) (args : List Value) : List UInt8 :=
  let p := Printer.run (format.length + 1) { args } format
  p.out ++ p.surplus

end StableWatch.Template

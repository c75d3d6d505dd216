import StableWatch.Json.Value
/-!
# Reading JSON text

`JsonValue.parse?` reads a whole JSON text (RFC 8259), or gives none when the text is not one:

* whitespace is space, tab, line feed and carriage return;
* a string holds no character below U+0020, and its escapes are `\"`, `\\`, `\/`, `\b`, `\f`,
  `\n`, `\r`, `\t` and `\u` with four hex digits;
* a number is an optional minus, `0` or digits not starting with `0`, an optional fraction of
  at least one digit, and an optional exponent of at least one digit;
* arrays and objects nest at most 10000 deep.

Every step of the reader consumes a character, so the text's length bounds the fuel.
-/

namespace StableWatch

namespace JsonValue

/-- The deepest nesting of arrays and objects a text may have. -/
def maxDepth : Nat := 10000

/-- Whether a character is JSON whitespace. -/
def isSpace (c : Char) : Bool :=
  c = ' ' || c = '\t' || c = '\n' || c = '\r'

/-- Drops leading whitespace. -/
def skipSpace (cs : List Char) : List Char :=
  cs.dropWhile isSpace

/-- Whether a character is a hex digit. -/
def isHex (c : Char) : Bool :=
  (hexValue c).isSome

/-- The raw characters of a string after its opening quote, kept in reverse in `acc`, with the
rest after the closing quote. -/
def stringBody (acc : List Char) : List Char → Option (List Char × List Char)
  | [] => none
  | '"' :: rest => some (acc.reverse, rest)
  | '\\' :: c :: rest =>
    if c = '"' || c = '\\' || c = '/' || c = 'b' || c = 'f' || c = 'n' || c = 'r' || c = 't' then
      stringBody (c :: '\\' :: acc) rest
    else if c = 'u' then
      match rest with
      | a :: b :: d :: e :: more =>
        if [a, b, d, e].all isHex then stringBody (e :: d :: b :: a :: 'u' :: '\\' :: acc) more
        else none
      | _ => none
    else none
  | ['\\'] => none
  | c :: rest => if c.toNat < 0x20 then none else stringBody (c :: acc) rest

/-- Splits off the leading digits. -/
def digits (cs : List Char) : List Char × List Char :=
  (cs.takeWhile Char.isDigit, cs.dropWhile Char.isDigit)

/-- The literal of a number at the start, with the rest. -/
def numberLiteral (cs : List Char) : Option (List Char × List Char) := do
  let (sign, cs) := match cs with
    | '-' :: rest => (['-'], rest)
    | rest => ([], rest)
  let (whole, cs) ← match cs with
    | '0' :: rest => some (['0'], rest)
    | c :: rest => if c.isDigit then some (c :: (digits rest).1, (digits rest).2) else none
    | [] => none
  let (fraction, cs) ← match cs with
    | '.' :: rest =>
      let (ds, rest) := digits rest
      if ds.isEmpty then none else some ('.' :: ds, rest)
    | rest => some ([], rest)
  let (exponent, cs) ← match cs with
    | e :: rest =>
      if e = 'e' || e = 'E' then
        let (s, rest) := match rest with
          | '+' :: more => (['+'], more)
          | '-' :: more => (['-'], more)
          | more => ([], more)
        let (ds, rest) := digits rest
        if ds.isEmpty then none else some (e :: s ++ ds, rest)
      else some ([], e :: rest)
    | [] => some ([], [])
  pure (sign ++ whole ++ fraction ++ exponent, cs)

mutual

/-- Reads a value at nesting depth `depth`. -/
def value (depth : Nat) : Nat → List Char → Option (JsonValue × List Char)
  | 0, _ => none
  | fuel + 1, cs =>
    match skipSpace cs with
    | '{' :: rest => if depth ≥ maxDepth then none else members (depth + 1) fuel [] true rest
    | '[' :: rest => if depth ≥ maxDepth then none else items (depth + 1) fuel [] true rest
    | '"' :: rest => (stringBody [] rest).map fun (raw, rest) => (.string (String.ofList raw), rest)
    | 't' :: 'r' :: 'u' :: 'e' :: rest => some (.bool true, rest)
    | 'f' :: 'a' :: 'l' :: 's' :: 'e' :: rest => some (.bool false, rest)
    | 'n' :: 'u' :: 'l' :: 'l' :: rest => some (.null, rest)
    | cs => (numberLiteral cs).map fun (lit, rest) => (.number (String.ofList lit), rest)

/-- Reads the items of an array after its opening bracket; `acc` holds those read, in
reverse. -/
def items (depth : Nat) : Nat → List JsonValue → Bool → List Char → Option (JsonValue × List Char)
  | 0, _, _, _ => none
  | fuel + 1, acc, first, cs =>
    match skipSpace cs with
    | ']' :: rest => if first then some (.array [], rest) else none
    | cs =>
      match value depth fuel cs with
      | none => none
      | some (v, rest) =>
        match skipSpace rest with
        | ',' :: rest => items depth fuel (v :: acc) false rest
        | ']' :: rest => some (.array (v :: acc).reverse, rest)
        | _ => none

/-- Reads the members of an object after its opening brace; `acc` holds those read, in
reverse. -/
def members (depth : Nat) :
    Nat → List (String × JsonValue) → Bool → List Char → Option (JsonValue × List Char)
  | 0, _, _, _ => none
  | fuel + 1, acc, first, cs =>
    match skipSpace cs with
    | '\x7d' :: rest => if first then some (.object [], rest) else none
    | '"' :: rest =>
      match stringBody [] rest with
      | none => none
      | some (key, rest) =>
        match skipSpace rest with
        | ':' :: rest =>
          match value depth fuel rest with
          | none => none
          | some (v, rest) =>
            let acc := (String.ofList key, v) :: acc
            match skipSpace rest with
            | ',' :: rest => members depth fuel acc false rest
            | '\x7d' :: rest => some (.object acc.reverse, rest)
            | _ => none
        | _ => none
    | _ => none

end

/-- The value a whole JSON text holds, or none when the text is not JSON. -/
def parse? (text : String) : Option JsonValue :=
  let cs := text.toList
  match value 0 (cs.length + 1) cs with
  | some (v, rest) => if (skipSpace rest).isEmpty then some v else none
  | none => none

end JsonValue

end StableWatch

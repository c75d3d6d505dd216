/-!
# JSON values as written

A `JsonValue` keeps a JSON text's structure with its leaves as written: a number keeps its
literal, and a string keeps the characters between its quotes, escapes and all. Objects keep
their members in order, repeated keys included, since a decoder reads them in that order and a
later member overrides an earlier one.

`JsonValue.unescape` turns a string's raw text into the text it stands for. A `\u` escape of a
UTF-16 surrogate pair gives the pair's character; a surrogate that is not part of a pair gives
U+FFFD.

`JsonValue.foldKey` is the case folding under which an object key names a field: ASCII
letters fold to upper case, and `ſ` and the Kelvin sign `K` fold with `S` and `K`.
-/

namespace StableWatch

/-- A JSON value with its leaves as written. -/
inductive JsonValue where
  | null
  | bool (b : Bool)
  /-- A number, by its literal. -/
  | number (literal : String)
  /-- A string, by the raw text between its quotes. -/
  | string (raw : String)
  | array (items : List JsonValue)
  | object (members : List (String × JsonValue))
  deriving Repr, Inhabited

namespace JsonValue

/-- The value of a hex digit. -/
def hexValue (c : Char) : Option Nat :=
  if '0' ≤ c && c ≤ '9' then some (c.toNat - '0'.toNat)
  else if 'a' ≤ c && c ≤ 'f' then some (c.toNat - 'a'.toNat + 10)
  else if 'A' ≤ c && c ≤ 'F' then some (c.toNat - 'A'.toNat + 10)
  else none

/-- The code unit of four hex digits. -/
def unit4 : List Char → Option Nat
  | [a, b, c, d] => do
    let a ← hexValue a
    let b ← hexValue b
    let c ← hexValue c
    let d ← hexValue d
    pure (((a * 16 + b) * 16 + c) * 16 + d)
  | _ => none

/-- Whether a code unit is a UTF-16 surrogate. -/
def isSurrogate (u : Nat) : Bool :=
  0xD800 ≤ u && u < 0xE000

/-- The text a string's raw characters stand for. -/
def unescapeChars : List Char → List Char
  | '\\' :: c :: rest =>
    match c with
    | 'b' => '\x08' :: unescapeChars rest
    | 'f' => '\x0c' :: unescapeChars rest
    | 'n' => '\n' :: unescapeChars rest
    | 'r' => '\r' :: unescapeChars rest
    | 't' => '\t' :: unescapeChars rest
    | 'u' =>
      match unit4 (rest.take 4) with
      | none => c :: unescapeChars rest
      | some u =>
        let after := rest.drop 4
        if !isSurrogate u then Char.ofNat u :: unescapeChars after
        else
          let low := match after with
            | '\\' :: 'u' :: more => (unit4 (more.take 4)).filter fun l => 0xDC00 ≤ l && l < 0xE000
            | _ => none
          match low with
          | some l =>
            if u < 0xDC00 then
              Char.ofNat (0x10000 + (u - 0xD800) * 1024 + (l - 0xDC00)) ::
                unescapeChars (after.drop 6)
            else '\uFFFD' :: unescapeChars after
          | none => '\uFFFD' :: unescapeChars after
    | other => other :: unescapeChars rest
  | c :: rest => c :: unescapeChars rest
  | [] => []
  termination_by cs => cs.length
  decreasing_by
    all_goals simp only [List.length_drop, List.length_cons]
    all_goals omega

/-- The text a string's raw text stands for. -/
def unescape (raw : String) : String :=
  String.ofList (unescapeChars raw.toList)

/-- The folding under which keys name fields. -/
def foldChar (c : Char) : Char :=
  if 'a' ≤ c && c ≤ 'z' then Char.ofNat (c.toNat - 32)
  else if c = '\u017F' then 'S'
  else if c = '\u212A' then 'K'
  else c

/-- A key folded for naming a field. -/
def foldKey (key : String) : String :=
  String.ofList (key.toList.map foldChar)

/-- Whether an object key names a field. -/
def namesField (key field : String) : Bool :=
  key = field || foldKey key = foldKey field

end JsonValue

end StableWatch

import StableWatch.Json.Value
import StableWatch.Text.Quoted
/-!
# Writing JSON text

`JsonValue.ofText` makes a string value from text, escaping it the way the history file is
written: `"` and `\` by a backslash, line feed, carriage return, tab, backspace and form feed by
their short escapes, every other character below U+0020 and the HTML-sensitive `<`, `>` and
`&` as `\u00XX` with lowercase hex digits, and U+2028 and U+2029 as `\u2028` and `\u2029`. All
other characters are written as they are.

`JsonValue.render` writes a value indented by two spaces per level: every array item and object
member on a line of its own, `"key": value` with one space after the colon, and an empty array
or object as `[]` or `{}`.
-/

namespace StableWatch

namespace JsonValue

/-- How one character is written inside a JSON string. -/
def escapeChar (c : Char) : List Char :=
  if c = '"' then ['\\', '"']
  else if c = '\\' then ['\\', '\\']
  else if c = '\n' then ['\\', 'n']
  else if c = '\r' then ['\\', 'r']
  else if c = '\t' then ['\\', 't']
  else if c = '\x08' then ['\\', 'b']
  else if c = '\x0c' then ['\\', 'f']
  else if c.toNat < 0x20 || c = '<' || c = '>' || c = '&' then
    ['\\', 'u', '0', '0'] ++ Text.hexDigits 2 c.toNat
  else if c = '\u2028' then "\\u2028".toList
  else if c = '\u2029' then "\\u2029".toList
  else [c]

/-- A string value holding a text. -/
def ofText (text : String) : JsonValue :=
  .string (String.ofList (text.toList.flatMap escapeChar))

/-- An array of string values. -/
def ofTexts (texts : List String) : JsonValue :=
  .array (texts.map ofText)

/-- An integer value. -/
def ofInt (n : Int) : JsonValue :=
  .number (toString n)

mutual

/-- The text of a value whose enclosing line is indented by `indent`. -/
def render (indent : String) : JsonValue → String
  | .null => "null"
  | .bool b => if b then "true" else "false"
  | .number literal => literal
  | .string raw => "\"" ++ raw ++ "\""
  | .array [] => "[]"
  | .array (v :: vs) => "[\n" ++ renderItems (indent ++ "  ") (v :: vs) ++ "\n" ++ indent ++ "]"
  | .object [] => "\x7b\x7d"
  | .object (m :: ms) =>
    "\x7b\n" ++ renderMembers (indent ++ "  ") (m :: ms) ++ "\n" ++ indent ++ "\x7d"

/-- Array items, one per line at `indent`, separated by commas. -/
def renderItems (indent : String) : List JsonValue → String
  | [] => ""
  | [v] => indent ++ render indent v
  | v :: vs => indent ++ render indent v ++ ",\n" ++ renderItems indent vs

/-- Object members, one per line at `indent`, separated by commas. -/
def renderMembers (indent : String) : List (String × JsonValue) → String
  | [] => ""
  | [(k, v)] => indent ++ "\"" ++ k ++ "\": " ++ render indent v
  | (k, v) :: ms => indent ++ "\"" ++ k ++ "\": " ++ render indent v ++ ",\n" ++ renderMembers indent ms

end

end JsonValue

end StableWatch

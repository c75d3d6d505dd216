import StableWatch.Number.Format
import StableWatch.Template.Syntax
/-!
# Template values

The values a template computes with: no value at all (what a key the data lacks gives), the
empty interface `nil`, truth values, integers, the bytes indexing a text gives, doubles and
complex numbers of two doubles, text (a string of bytes, which need not be UTF-8), and the data
itself, a map from names to texts.

**Printing.** A value prints the way the standard formatter prints it with `%v`: no value as
`<no value>` where an action prints it, `nil` as `<nil>`, numbers in the shortest form with an
exponent below `1e-4` and from `1e+06` on, a complex number as `(re+imi)`, and the map as
`map[key:value …]` in key order.

**Truth.** No value, `nil`, `false`, zero, the empty text and the empty map are false; everything
else is true.
-/

namespace StableWatch.Template

/-- A value of a template. -/
inductive Value where
  | missing
  | nil
  | bool (b : Bool)
  | int (n : Int)
  /-- One byte of a text, an unsigned number of eight bits. -/
  | byte (b : UInt8)
  | float (x : Binary64)
  | complex (re im : Binary64)
  | string (bytes : List UInt8)
  | map (entries : List (String × String))
  deriving DecidableEq, Repr, Inhabited

namespace Value

/-- The name of a value's type, as messages show it. -/
def typeName : Value → String
  | .missing => "<invalid reflect.Value>"
  | .nil => "interface {}"
  | .bool _ => "bool"
  | .int _ => "int"
  | .byte _ => "uint8"
  | .float .. => "float64"
  | .complex .. => "complex128"
  | .string _ => "string"
  | .map _ => "map[string]string"

/-- Whether a value counts as true. -/
def truth : Value → Bool
  | .missing | .nil => false
  | .bool b => b
  | .int n => n ≠ 0
  | .byte b => b ≠ 0
  | .float x => !x.isZero
  | .complex re im => !re.isZero ∨ !im.isZero
  | .string s => !s.isEmpty
  | .map entries => !entries.isEmpty

end Value

/-- A double in the shortest form: positional while the exponent lies in `[-4, 6)`, otherwise
scientific. `plus` puts a `+` before a number without a sign. -/
def floatText (x : Binary64) (plus : Bool) : String :=
  let s := x.format 'g' none
  if plus ∧ !(s.startsWith "-" ∨ s.startsWith "+") then "+" ++ s else s

/-- How a value prints with `%v`, as text: the bytes of a string read as UTF-8. Messages show
values this way. -/
def Value.text : Value → String
  | .missing => "<no value>"
  | .nil => "<nil>"
  | .bool b => if b then "true" else "false"
  | .int n => toString n
  | .byte b => toString b.toNat
  | .float x => floatText x false
  | .complex re im => "(" ++ floatText re false ++ floatText im true ++ "i)"
  | .string s => Text.ofBytes s
  | .map entries => "map[" ++ " ".intercalate (entries.map fun (k, v) => k ++ ":" ++ v) ++ "]"

/-- The name `call` gives a function it is handed as the value of a pipeline: a text is its own
name, any other value names its type. -/
def Value.calleeName : Value → String
  | .string s => Text.ofBytes s
  | .missing => "<invalid Value>"
  | v => "<" ++ v.typeName ++ " Value>"

/-- The bytes a value prints as with `%v`. -/
def Value.bytes : Value → List UInt8
  | .string s => s
  | v => v.text.toUTF8.toList

/-- Whether a value is `nil` or no value at all. -/
def Value.isNil : Value → Bool
  | .missing | .nil => true
  | _ => false

/-- The string value of a text. -/
def Value.ofString (s : String) : Value := .string s.toUTF8.toList

/-- The value of a numeric constant where nothing asks for a type: a complex number, a float
when written with a point or an exponent, otherwise an integer; an integer beyond 64 signed bits
is refused. -/
def Constant.value (text : String) : Constant → Except String Value
  | .int n => .ok (.int n)
  | .unsigned _ => .error (text ++ " overflows int")
  | .float x => .ok (.float x)
  | .complex re im => .ok (.complex re im)

end StableWatch.Template

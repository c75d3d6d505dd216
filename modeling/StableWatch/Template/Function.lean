import StableWatch.Template.Format
/-!
# Functions of templates

A function takes fixed arguments and possibly any number of further ones, each of one of three
kinds: text, any value (no value arrives as `nil`), or a value as it is (no value stays no
value). The built-in ones:

* `print`, `println`, `printf`: the standard formatter. `print` puts a space between two
  arguments neither of which is text, `println` between all and a line break after them;
  `printf` writes by a format, as `sprintf` says.
* `len` of text (its bytes) or of the map; `index` of the map by a key and of text by a
  position, which gives the byte there; `slice` of text.
* `not`, and comparisons: `eq` of one value with any of the others, `ne`, `lt`, `le`, `gt`,
  `ge` of values of the same basic kind; integers and bytes compare by their values.
* `html`, `js`, `urlquery`: the text of the arguments escaped for HTML, for JavaScript and for a
  URL query.
* `call`: no value here is a function, so it always fails.

`and` and `or` are evaluated by the caller, since they stop at the first argument that decides.
-/

namespace StableWatch.Template

/-- How a function takes an argument. -/
inductive Param where
  | text
  | anything
  | reflected
  deriving DecidableEq, Repr, Inhabited

/-- The name of an argument kind's type, as messages show it. -/
def Param.typeName : Param → String
  | .text => "string"
  | .anything => "interface {}"
  | .reflected => "reflect.Value"

/-- A function: the kinds of its fixed arguments, the kind of its further arguments if it takes
any, and what it gives for its arguments or why it fails. -/
structure Function where
  fixed : List Param
  variadic : Option Param := none
  apply : List Value → Except String Value

/-- The bytes of values printed one after another: a space between two neither of which is
text. -/
def sprint (args : List Value) : List UInt8 :=
  let isText (v : Value) : Bool := match v with | .string _ => true | _ => false
  let rec go : Option Value → List Value → List UInt8
    | _, [] => []
    | prev, v :: rest =>
      let gap := match prev with
        | some p => if !isText p && !isText v then [32] else []
        | none => []
      gap ++ v.bytes ++ go (some v) rest
  go none args

/-- The bytes of values printed with spaces between them and a line break after them. -/
def sprintln (args : List Value) : List UInt8 :=
  ((args.map Value.bytes).intersperse [32]).flatten ++ [10]

/-- The bytes of arguments for the escaping functions: a lone text as it is, otherwise the
arguments printed, `nil` as the text `<no value>`. -/
def escapeInput (args : List Value) : List UInt8 :=
  match args with
  | [.string s] => s
  | _ => sprint (args.map fun v => if v.isNil then Value.ofString "<no value>" else v)

/-- Bytes escaped for HTML: the quotes, `&`, `<` and `>` as entities, a zero byte as the
replacement character. -/
def htmlEscape (s : List UInt8) : List UInt8 :=
  s.flatMap fun b =>
    if b = 34 then bytesOf "&#34;" else if b = 39 then bytesOf "&#39;"
    else if b = 38 then bytesOf "&amp;" else if b = 60 then bytesOf "&lt;"
    else if b = 62 then bytesOf "&gt;" else if b = 0 then bytesOf "\uFFFD" else [b]

/-- Bytes escaped for JavaScript: the quotes, the backslash, `<`, `>`, `&` and `=` escaped, ASCII
controls and characters that are not printable as `\u` and uppercase hex; a byte that starts no
character stays as it is. -/
def jsEscape (s : List UInt8) : List UInt8 :=
  let hex := "0123456789ABCDEF".toList
  (Text.runes (s.map (·.toNat))).flatMap fun r =>
    match r with
    | [b] =>
      if b ≥ 0x80 then [b.toUInt8]
      else
        let c := Char.ofNat b
        bytesOf (if c = '\\' then "\\\\" else if c = '\'' then "\\'" else if c = '"' then "\\\""
          else if c = '<' then "\\u003C" else if c = '>' then "\\u003E" else if c = '&' then "\\u0026"
          else if c = '=' then "\\u003D"
          else if b < 0x20 then
            "\\u00" ++ (hex.getD (b / 16) '0').toString ++ (hex.getD (b % 16) '0').toString
          else c.toString)
    | _ =>
      match Text.leadingChar r with
      | some (c, _) =>
        if Text.isPrintable c then r.map (·.toUInt8)
        else
          let digits := (Nat.toDigits 16 c.toNat).map Char.toUpper
          bytesOf ("\\u" ++ String.ofList (List.replicate (4 - digits.length) '0' ++ digits))
      | none => r.map (·.toUInt8)

/-- Bytes escaped for a URL query: ASCII letters, digits and `-_.~` stay, a space becomes `+`,
every other byte is `%` and two uppercase hex digits. -/
def queryEscape (s : List UInt8) : List UInt8 :=
  let hex := "0123456789ABCDEF".toList
  s.flatMap fun b =>
    let c := Char.ofNat b.toNat
    if b < 0x80 ∧ (c.isAlphanum ∨ c = '-' ∨ c = '_' ∨ c = '.' ∨ c = '~') then [b]
    else if b = 32 then [43]
    else bytesOf ("%" ++ (hex.getD (b.toNat / 16) '0').toString ++
      (hex.getD (b.toNat % 16) '0').toString)

/-- The basic kind of a value for comparisons: none for values that have none. -/
def basicKind : Value → Option Nat
  | .bool _ => some 0
  | .int _ => some 1
  | .byte _ => some 5
  | .float .. => some 2
  | .complex .. => some 3
  | .string _ => some 4
  | _ => none

/-- Whether a value counts as present for comparisons. -/
def Value.isValid : Value → Bool
  | .missing | .nil => false
  | _ => true

/-- The message refusing to compare values of two basic kinds. -/
def incompatible (a b : Value) : String :=
  "incompatible types for comparison: " ++ a.typeName ++ " and " ++ b.typeName

/-- The integer a value holds, signed or a byte. -/
def Value.integer? : Value → Option Int
  | .int n => some n
  | .byte b => some b.toNat
  | _ => none

/-- Whether two values of one basic kind are equal. -/
def equalValues (a b : Value) : Except String Bool :=
  match a, b with
  | .bool x, .bool y => .ok (x = y)
  | .int x, .int y => .ok (x = y)
  | .byte x, .byte y => .ok (x = y)
  | .float x, .float y => .ok (x.equal y)
  | .complex r i, .complex s j => .ok (r.equal s && i.equal j)
  | .string x, .string y => .ok (x = y)
  | x, y =>
    if !x.isValid ∨ !y.isValid then .ok (x.isValid = y.isValid)
    else .error ("non-comparable type " ++ y.text ++ ": " ++ y.typeName)

/-- `eq`: whether the first value equals any of the others. -/
def equalsAny (first : Value) (others : List Value) : Except String Bool :=
  if others.isEmpty then .error "missing argument for comparison"
  else
    others.foldlM (fun found v =>
      if found then .ok true
      else if let (some x, some y) := (first.integer?, v.integer?) then .ok (x = y)
      else if basicKind first ≠ basicKind v then
        if first.isValid ∧ v.isValid then .error (incompatible first v) else .ok false
      else equalValues first v) false

/-- `lt`: whether the first value is below the second. -/
def lessThan (a b : Value) : Except String Bool :=
  match basicKind a, basicKind b with
  | some ka, some kb =>
    if let (some x, some y) := (a.integer?, b.integer?) then .ok (x < y)
    else if ka ≠ kb then .error (incompatible a b)
    else
      match a, b with
      | .int x, .int y => .ok (x < y)
      | .float x, .float y => .ok (x.lessThan y)
      | .string x, .string y => .ok (decide (x < y))
      | _, _ => .error "invalid type for comparison"
  | _, _ => .error "invalid type for comparison"

/-- A position into something of `size` elements. -/
def position (v : Value) (size : Nat) : Except String Nat :=
  match v.integer?, v with
  | some n, _ =>
    if n < 0 ∨ n > size then .error ("index out of range: " ++ toString n) else .ok n.toNat
  | none, .missing | none, .nil => .error "cannot index slice/array with nil"
  | none, _ => .error ("cannot index slice/array with type " ++ v.typeName)

/-- `index`: looks a key up in the map (a missing key gives the empty text) or a position up in
text (giving the byte there). -/
def indexValue (item : Value) (keys : List Value) : Except String Value :=
  if !item.isValid then .error "index of untyped nil"
  else
    keys.foldlM (fun item key =>
      match item with
      | .map entries =>
        match key with
        | .string k =>
          .ok (.string (((entries.find? fun e => bytesOf e.1 = k).map (bytesOf ·.2)).getD []))
        | .missing | .nil => .error "value is nil; should be of type string"
        | _ => .error ("value has type " ++ key.typeName ++ "; should be string")
      | .string bytes => do
        let i ← position key bytes.length
        match bytes[i]? with
        | some b => .ok (.byte b)
        | none => .error "reflect: string index out of range"
      | _ => .error ("can't index item of type " ++ item.typeName)) item

/-- `slice` of text by byte positions. -/
def sliceValue (item : Value) (bounds : List Value) : Except String Value :=
  if !item.isValid then .error "slice of untyped nil"
  else if bounds.length > 3 then .error ("too many slice indexes: " ++ toString bounds.length)
  else
    match item with
    | .string bytes => do
      if bounds.length = 3 then throw "cannot 3-index slice a string"
      let lo ← match bounds with
        | b :: _ => position b bytes.length
        | [] => pure 0
      let hi ← match bounds with
        | _ :: b :: _ => position b bytes.length
        | _ => pure bytes.length
      if lo > hi then throw ("invalid slice index: " ++ toString lo ++ " > " ++ toString hi)
      pure (.string ((bytes.drop lo).take (hi - lo)))
    | _ => .error ("can't slice item of type " ++ item.typeName)

/-- `len` of text or of the map. -/
def lengthOf : Value → Except String Value
  | .string s => .ok (.int s.length)
  | .map entries => .ok (.int entries.length)
  | .missing => .error "reflect: call of reflect.Value.Type on zero Value"
  | .nil => .error "len of nil pointer"
  | v => .error ("len of type " ++ v.typeName)

/-- The built-in functions. -/
def builtins : List (String × Function) :=
  let reflected : List Param := [.reflected]
  let pair : List Param := [.reflected, .reflected]
  let compare (f : Value → Value → Except String Bool) : Function :=
    { fixed := pair, apply := fun args => match args with
        | [a, b] => (f a b).map .bool
        | _ => .error "wrong number of args" }
  [("and", { fixed := reflected, variadic := some .reflected, apply := fun _ => .ok .missing }),
   ("or", { fixed := reflected, variadic := some .reflected, apply := fun _ => .ok .missing }),
   ("not", { fixed := reflected, apply := fun args => .ok (.bool !(args.headD .missing).truth) }),
   ("len", { fixed := reflected, apply := fun args => lengthOf (args.headD .missing) }),
   ("index", { fixed := reflected, variadic := some .reflected,
               apply := fun args => indexValue (args.headD .missing) (args.drop 1) }),
   ("slice", { fixed := reflected, variadic := some .reflected,
               apply := fun args => sliceValue (args.headD .missing) (args.drop 1) }),
   ("print", { fixed := [], variadic := some .anything,
               apply := fun args => .ok (.string (sprint args)) }),
   ("println", { fixed := [], variadic := some .anything,
                 apply := fun args => .ok (.string (sprintln args)) }),
   ("printf", { fixed := [.text], variadic := some .anything, apply := fun args =>
      match args with
      | .string f :: rest => .ok (.string (sprintf f rest))
      | _ => .ok (.string []) }),
   ("html", { fixed := [], variadic := some .anything,
              apply := fun args => .ok (.string (htmlEscape (escapeInput args))) }),
   ("js", { fixed := [], variadic := some .anything,
            apply := fun args => .ok (.string (jsEscape (escapeInput args))) }),
   ("urlquery", { fixed := [], variadic := some .anything,
                  apply := fun args => .ok (.string (queryEscape (escapeInput args))) }),
   ("eq", { fixed := reflected, variadic := some .reflected,
            apply := fun args => (equalsAny (args.headD .missing) (args.drop 1)).map .bool }),
   ("ne", compare fun a b => (equalsAny a [b]).map (!·)),
   ("lt", compare lessThan),
   ("le", compare fun a b => do
      let l ← lessThan a b
      if l then pure true else equalsAny a [b]),
   ("gt", compare fun a b => do
      let l ← lessThan a b
      if l then pure false else (equalsAny a [b]).map (!·)),
   ("ge", compare fun a b => (lessThan a b).map (!·)),
   ("call", { fixed := reflected, variadic := some .reflected, apply := fun args =>
      match args with
      | .string name :: fn :: _ =>
        if fn.isValid then
          .error ("non-function " ++ Text.ofBytes name ++ " of type " ++ fn.typeName)
        else .error "call of nil"
      | _ => .error "call of nil" })]

end StableWatch.Template

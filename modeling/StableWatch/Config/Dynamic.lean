import StableWatch.Text.Quoted
/-!
# Values decoded without a target type

A merge reads the keys of the mapping it merges into without a type to aim at. What such a key
decodes to is a `Dynamic`: null, a boolean, a signed or an unsigned integer, a float, a text, a
timestamp, a map, or a sequence. A map's keys are texts when every key of its mapping is a text
or a merge key, and any values otherwise.

The keys read this way go into a set, so they must be hashable: maps and sequences are not, and
`Dynamic.unhashable` names their type for the runtime error that looking one up raises. Other
values compare as the runtime compares them (`Dynamic.sameKey`): of the same kind and equal, a
not-a-number equal to nothing. `Dynamic.shown` writes a value as an invalid map key is shown:
texts quoted, maps and sequences with their type before their contents.
-/

namespace StableWatch

/-- A value decoded without a target type. -/
inductive Dynamic where
  | null
  | bool (value : Bool)
  /-- An integer of signed 64 bits. -/
  | int (value : Int)
  /-- An integer beyond signed 64 bits, below 2^64. -/
  | uint (value : Nat)
  /-- A float, by its text. -/
  | float (text : String)
  | str (value : String)
  /-- A timestamp, by its text. -/
  | time (text : String)
  /-- A map: whether its keys are texts, and its entries. -/
  | map (textKeys : Bool) (entries : List (Dynamic × Dynamic))
  | seq (items : List Dynamic)
  deriving Repr, Inhabited

namespace Dynamic

/-- The type of a map with the given kind of keys, as the runtime names it. -/
def mapType (textKeys : Bool) : String :=
  if textKeys then "map[string]interface \x7b\x7d"
  else "map[interface \x7b\x7d]interface \x7b\x7d"

/-- The type of a value that cannot be hashed: a map or a sequence. -/
def unhashable : Dynamic → Option String
  | .map textKeys _ => some (mapType textKeys)
  | .seq _ => some "[]interface \x7b\x7d"
  | _ => none

/-- Whether a float's text spells not-a-number. -/
def isNaN (text : String) : Bool :=
  text = ".nan" || text = ".NaN" || text = ".NAN"

/-- Whether two hashable values are the same key. -/
def sameKey : Dynamic → Dynamic → Bool
  | .null, .null => true
  | .bool a, .bool b => a == b
  | .int a, .int b => a == b
  | .uint a, .uint b => a == b
  | .float a, .float b => a == b && !isNaN a
  | .str a, .str b => a == b
  | .time a, .time b => a == b
  | _, _ => false

/-- Whether a key is in a set of keys. -/
def memberOf (set : List Dynamic) (k : Dynamic) : Bool :=
  set.any (sameKey k)

/-- A set of keys with one more key. -/
def insertKey (k : Dynamic) (known : List Dynamic) : List Dynamic :=
  if memberOf known k then known else known ++ [k]

/-- The rank of a kind of value, ordering the keys of a shown map of any keys. -/
def rank : Dynamic → Nat
  | .null => 0
  | .bool _ => 1
  | .int _ => 2
  | .uint _ => 3
  | .float _ => 4
  | .str _ => 5
  | .time _ => 6
  | .map _ _ => 7
  | .seq _ => 8

/-- Whether one key is shown before another: by kind, then by value. -/
def before (a b : Dynamic) : Bool :=
  match a, b with
  | .bool x, .bool y => !x && y
  | .int x, .int y => x < y
  | .uint x, .uint y => x < y
  | .float x, .float y => x < y
  | .str x, .str y => x < y
  | .time x, .time y => x < y
  | _, _ => rank a < rank b

/-- Inserts an entry among entries ordered by key. -/
def insertEntry (e : Dynamic × Dynamic) : List (Dynamic × Dynamic) → List (Dynamic × Dynamic)
  | [] => [e]
  | f :: rest => if before e.1 f.1 then e :: f :: rest else f :: insertEntry e rest

/-- A float's text as the runtime shows the number: infinities and not-a-number by name, and a
decimal without underscores, trailing zeros of its fraction, or a bare point. -/
def floatShown (text : String) : String :=
  let cs := text.toList.filter (· ≠ '_')
  let lower := String.ofList (cs.map Char.toLower)
  if lower = ".nan" then "NaN"
  else if lower = ".inf" || lower = "+.inf" then "+Inf"
  else if lower = "-.inf" then "-Inf"
  else if cs.contains 'e' || cs.contains 'E' || !cs.contains '.' then String.ofList cs
  else
    let trimmed := (cs.reverse.dropWhile (· = '0')).reverse
    let trimmed := if trimmed.getLast? = some '.' then trimmed.dropLast else trimmed
    let trimmed := if trimmed.head? = some '.' then '0' :: trimmed else trimmed
    String.ofList trimmed

/-- The lowercase hex digits of a number, at least one. -/
def hexText (n : Nat) : String :=
  let rec digits : Nat → Nat → List Char
    | 0, _ => []
    | fuel + 1, m => (if m < 16 then [] else digits fuel (m / 16)) ++ [Text.hexDigit (m % 16)]
  String.ofList (digits 17 n)

mutual

/-- A value as an invalid map key shows it. -/
def shown : Dynamic → String
  | .null => "interface \x7b\x7d(nil)"
  | .bool b => if b then "true" else "false"
  | .int i => toString i
  | .uint n => "0x" ++ hexText n
  | .float text => floatShown text
  | .str s => Text.quote s
  | .time text => text
  | .map textKeys entries => mapType textKeys ++ "\x7b" ++ shownEntries entries ++ "\x7d"
  | .seq items => "[]interface \x7b\x7d\x7b" ++ shownItems items ++ "\x7d"

/-- The entries of a map, shown as `key:value` and separated by commas. -/
def shownEntries : List (Dynamic × Dynamic) → String
  | [] => ""
  | [(k, v)] => shown k ++ ":" ++ shown v
  | (k, v) :: rest => shown k ++ ":" ++ shown v ++ ", " ++ shownEntries rest

/-- The items of a sequence, shown and separated by commas. -/
def shownItems : List Dynamic → String
  | [] => ""
  | [v] => shown v
  | v :: rest => shown v ++ ", " ++ shownItems rest

end

/-- A map with its entries in the order the runtime shows them. -/
def sortedMap (textKeys : Bool) (entries : List (Dynamic × Dynamic)) : Dynamic :=
  .map textKeys (entries.foldr insertEntry [])

end Dynamic

end StableWatch

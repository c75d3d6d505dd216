import StableWatch.Path.Basic
/-!
# Glob patterns: shape, validity and base

A tracked location is a glob pattern when it holds one of `*`, `?`, `[` or `{`. In a pattern

* `*` stands for any run of characters within one component, `**` as a whole component for any
  number of components, `?` for one character other than `/`;
* `[...]` is a class of characters (`[!...]` or `[^...]` its complement, `a-z` a range);
* `{x,y}` offers alternatives, which may nest;
* a backslash makes the next character literal.

A pattern is valid when every class is closed and not empty, every brace is matched, and no
backslash ends it (`isValid`). The base of a pattern is its longest leading run of whole
components without an unescaped `*`, `?`, `[` or `{`, with escapes of those characters and of
`]`, `}` removed, and cleaned (`base`): scanning the directory tree from there finds every path the
pattern can match.
-/

namespace StableWatch.Glob

/-- The characters that make a location a pattern. -/
def isMeta (c : Char) : Bool :=
  c = '*' || c = '?' || c = '[' || c = '{'

/-- A location is a pattern when it holds a `*`, `?`, `[` or `{`. -/
def isPattern (location : String) : Bool :=
  location.toList.any isMeta

/-- Where the validity scan stands. -/
inductive Scan where
  /-- outside any class -/
  | plain
  /-- after a backslash outside any class -/
  | plainEscape
  /-- right after `[` -/
  | classOpen
  /-- right after `[!` or `[^` -/
  | classNegated
  /-- inside a class, after its first member -/
  | classBody
  /-- after a backslash inside a class -/
  | classEscape
  deriving DecidableEq, Repr

/-- The scan state after a member character of a class. -/
def Scan.member (c : Char) : Scan :=
  if c = '\\' then .classEscape else if c = ']' then .plain else .classBody

/-- The validity scan: `depth` counts the open braces. -/
def validScan : List Char → Nat → Scan → Bool
  | [], depth, .plain => depth = 0
  | [], _, _ => false
  | c :: rest, depth, .plain =>
    if c = '\\' then validScan rest depth .plainEscape
    else if c = '[' then validScan rest depth .classOpen
    else if c = '{' then validScan rest (depth + 1) .plain
    else if c = '}' then (depth ≠ 0) && validScan rest (depth - 1) .plain
    else validScan rest depth .plain
  | _ :: rest, depth, .plainEscape => validScan rest depth .plain
  | c :: rest, depth, .classOpen =>
    if c = '^' || c = '!' then validScan rest depth .classNegated
    else if c = ']' then false
    else validScan rest depth (Scan.member c)
  | c :: rest, depth, .classNegated =>
    if c = ']' then false else validScan rest depth (Scan.member c)
  | c :: rest, depth, .classBody => validScan rest depth (Scan.member c)
  | _ :: rest, depth, .classEscape => validScan rest depth .classBody

/-- Every class is closed and not empty, every brace matched, and no backslash ends the
pattern. -/
def isValidChars (pattern : List Char) : Bool :=
  validScan pattern 0 .plain

/-- A valid pattern, in the sense of `isValidChars`. -/
def isValid (pattern : String) : Bool :=
  isValidChars pattern.toList

/-- The position of the last slash before the first unescaped `*`, `?`, `[` or `{`, counting
from `pos`; a backslash hides the character after it. -/
def lastSlashBeforeMeta : List Char → Nat → Option Nat → Option Nat
  | [], _, found => found
  | c :: rest, pos, found =>
    if c = '\\' then
      match rest with
      | [] => found
      | _ :: more => lastSlashBeforeMeta more (pos + 2) found
    else if c = '/' then lastSlashBeforeMeta rest (pos + 1) (some pos)
    else if isMeta c then found
    else lastSlashBeforeMeta rest (pos + 1) found

/-- Removes the backslash before each escaped `*`, `?`, `[`, `]`, `{` or `}`. -/
def unescapeMeta : List Char → List Char
  | [] => []
  | '\\' :: c :: rest =>
    if isMeta c || c = ']' || c = '}' then c :: unescapeMeta rest
    else '\\' :: unescapeMeta (c :: rest)
  | c :: rest => c :: unescapeMeta rest

/-- The leading directory of a pattern before any pattern character: the root when the only
slash before one is the first character, `.` when there is none. -/
def splitBase (pattern : List Char) : List Char :=
  match lastSlashBeforeMeta pattern 0 none with
  | some 0 => ['/']
  | some idx => unescapeMeta (pattern.take idx)
  | none => ['.']

/-- The directory below which every match of a pattern lies, cleaned. -/
def base (pattern : String) : String :=
  Path.clean (String.ofList (splitBase pattern.toList))

end StableWatch.Glob

/-!
# Slash-separated path text

Paths are text in which `/` separates components. This module gives the lexical operations the
rest of the library relies on, none of which looks at a file system:

* `clean`: the shortest text naming the same path by purely lexical rules (no empty or `.`
  components, `..` only at the front of a relative path, no trailing `/`), `.` for the empty path;
* `dir`: everything up to the last `/`, cleaned;
* `join`: the non-empty parts glued with `/`, cleaned;
* `isAbs`, `withSeparator`, `isAncestor` and `rel`.

The cleaning works on the characters of the text: pieces between slashes are pushed on a stack of
kept components, where `..` removes the component under it. A rooted path has no parent of its
root, so there a leading `..` disappears; a relative path keeps it.
-/

namespace StableWatch.Path

/-- The pieces between the slashes of a text, empty pieces included. -/
def pieces : List Char → List (List Char)
  | [] => [[]]
  | c :: rest =>
    if c = '/' then [] :: pieces rest
    else
      match pieces rest with
      | [] => [[c]]
      | piece :: more => (c :: piece) :: more

/-- Components glued back together with single slashes. -/
def joinPieces : List (List Char) → List Char
  | [] => []
  | [piece] => piece
  | piece :: more => piece ++ '/' :: joinPieces more

/-- The component `..`. -/
def parentPiece : List Char := ['.', '.']

/-- One step of cleaning: push a piece on the stack of kept components (top first). Empty pieces
and `.` are dropped; `..` removes a kept name below it, stays when only `..` is below it in a
relative path, and vanishes at the root of a rooted path. -/
def push (rooted : Bool) (stack : List (List Char)) (piece : List Char) : List (List Char) :=
  if piece = [] ∨ piece = ['.'] then stack
  else if piece = parentPiece then
    match stack with
    | [] => if rooted then [] else [parentPiece]
    | top :: rest => if top = parentPiece then parentPiece :: stack else rest
  else piece :: stack

/-- The kept components of a text, outermost first. -/
def components (rooted : Bool) (text : List Char) : List (List Char) :=
  ((pieces text).foldl (push rooted) []).reverse

/-- Cleaning on characters: a rooted text keeps its leading slash, an empty relative result is
`.`. -/
def cleanChars (text : List Char) : List Char :=
  let rooted := text.head? = some '/'
  let body := joinPieces (components rooted text)
  if rooted then '/' :: body
  else if body = [] then ['.'] else body

/-- The lexically shortest text for the same path. -/
def clean (path : String) : String :=
  String.ofList (cleanChars path.toList)

/-- Everything up to and including the last slash (nothing if there is none). -/
def throughLastSlash (text : List Char) : List Char :=
  (text.reverse.dropWhile (· ≠ '/')).reverse

/-- The parent directory: the text up to the last slash, cleaned. A text without slash has the
parent `.`; the root is its own parent. -/
def dir (path : String) : String :=
  String.ofList (cleanChars (throughLastSlash path.toList))

/-- The parts from the first non-empty one on, glued with slashes and cleaned; the empty text
when every part is empty. -/
def join (parts : List String) : String :=
  match parts.dropWhile (· = "") with
  | [] => ""
  | rest => clean ("/".intercalate rest)

/-- `join` of paths given as bytes, which need not spell UTF-8: each byte stands for itself, since
only the ASCII `/` and `.` mean something to a path. -/
def joinBytes (parts : List (List UInt8)) : List UInt8 :=
  match parts.dropWhile (·.isEmpty) with
  | [] => []
  | rest =>
    (cleanChars (joinPieces (rest.map (·.map fun b => Char.ofNat b.toNat)))).map
      (·.toNat.toUInt8)

/-- A path is absolute when it starts at the root. -/
def isAbs (path : String) : Bool :=
  path.toList.head? = some '/'

/-- The path with exactly one trailing slash added unless it already ends in one. -/
def withSeparator (path : String) : String :=
  if path.toList.getLast? = some '/' then path else path ++ "/"

/-- `descendant` lies strictly below `ancestor`: it differs from it and starts with the ancestor
followed by a slash. Both are meant to be clean. -/
def isAncestor (ancestor descendant : String) : Bool :=
  ancestor != descendant &&
    (withSeparator ancestor).toList.isPrefixOf descendant.toList

/-- The components of a clean path below its root, for comparing two of them. -/
def relPieces (text : List Char) : List (List Char) :=
  match text with
  | '/' :: rest => if rest = [] then [] else pieces rest
  | _ => pieces text

/-- Drops the common leading components of two component lists. -/
def dropCommon : List (List Char) → List (List Char) → List (List Char) × List (List Char)
  | a :: as, b :: bs => if a = b then dropCommon as bs else (a :: as, b :: bs)
  | as, bs => (as, bs)

/-- The relative path that leads from `base` to `target`, after cleaning both: up with `..` for
every component of `base` left after the common ones, then down along `target`. A base of `.`
has no components, while a target of `.` keeps its one. It does not exist when one path is
absolute and the other is not, or when the way up would have to pass a `..` of `base`. -/
def rel (base target : String) : Option String :=
  let b := cleanChars base.toList
  let t := cleanChars target.toList
  if b = t then some "."
  else if (b.head? = some '/') != (t.head? = some '/') then none
  else
    let basePieces := if b = ['.'] then [] else relPieces b
    match dropCommon basePieces (relPieces t) with
    | (up, down) =>
      if up.head? = some parentPiece then none
      else
        let steps := up.map (fun _ => parentPiece) ++ down
        some (String.ofList (joinPieces steps))

end StableWatch.Path

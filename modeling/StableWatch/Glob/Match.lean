import StableWatch.Glob.Pattern
/-!
# Matching a path against a glob pattern

The matcher walks pattern and path from the left. It remembers the last `*` it passed (to let
that star take one more character of the current component when something later fails) and the
last `**/` (to let it take one more whole component). Braces are expanded where they stand: each
alternative is tried in order in place of the braces, with the same remembered positions.

At the end of the path, the rest of the pattern must be able to match nothing: it is empty, `*`,
`**`, `/**`, `**/` or `/**/`, or braces one of whose alternatives followed by the rest can. A
pattern that turns out to be malformed while matching is an error (`none`).

Every step moves forward in the pattern or the path, or moves a remembered position forward, so
the number of steps is bounded by the product in `Glob.pathMatches`; that bound is the fuel.
-/

namespace StableWatch.Glob

/-- The position of the brace that closes the one opened just before the text, skipping escaped
characters. -/
def closingBrace (text : List Char) : Option Nat :=
  go text 0 1
where
  go : List Char → Nat → Nat → Option Nat
    | [], _, _ => none
    | '\\' :: rest, pos, depth =>
      match rest with
      | [] => none
      | _ :: more => go more (pos + 2) depth
    | '{' :: rest, pos, depth => go rest (pos + 1) (depth + 1)
    | '}' :: rest, pos, depth => if depth = 1 then some pos else go rest (pos + 1) (depth - 1)
    | _ :: rest, pos, depth => go rest (pos + 1) depth

/-- The position of the next comma that separates alternatives at the outer level of the text,
skipping escaped characters and nested braces. -/
def nextComma (text : List Char) : Option Nat :=
  go text 0 1
where
  go : List Char → Nat → Int → Option Nat
    | [], _, _ => none
    | '\\' :: rest, pos, depth =>
      match rest with
      | [] => none
      | _ :: more => go more (pos + 2) depth
    | '{' :: rest, pos, depth => go rest (pos + 1) (depth + 1)
    | '}' :: rest, pos, depth => go rest (pos + 1) (depth - 1)
    | ',' :: rest, pos, depth => if depth = 1 then some pos else go rest (pos + 1) depth
    | _ :: rest, pos, depth => go rest (pos + 1) depth

/-- The position of the first unescaped occurrence of a character. -/
def unescapedIndex (target : Char) : List Char → Nat → Option Nat
  | [], _ => none
  | '\\' :: rest, pos =>
    match rest with
    | [] => none
    | _ :: more => unescapedIndex target more (pos + 2)
  | c :: rest, pos => if c = target then some pos else unescapedIndex target rest (pos + 1)

/-- The alternatives between an opening brace and its closing brace, as text ranges. -/
def alternatives (inner : List Char) : List (List Char) :=
  go inner.length inner
where
  go : Nat → List Char → List (List Char)
    | 0, rest => [rest]
    | fuel + 1, rest =>
      match nextComma rest with
      | some idx => rest.take idx :: go fuel (rest.drop (idx + 1))
      | none => [rest]

/-- Tries alternatives in order: a match or an error decides, otherwise the next one is tried;
the last one's answer stands. -/
def tryEach (attempt : List Char → Option Bool) : List (List Char) → Option Bool
  | [] => some false
  | [last] => attempt last
  | alt :: more =>
    match attempt alt with
    | some false => tryEach attempt more
    | other => other

/-- The rest of a pattern matches the empty remainder of a path. Each expansion of braces makes
the pattern shorter, so its length bounds the depth. -/
def matchesNothing : Nat → List Char → Option Bool
  | 0, _ => some false
  | fuel + 1, pattern =>
    if pattern = [] || pattern = ['*'] || pattern = ['*', '*'] || pattern = ['/', '*', '*'] ||
        pattern = ['*', '*', '/'] || pattern = ['/', '*', '*', '/'] then some true
    else
      match pattern with
      | '{' :: inner =>
        match closingBrace inner with
        | none => none
        | some close =>
          let rest := inner.drop (close + 1)
          tryEach (fun alt => matchesNothing fuel (alt ++ rest)) (alternatives (inner.take close))
      | _ => if isValidChars pattern then some false else none

/-- Where the matcher stands: positions in pattern and path, the remembered star and double
star, and whether the pattern position starts a component. -/
structure Cursor where
  patIdx : Nat
  nameIdx : Nat
  starPat : Option Nat := none
  starName : Nat := 0
  globPat : Option Nat := none
  globName : Nat := 0
  segmentStart : Bool := true
  deriving DecidableEq, Repr

/-- What one step decided. -/
inductive Step where
  /-- go on from this cursor -/
  | next (cursor : Cursor)
  /-- the character here does not match; fall back from this cursor -/
  | miss (cursor : Cursor)
  /-- the answer is known -/
  | done (answer : Option Bool)

/-- The members of a class, from just after `[` or `[!`, against one path character: whether it
is a member, and the position reached. A range `a-z` needs a member before the dash, and the
last code point U+10FFFF marks the lack of one, so after it a dash is a member; a backslash makes
the next member literal, and one at the very end stands for the replacement character. -/
def classScan (pat : Array Char) (c : Char) : Nat → Nat → Option Char → Bool × Nat
  | 0, pos, _ => (false, pos)
  | fuel + 1, pos, last =>
    match pat[pos]? with
    | none => (false, pos)
    | some ']' => (false, pos)
    | some member =>
      let pos := pos + 1
      let literalAt (pos : Nat) : Char × Nat :=
        match pat[pos]? with
        | some e => (e, pos + 1)
        | none => ('\uFFFD', pos)
      if last.isSome && member = '-' && pos < pat.size && pat[pos]? != some ']' then
        let pos := if pat[pos]? = some '\\' then pos + 1 else pos
        let (high, pos) := literalAt pos
        if last.getD c ≤ c ∧ c ≤ high then (true, pos) else classScan pat c fuel pos none
      else
        let (member, pos) := if member = '\\' then literalAt pos else (member, pos)
        if member = c then (true, pos)
        else classScan pat c fuel pos (if member.toNat = 0x10FFFF then none else some member)

/-- One step at a cursor whose path position is inside the path. -/
def step (pat name : Array Char) (cur : Cursor) : Step :=
  match pat[cur.patIdx]?, name[cur.nameIdx]? with
  | none, _ => .miss cur
  | _, none => .miss cur
  | some p, some n =>
    if p = '*' then
      let afterOne := cur.patIdx + 1
      let single (resume : Nat) : Step :=
        .next { cur with patIdx := resume, starPat := some resume, starName := cur.nameIdx,
                         segmentStart := false }
      if pat[afterOne]? = some '*' then
        let afterTwo := afterOne + 1
        if cur.segmentStart then
          match pat[afterTwo]? with
          | none => .done (some true)
          | some '/' =>
            .next { cur with patIdx := afterTwo + 1, globPat := some (afterTwo + 1),
                             globName := cur.nameIdx, starPat := none, starName := 0 }
          | some _ => single afterTwo
        else single afterTwo
      else single afterOne
    else if p = '?' then
      if n = '/' then .miss { cur with segmentStart := false }
      else .next { cur with patIdx := cur.patIdx + 1, nameIdx := cur.nameIdx + 1,
                            segmentStart := false }
    else if p = '[' then
      let start := cur.patIdx + 1
      match pat[start]? with
      | none => .done none
      | some first =>
        let negate := first = '!' || first = '^'
        let start := if negate then start + 1 else start
        if start ≥ pat.size ∨ pat[start]? = some ']' then .done none
        else
          let (member, pos) := classScan pat n pat.size start none
          if member = negate then
            if pos ≥ pat.size then .done none
            else .miss { cur with patIdx := pos, segmentStart := false }
          else
            match unescapedIndex ']' (pat.toList.drop pos) 0 with
            | none => .done none
            | some close =>
              .next { cur with patIdx := pos + close + 1, nameIdx := cur.nameIdx + 1,
                               segmentStart := false }
    else if p = '\\' ∧ pat.size ≤ cur.patIdx + 1 then .done none
    else
      let here := if p = '\\' then cur.patIdx + 1 else cur.patIdx
      let literal := pat[here]?.getD p
      if literal = n then
        .next { cur with patIdx := here + 1, nameIdx := cur.nameIdx + 1,
                         segmentStart := literal = '/' }
      else
        let back := if 0 < here ∧ pat[here - 1]? = some '\\' then here - 1 else here
        .miss { cur with patIdx := back }

/-- After a miss: let the last star take one more character of its component, else let the
last double star take one more component; otherwise the match fails, or the rest of the pattern
is malformed. -/
def fallBack (pat name : Array Char) (cur : Cursor) : Cursor ⊕ Option Bool :=
  let fromStar : Option Cursor :=
    match cur.starPat, name[cur.starName]? with
    | some sp, some c =>
      if c ≠ '/' then
        some { cur with starName := cur.starName + 1, patIdx := sp, nameIdx := cur.starName + 1,
                        segmentStart := false }
      else none
    | _, _ => none
  let fromGlob : Option Cursor :=
    match cur.globPat with
    | some gp =>
      let skipped := (name.toList.drop cur.globName).takeWhile (· ≠ '/')
      let resume := cur.globName + skipped.length + 1
      if resume ≤ name.size then
        some { cur with nameIdx := resume, globName := resume, patIdx := gp, segmentStart := true }
      else none
    | none => none
  match fromStar.or fromGlob with
  | some next => .inl next
  | none =>
    if cur.patIdx < pat.size ∧ !isValidChars (pat.toList.drop cur.patIdx) then .inr none
    else .inr (some false)

/-- The matcher's loop with at most `fuel` steps; braces restart it on the expanded pattern. -/
def run : Nat → Array Char → Array Char → Cursor → Option Bool
  | 0, _, _, _ => some false
  | fuel + 1, pat, name, cur =>
    if cur.nameIdx < name.size then
      if pat[cur.patIdx]? = some '{' then
        let before := cur.patIdx
        let inner := pat.toList.drop (before + 1)
        match closingBrace inner with
        | none => none
        | some close =>
          let head := pat.toList.take before
          let tail := inner.drop (close + 1)
          let start := { cur with patIdx := before, segmentStart := true }
          tryEach (fun alt => run fuel (head ++ alt ++ tail).toArray name start)
            (alternatives (inner.take close))
      else
        match step pat name cur with
        | .next cur => run fuel pat name cur
        | .done answer => answer
        | .miss cur =>
          match fallBack pat name cur with
          | .inl cur => run fuel pat name cur
          | .inr answer => answer
    else matchesNothing (pat.size + 1) (pat.toList.drop cur.patIdx)

/-- Whether a path matches a pattern; `none` when the pattern is malformed. -/
def pathMatches (pattern path : String) : Option Bool :=
  let pat := pattern.toList.toArray
  let name := path.toList.toArray
  let fuel := 2 * (name.size + 2) * (name.size + 2) * (pat.size + name.size + 2)
  run fuel pat name { patIdx := 0, nameIdx := 0 }

end StableWatch.Glob

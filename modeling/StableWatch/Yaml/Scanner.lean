import StableWatch.Yaml.Input
import StableWatch.Yaml.Token
/-!
# Scanning YAML text into tokens

The scanner turns characters into tokens on demand. It keeps a queue of tokens not yet taken by
the parser, and fetches more whenever the parser looks at the queue after taking a token:

* it keeps at least three tokens queued, and
* while the first queued token may still turn out to start a key without `?` (a simple key), it
  keeps fetching until the key is settled: a `:` on the same line, within 1024 characters, makes
  it a key, and the scanner then inserts a `key` token (and a `blockMappingStart` token when the
  key opens a new indentation level) before it.

Because of this look-ahead a scanner error a few tokens ahead can stop reading before the parser
would have complained about an earlier token.

Block structure comes from indentation: a key or entry at a deeper column opens a level
(`blockMappingStart`, `blockSequenceStart`) and a line at a shallower column closes levels
(`blockEnd`). Inside brackets indentation does not count.

Every loop of the scanner consumes text and is given the length of the remaining text as fuel.
-/

namespace StableWatch.Yaml

/-- A place where a simple key may begin: whether it still may, whether it must (a plain key at
the indentation of its block), the number of the token it would stand before, and its position. -/
structure SimpleKey where
  possible : Bool := false
  required : Bool := false
  tokenNumber : Nat := 0
  mark : Mark := {}
  deriving DecidableEq, Repr, Inhabited

/-- The state of the scanner. -/
structure Scanner where
  /-- The text not yet scanned. -/
  rest : List Char
  mark : Mark := {}
  /-- Line breaks consumed since the last character that is not blank. -/
  newlines : Nat := 0
  /-- Tokens fetched and not yet taken, first first. -/
  queue : List Token := []
  /-- Tokens taken so far. -/
  parsed : Nat := 0
  /-- Whether the queue was settled since a token was last taken. -/
  available : Bool := false
  started : Bool := false
  indent : Int := -1
  /-- Enclosing indentation levels, innermost first. -/
  indents : List Int := []
  simpleKeyAllowed : Bool := false
  /-- One simple key per bracket level, innermost first. -/
  simpleKeys : List SimpleKey := []
  flowLevel : Nat := 0
  /-- How many characters the reader gives before it refuses, and why; none when it gives all
  of them. -/
  refusal : Option (Nat × String) := none
  deriving Repr, Inhabited

/-- Scanning steps: they change the scanner or stop with a syntax error. -/
abbrev ScanM := StateT Scanner (Except SyntaxError)

namespace Scanner

/-- A space or a tab. -/
def isBlank (c : Char) : Bool := c = ' ' || c = '\t'

/-- A line break: CR, LF, NEL, LS or PS. -/
def isBreak (c : Char) : Bool :=
  c = '\r' || c = '\n' || c = '\x85' || c = '\u2028' || c = '\u2029'

/-- A blank, a line break, or the end of the text. -/
def blankZ : Option Char → Bool
  | none => true
  | some c => isBlank c || isBreak c

/-- A line break or the end of the text. -/
def breakZ : Option Char → Bool
  | none => true
  | some c => isBreak c

/-- A character of an anchor name, a tag handle or a directive name. -/
def isWordChar (c : Char) : Bool :=
  ('0' ≤ c && c ≤ '9') || ('A' ≤ c && c ≤ 'Z') || ('a' ≤ c && c ≤ 'z') || c = '_' || c = '-'

/-- A hexadecimal digit. -/
def isHexDigit (c : Char) : Bool :=
  ('0' ≤ c && c ≤ '9') || ('A' ≤ c && c ≤ 'F') || ('a' ≤ c && c ≤ 'f')

/-- The value of a hexadecimal digit. -/
def hexValue (c : Char) : Nat :=
  if c ≤ '9' then c.toNat - '0'.toNat
  else if c ≤ 'F' then c.toNat - 'A'.toNat + 10
  else c.toNat - 'a'.toNat + 10

/-- Whether the text starts with a document marker `---` or `...` followed by a blank or the
end. -/
def atDocumentIndicator (rest : List Char) : Bool :=
  match rest with
  | a :: b :: c :: more =>
    ((a = '-' && b = '-' && c = '-') || (a = '.' && b = '.' && c = '.')) && blankZ more.head?
  | _ => false

/-- The character `n` places ahead. -/
def peekAt (n : Nat) : ScanM (Option Char) := return (← get).rest[n]?

/-- Whether the reader gives the next `n` characters. -/
def canRead (n : Nat) : ScanM Bool := do
  let s ← get
  pure (match s.refusal with
    | some (limit, _) => s.mark.index + n ≤ limit
    | none => true)

/-- Asks the reader for the next `n` characters: reading stops when they reach the window the
reader refuses. -/
def need (n : Nat) : ScanM Unit := do
  if !(← canRead n) then
    throw { stage := .reader, problem := ((← get).refusal.map (·.2)).getD "" }

/-- Moves past one character that is not a line break. -/
def skip : ScanM Unit := modify fun s =>
  match s.rest with
  | [] => s
  | c :: rest =>
    { s with rest, newlines := if isBlank c then s.newlines else 0,
             mark := { s.mark with index := s.mark.index + 1, column := s.mark.column + 1 } }

/-- Moves past `n` characters that are not line breaks. -/
def skipN : Nat → ScanM Unit
  | 0 => pure ()
  | n + 1 => do skip; skipN n

/-- Moves past a line break, CR LF counting as one. -/
def skipLine : ScanM Unit := modify fun s =>
  let next (rest : List Char) (width : Nat) : Scanner :=
    { s with rest, newlines := s.newlines + 1,
             mark := { index := s.mark.index + width, line := s.mark.line + 1, column := 0 } }
  match s.rest with
  | '\r' :: '\n' :: rest => next rest 2
  | c :: rest => if isBreak c then next rest 1 else s
  | [] => s

/-- Moves past a line break and gives it as it stands in a scalar: CR, LF, CR LF and NEL become
LF, LS and PS stay. Gives nothing when no line break is next. -/
def readLine : ScanM (List Char) := do
  let s ← get
  match s.rest with
  | '\r' :: '\n' :: _ => skipLine; pure ['\n']
  | c :: _ =>
    if c = '\u2028' || c = '\u2029' then do skipLine; pure [c]
    else if isBreak c then do skipLine; pure ['\n']
    else pure []
  | [] => pure []

/-- Stops with a scanner error, its problem at the current position. -/
def fail {α : Type} (context : String) (contextMark : Mark) (problem : String) : ScanM α := do
  let s ← get
  throw { stage := .scanner, context, contextMark, problem, problemMark := s.mark }

/-- Queues a token last. -/
def append (t : Token) : ScanM Unit :=
  modify fun s => { s with queue := s.queue ++ [t] }

/-- Queues a token at a place of the queue. -/
def insertAt (pos : Nat) (t : Token) : ScanM Unit :=
  modify fun s => { s with queue := s.queue.take pos ++ t :: s.queue.drop pos }

/-- Gives up the simple key of the current level; a required one cannot be given up. -/
def removeSimpleKey : ScanM Unit := do
  let s ← get
  match s.simpleKeys with
  | k :: rest =>
    if k.possible then
      if k.required then fail "while scanning a simple key" k.mark "could not find expected ':'"
      else set { s with simpleKeys := { k with possible := false } :: rest }
  | [] => pure ()

/-- Records that a simple key may start here, when one may. -/
def saveSimpleKey : ScanM Unit := do
  let s ← get
  if s.simpleKeyAllowed then
    let key : SimpleKey :=
      { possible := true, required := s.flowLevel == 0 && s.indent == (s.mark.column : Int),
        tokenNumber := s.parsed + s.queue.length, mark := s.mark }
    removeSimpleKey
    modify fun s => { s with simpleKeys := key :: s.simpleKeys.drop 1 }

/-- Enters a bracket level. -/
def increaseFlowLevel : ScanM Unit := do
  let s ← get
  let s := { s with simpleKeys := { mark := s.mark } :: s.simpleKeys, flowLevel := s.flowLevel + 1 }
  set s
  if s.flowLevel > 10000 then
    fail "while increasing flow level" s.mark "exceeded max depth of 10000"

/-- Leaves a bracket level. -/
def decreaseFlowLevel : ScanM Unit := modify fun s =>
  if s.flowLevel > 0 then { s with flowLevel := s.flowLevel - 1, simpleKeys := s.simpleKeys.drop 1 }
  else s

/-- Opens an indentation level at `column` if it is deeper than the current one, queueing `kind`
last or before the token numbered `number`. -/
def rollIndent (column : Int) (number : Option Nat) (kind : TokenKind) (mark : Mark) :
    ScanM Unit := do
  let s ← get
  if s.flowLevel = 0 && s.indent < column then
    set { s with indents := s.indent :: s.indents, indent := column }
    if s.indents.length + 1 > 10000 then
      fail "while increasing indent level" ((s.simpleKeys.head?.map (·.mark)).getD {})
        "exceeded max depth of 10000"
    let t : Token := { kind, start := mark, stop := mark }
    match number with
    | none => append t
    | some n => insertAt (n - s.parsed) t

/-- Closes the indentation levels deeper than `column`, at most `fuel` of them. -/
def unrollLoop (column : Int) (blockMark : Mark) : Nat → ScanM Unit
  | 0 => pure ()
  | fuel + 1 => do
    let s ← get
    if s.indent > column then
      append { kind := .blockEnd, start := blockMark, stop := blockMark }
      modify fun s => { s with indent := s.indents.headD (-1), indents := s.indents.drop 1 }
      unrollLoop column blockMark fuel

/-- Closes the indentation levels deeper than `column`; the `blockEnd` tokens stand just before
`scanMark`. Inside brackets nothing happens. -/
def unrollIndent (column : Int) (scanMark : Mark) : ScanM Unit := do
  let s ← get
  if s.flowLevel = 0 then
    unrollLoop column { scanMark with index := scanMark.index - 1 } (s.indents.length + 1)

/-- Starts the stream. -/
def fetchStreamStart : ScanM Unit := do
  modify fun s => { s with indent := -1, simpleKeys := [{}], simpleKeyAllowed := true,
                           started := true }
  let s ← get
  append { kind := .streamStart, start := s.mark, stop := s.mark }

/-- Ends the stream, on a new line. -/
def fetchStreamEnd : ScanM Unit := do
  modify fun s =>
    if s.mark.column ≠ 0 then { s with mark := { s.mark with column := 0, line := s.mark.line + 1 } }
    else s
  unrollIndent (-1) (← get).mark
  removeSimpleKey
  modify fun s => { s with simpleKeyAllowed := false }
  let s ← get
  append { kind := .streamEnd, start := s.mark, stop := s.mark }

/-- Skips spaces, and tabs where they may separate tokens, at most `fuel` of them. -/
def skipSpaces : Nat → ScanM Unit
  | 0 => pure ()
  | fuel + 1 => do
    let s ← get
    match s.rest.head? with
    | some ' ' => skip; need 1; skipSpaces fuel
    | some '\t' =>
      if s.flowLevel > 0 || !s.simpleKeyAllowed then do skip; need 1; skipSpaces fuel else pure ()
    | _ => pure ()

/-- Skips characters up to a line break or the end, at most `fuel` of them. -/
def skipToBreak : Nat → ScanM Unit
  | 0 => pure ()
  | fuel + 1 => do
    need 1
    if breakZ (← peekAt 0) then pure () else do skip; skipToBreak fuel

/-- Where the next comment starts after the comment just consumed: looking from the second
character on (the first is the line break ending the comment) over spaces, tabs, carriage
returns and line feeds, within 511 characters and the `reach` characters the reader gives, the
index of a `#`; none when another character, the end of the text or the end of the look comes
first. -/
def laterComment (rest : List Char) (reach : Nat) : Option Nat :=
  let ahead := (rest.drop 1).take (min 511 (reach - 1))
  match ahead.findIdx? (fun c => !(c = ' ' || c = '\t' || c = '\r' || c = '\n')) with
  | some j => if ahead[j]? = some '#' then some (j + 1) else none
  | none => none

/-- Moves on to the character at index `target`, line breaks as lines, at most `fuel` steps. -/
def skipTo (target : Nat) : Nat → ScanM Unit
  | 0 => pure ()
  | fuel + 1 => do
    let s ← get
    if s.mark.index < target then
      match s.rest.head? with
      | some c =>
        if isBreak c then skipLine else skip
        skipTo target fuel
      | none => pure ()

/-- Consumes a comment, at most `fuel` of them in a row: the comment at hand up to its line
break, and every comment that `laterComment` finds after it, with what stands between. -/
def scanComments : Nat → ScanM Unit
  | 0 => pure ()
  | fuel + 1 => do
    skipToBreak ((← get).rest.length + 1)
    let s ← get
    let reach := match s.refusal with
      | some (limit, _) => limit - s.mark.index
      | none => s.rest.length + 1
    match laterComment s.rest reach with
    | some k =>
      skipTo (s.mark.index + k) (k + 1)
      scanComments fuel
    | none => pure ()

/-- Skips blanks, comments and line breaks up to the next token; in block context a line break
lets a simple key start. -/
def scanToNextToken : Nat → ScanM Unit
  | 0 => pure ()
  | fuel + 1 => do
    let s ← get
    if s.mark.column = 0 && s.rest.head? = some '\uFEFF' then skip
    need 1
    skipSpaces (s.rest.length + 1)
    if (← peekAt 0) = some '#' then scanComments (s.rest.length + 1)
    match ← peekAt 0 with
    | some c =>
      if isBreak c then
        need 2
        skipLine
        modify fun s => if s.flowLevel = 0 then { s with simpleKeyAllowed := true } else s
        scanToNextToken fuel
    | none => pure ()

/-- Skips a comment that follows a token on its line, with the blanks before it. Nothing happens
after a line break or when no comment follows. -/
def scanLineComment : ScanM Unit := do
  let s ← get
  if s.newlines = 0 then
    let blanks := (s.rest.take 512).takeWhile isBlank
    if blanks.length < 512 && (← canRead (blanks.length + 1)) &&
        s.rest[blanks.length]? = some '#' then
      skipN blanks.length
      skipToBreak (s.rest.length + 1)

/-- The message context of a tag error. -/
def tagContext (directive : Bool) : String :=
  if directive then "while parsing a %TAG directive" else "while parsing a tag"

/-- The number of bytes of a UTF-8 sequence with this leading byte, or zero. -/
def utf8Width (b : Nat) : Nat :=
  if b < 0x80 then 1 else if b / 32 = 6 then 2 else if b / 16 = 14 then 3
  else if b / 8 = 30 then 4 else 0

/-- Reads the `%XX` escapes of one UTF-8 character of a tag, at most `fuel` of them. -/
def uriEscapes (directive : Bool) (start : Mark) (width : Option Nat) (bytes : List Nat) :
    Nat → ScanM (List Nat)
  | 0 => pure bytes
  | fuel + 1 => do
    need 3
    let s ← get
    match s.rest with
    | '%' :: h :: l :: _ =>
      if isHexDigit h && isHexDigit l then
        let octet := hexValue h * 16 + hexValue l
        let width ← match width with
          | none =>
            if utf8Width octet = 0 then
              fail (tagContext directive) start "found an incorrect leading UTF-8 octet"
            else pure (utf8Width octet)
          | some w =>
            if octet / 64 ≠ 2 then
              fail (tagContext directive) start "found an incorrect trailing UTF-8 octet"
            else pure w
        skipN 3
        if width ≤ 1 then pure (bytes ++ [octet])
        else uriEscapes directive start (some (width - 1)) (bytes ++ [octet]) fuel
      else fail (tagContext directive) start "did not find URI escaped octet"
    | _ => fail (tagContext directive) start "did not find URI escaped octet"

/-- A character that may stand in a tag's URI; `wide` adds `,`, `[` and `]`. -/
def isUriChar (wide : Bool) (c : Char) : Bool :=
  isWordChar c || ";/?:@&=+$.%!~*()".toList.contains c || c = '\'' || (wide && (c = ',' || c = '[' || c = ']'))

/-- Reads the characters of a tag's URI, at most `fuel` of them. -/
def tagUriChars (wide directive : Bool) (start : Mark) (acc : List Char) (seen : Bool) :
    Nat → ScanM (List Char × Bool)
  | 0 => pure (acc, seen)
  | fuel + 1 => do
    need 1
    match ← peekAt 0 with
    | some '%' =>
      let bytes ← uriEscapes directive start none [] 4
      tagUriChars wide directive start (acc ++ Text.decodeUtf8 bytes) true fuel
    | some c =>
      if isUriChar wide c then do
        skip
        tagUriChars wide directive start (acc ++ [c]) true fuel
      else pure (acc, seen)
    | none => pure (acc, seen)

/-- Reads a tag's URI after `head`, whose leading `!` is dropped. -/
def scanTagUri (wide directive : Bool) (head : List Char) (start : Mark) : ScanM (List Char) := do
  let s ← get
  let (uri, seen) ← tagUriChars wide directive start (head.drop 1) (!head.isEmpty)
    (s.rest.length + 1)
  if !seen then fail (tagContext directive) start "did not find expected tag URI"
  pure uri

/-- Reads word characters, at most `fuel` of them. -/
def readWord (acc : List Char) : Nat → ScanM (List Char)
  | 0 => pure acc
  | fuel + 1 => do
    need 1
    match ← peekAt 0 with
    | some c => if isWordChar c then do skip; readWord (acc ++ [c]) fuel else pure acc
    | none => pure acc

/-- Reads a tag handle: `!`, `!!` or `!word!`; without the closing `!` it is the start of a
tag's suffix, which a directive does not allow. -/
def scanTagHandle (directive : Bool) (start : Mark) : ScanM (List Char) := do
  need 1
  if (← peekAt 0) ≠ some '!' then fail (tagContext directive) start "did not find expected '!'"
  skip
  let word ← readWord ['!'] ((← get).rest.length + 1)
  if (← peekAt 0) = some '!' then do
    skip
    pure (word ++ ['!'])
  else if directive && word ≠ ['!'] then fail (tagContext directive) start "did not find expected '!'"
  else pure word

/-- Reads the digits of a version number, at most two. -/
def versionNumber (start : Mark) (value length : Nat) : Nat → ScanM Nat
  | 0 => pure value
  | fuel + 1 => do
    need 1
    match ← peekAt 0 with
    | some c =>
      if c.isDigit then
        if length + 1 > 2 then
          fail "while scanning a %YAML directive" start "found extremely long version number"
        else do
          skip
          versionNumber start (value * 10 + (c.toNat - '0'.toNat)) (length + 1) fuel
      else if length = 0 then
        fail "while scanning a %YAML directive" start "did not find expected version number"
      else pure value
    | none =>
      if length = 0 then
        fail "while scanning a %YAML directive" start "did not find expected version number"
      else pure value

/-- Skips blanks, at most `fuel` of them. -/
def skipBlanks : Nat → ScanM Unit
  | 0 => pure ()
  | fuel + 1 => do
    match ← peekAt 0 with
    | some c => if isBlank c then do skip; need 1; skipBlanks fuel else pure ()
    | none => pure ()

/-- Reads a directive: `%YAML major.minor` or `%TAG handle prefix`, and the rest of its line. -/
def scanDirective : ScanM Token := do
  let start := (← get).mark
  skip
  let name ← readWord [] ((← get).rest.length + 1)
  if name.isEmpty then
    fail "while scanning a directive" start "could not find expected directive name"
  if !blankZ (← peekAt 0) then
    fail "while scanning a directive" start "found unexpected non-alphabetical character"
  let fuel := (← get).rest.length + 1
  let kind ← if name = "YAML".toList then do
      skipBlanks fuel
      let major ← versionNumber start 0 0 3
      if (← peekAt 0) ≠ some '.' then
        fail "while scanning a %YAML directive" start "did not find expected digit or '.' character"
      skip
      let minor ← versionNumber start 0 0 3
      pure (TokenKind.versionDirective major minor)
    else if name = "TAG".toList then do
      skipBlanks fuel
      let handle ← scanTagHandle true start
      match ← peekAt 0 with
      | some c =>
        if !isBlank c then
          fail "while scanning a %TAG directive" start "did not find expected whitespace"
      | none => fail "while scanning a %TAG directive" start "did not find expected whitespace"
      skipBlanks fuel
      let pfx ← scanTagUri true true [] start
      if !blankZ (← peekAt 0) then
        fail "while scanning a %TAG directive" start "did not find expected whitespace or line break"
      pure (TokenKind.tagDirective (String.ofList handle) (String.ofList pfx))
    else fail "while scanning a directive" start "found unknown directive name"
  let stop := (← get).mark
  skipBlanks fuel
  if (← peekAt 0) = some '#' then skipToBreak fuel
  if !breakZ (← peekAt 0) then
    fail "while scanning a directive" start "did not find expected comment or line break"
  if (← peekAt 0).isSome then need 2
  skipLine
  pure { kind, start, stop }

/-- Fetches a directive. -/
def fetchDirective : ScanM Unit := do
  unrollIndent (-1) (← get).mark
  removeSimpleKey
  modify fun s => { s with simpleKeyAllowed := false }
  append (← scanDirective)

/-- Fetches `---` or `...`. -/
def fetchDocumentIndicator (kind : TokenKind) : ScanM Unit := do
  unrollIndent (-1) (← get).mark
  removeSimpleKey
  modify fun s => { s with simpleKeyAllowed := false }
  let start := (← get).mark
  skipN 3
  append { kind, start, stop := (← get).mark }

/-- Queues a token for the one-character indicator at the current position. -/
def fetchIndicator (kind : TokenKind) : ScanM Unit := do
  let start := (← get).mark
  skip
  append { kind, start, stop := (← get).mark }

/-- Fetches `[` or `{`. -/
def fetchFlowCollectionStart (kind : TokenKind) : ScanM Unit := do
  saveSimpleKey
  increaseFlowLevel
  modify fun s => { s with simpleKeyAllowed := true }
  fetchIndicator kind

/-- Fetches `]` or `}`. -/
def fetchFlowCollectionEnd (kind : TokenKind) : ScanM Unit := do
  removeSimpleKey
  decreaseFlowLevel
  modify fun s => { s with simpleKeyAllowed := false }
  fetchIndicator kind

/-- Fetches `,`. -/
def fetchFlowEntry : ScanM Unit := do
  removeSimpleKey
  modify fun s => { s with simpleKeyAllowed := true }
  fetchIndicator .flowEntry

/-- Fetches `-` of a block sequence. -/
def fetchBlockEntry : ScanM Unit := do
  let s ← get
  if s.flowLevel = 0 then
    if !s.simpleKeyAllowed then
      fail "" s.mark "block sequence entries are not allowed in this context"
    rollIndent s.mark.column none .blockSequenceStart s.mark
  removeSimpleKey
  modify fun s => { s with simpleKeyAllowed := true }
  fetchIndicator .blockEntry

/-- Fetches `?`. -/
def fetchKey : ScanM Unit := do
  let s ← get
  if s.flowLevel = 0 then
    if !s.simpleKeyAllowed then
      fail "" s.mark "mapping keys are not allowed in this context"
    rollIndent s.mark.column none .blockMappingStart s.mark
  removeSimpleKey
  modify fun s => { s with simpleKeyAllowed := s.flowLevel == 0 }
  fetchIndicator .key

/-- Fetches `:`. When a simple key is pending on this level and still on the same line within
1024 characters, a `key` token is inserted before it. -/
def fetchValue : ScanM Unit := do
  let s ← get
  let k := s.simpleKeys.headD {}
  let stale := k.mark.line < s.mark.line || k.mark.index + 1024 < s.mark.index
  if k.possible && stale && k.required then
    fail "while scanning a simple key" k.mark "could not find expected ':'"
  if k.possible && !stale then
    insertAt (k.tokenNumber - s.parsed) { kind := .key, start := k.mark, stop := k.mark }
    rollIndent k.mark.column (some k.tokenNumber) .blockMappingStart k.mark
    modify fun s => { s with simpleKeys := { k with possible := false } :: s.simpleKeys.drop 1,
                             simpleKeyAllowed := false }
  else
    if k.possible then
      modify fun s => { s with simpleKeys := { k with possible := false } :: s.simpleKeys.drop 1 }
    let s ← get
    if s.flowLevel = 0 then
      if !s.simpleKeyAllowed then
        fail "" s.mark "mapping values are not allowed in this context"
      rollIndent s.mark.column none .blockMappingStart s.mark
    modify fun s => { s with simpleKeyAllowed := s.flowLevel == 0 }
  fetchIndicator .value

/-- Fetches an anchor `&name` or an alias `*name`. -/
def fetchAnchor (isAlias : Bool) : ScanM Unit := do
  saveSimpleKey
  modify fun s => { s with simpleKeyAllowed := false }
  let start := (← get).mark
  skip
  let name ← readWord [] ((← get).rest.length + 1)
  let stop := (← get).mark
  let next ← peekAt 0
  let ends := blankZ next || (next.map fun c => ['?', ':', ',', ']', '\x7d', '%', '@', '`'].contains c).getD false
  if name.isEmpty || !ends then
    fail (if isAlias then "while scanning an alias" else "while scanning an anchor") start
      "did not find expected alphabetic or numeric character"
  let kind := if isAlias then TokenKind.alias (String.ofList name) else .anchor (String.ofList name)
  append { kind, start, stop }

/-- Fetches a tag: `!<uri>`, `!suffix`, `!handle!suffix` or `!`. -/
def fetchTag : ScanM Unit := do
  saveSimpleKey
  modify fun s => { s with simpleKeyAllowed := false }
  let start := (← get).mark
  need 2
  let (handle, suffix) ← if (← peekAt 1) = some '<' then do
      skipN 2
      let suffix ← scanTagUri true false [] start
      if (← peekAt 0) ≠ some '>' then fail "while scanning a tag" start "did not find the expected '>'"
      skip
      pure ([], suffix)
    else do
      let handle ← scanTagHandle false start
      if handle.head? = some '!' && handle.length > 1 && handle.getLast? = some '!' then
        pure (handle, ← scanTagUri false false [] start)
      else
        let suffix ← scanTagUri false false handle start
        if suffix.isEmpty then pure ([], ['!']) else pure (['!'], suffix)
  need 1
  let s ← get
  if !blankZ s.rest.head? && (s.flowLevel = 0 || s.rest.head? ≠ some ',') then
    fail "while scanning a tag" start "did not find expected whitespace or line break"
  append { kind := .tag (String.ofList handle) (String.ofList suffix), start, stop := s.mark }

/-- Whitespace and line breaks met inside a scalar, waiting to be joined to its text. -/
structure Folding where
  text : List Char := []
  leadingBreak : List Char := []
  trailingBreaks : List Char := []
  whitespaces : List Char := []
  leadingBlanks : Bool := false
  deriving Repr, Inhabited

/-- Joins what waits to the text: a single line break folds into a space, more line breaks stay
as they are less the first, other breaks stay; blanks within a line stay. -/
def Folding.join (f : Folding) : Folding :=
  if f.leadingBlanks then
    let text :=
      if f.leadingBreak.head? = some '\n' then
        if f.trailingBreaks.isEmpty then f.text ++ [' '] else f.text ++ f.trailingBreaks
      else f.text ++ f.leadingBreak ++ f.trailingBreaks
    { f with text, leadingBreak := [], trailingBreaks := [], leadingBlanks := false }
  else if f.whitespaces.isEmpty then f
  else { f with text := f.text ++ f.whitespaces, whitespaces := [] }

/-- Consumes blanks and line breaks inside a scalar, at most `fuel` of them; `tabCheck` refuses a
tab in the indentation of a continuation line. -/
def foldBlanks (tabCheck : Option (Mark × Int)) (f : Folding) : Nat → ScanM Folding
  | 0 => pure f
  | fuel + 1 => do
    let s ← get
    match s.rest.head? with
    | some c =>
      if isBlank c then
        match tabCheck with
        | some (start, indent) =>
          if f.leadingBlanks && (s.mark.column : Int) < indent && c = '\t' then
            fail "while scanning a plain scalar" start "found a tab character that violates indentation"
        | none => pure ()
        skip
        need 1
        if f.leadingBlanks then foldBlanks tabCheck f fuel
        else foldBlanks tabCheck { f with whitespaces := f.whitespaces ++ [c] } fuel
      else if isBreak c then
        need 2
        let line ← readLine
        need 1
        if f.leadingBlanks then foldBlanks tabCheck { f with trailingBreaks := f.trailingBreaks ++ line } fuel
        else foldBlanks tabCheck { f with whitespaces := [], leadingBreak := line, leadingBlanks := true } fuel
      else pure f
    | none => pure f

/-- Consumes the characters of a plain scalar up to a blank, a line break, `: `, or in brackets
one of `,?[]{}`, at most `fuel` of them. -/
def plainChars (f : Folding) (stop : Mark) : Nat → ScanM (Folding × Mark)
  | 0 => pure (f, stop)
  | fuel + 1 => do
    let s ← get
    match s.rest with
    | [] => pure (f, stop)
    | c :: more =>
      if isBlank c || isBreak c then pure (f, stop)
      else if (c = ':' && blankZ more.head?) ||
          (s.flowLevel > 0 && (c = ',' || c = '?' || c = '[' || c = ']' || c = '\x7b' || c = '\x7d')) then
        pure (f, stop)
      else do
        let f := f.join
        skip
        let stop := (← get).mark
        need 2
        plainChars { f with text := f.text ++ [c] } stop fuel

/-- Consumes the lines of a plain scalar, at most `fuel` of them. -/
def plainLines (start : Mark) (indent : Int) (f : Folding) (stop : Mark) :
    Nat → ScanM (Folding × Mark)
  | 0 => pure (f, stop)
  | fuel + 1 => do
    need 4
    let s ← get
    if s.mark.column = 0 && atDocumentIndicator s.rest then return (f, stop)
    if s.rest.head? = some '#' then return (f, stop)
    let (f, stop) ← plainChars f stop (s.rest.length + 1)
    match ← peekAt 0 with
    | some c =>
      if !(isBlank c || isBreak c) then return (f, stop)
      let f ← foldBlanks (some (start, indent)) f ((← get).rest.length + 1)
      let s ← get
      if s.flowLevel = 0 && (s.mark.column : Int) < indent then return (f, stop)
      plainLines start indent f stop fuel
    | none => return (f, stop)

/-- Fetches a plain scalar. -/
def fetchPlainScalar : ScanM Unit := do
  saveSimpleKey
  modify fun s => { s with simpleKeyAllowed := false }
  let s ← get
  let (f, stop) ← plainLines s.mark (s.indent + 1) {} s.mark (s.rest.length + 1)
  append { kind := .scalar (String.ofList f.text) .plain, start := s.mark, stop }
  if f.leadingBlanks then modify fun s => { s with simpleKeyAllowed := true }

/-- The character of a one-letter escape of a double-quoted scalar. -/
def simpleEscape : Char → Option Char
  | '0' => some '\x00'
  | 'a' => some '\x07'
  | 'b' => some '\x08'
  | 't' => some '\t'
  | '\t' => some '\t'
  | 'n' => some '\n'
  | 'v' => some '\x0b'
  | 'f' => some '\x0c'
  | 'r' => some '\r'
  | 'e' => some '\x1b'
  | ' ' => some ' '
  | '"' => some '"'
  | '\'' => some '\''
  | '\\' => some '\\'
  | 'N' => some '\x85'
  | '_' => some '\xa0'
  | 'L' => some '\u2028'
  | 'P' => some '\u2029'
  | _ => none

/-- The number of hex digits of a numeric escape. -/
def escapeLength : Char → Nat
  | 'x' => 2
  | 'u' => 4
  | 'U' => 8
  | _ => 0

/-- Consumes the characters of a quoted scalar up to a blank, a line break or the closing
quote, at most `fuel` of them; tells whether an escaped line break ended them. -/
def quotedChars (single : Bool) (start : Mark) (f : Folding) : Nat → ScanM (Folding × Bool)
  | 0 => pure (f, false)
  | fuel + 1 => do
    let s ← get
    match s.rest with
    | [] => pure (f, false)
    | c :: more =>
      if isBlank c || isBreak c then pure (f, false)
      else if single && c = '\'' && more.head? = some '\'' then do
        skipN 2
        need 2
        quotedChars single start { f with text := f.text ++ ['\''] } fuel
      else if single && c = '\'' then pure (f, false)
      else if !single && c = '"' then pure (f, false)
      else if !single && c = '\\' && (more.head?.map isBreak).getD false then do
        need 3
        skip
        skipLine
        pure (f, true)
      else if !single && c = '\\' then
        let e := more.head?.getD '\x00'
        match simpleEscape e with
        | some out => do
          skipN 2
          need 2
          quotedChars single start { f with text := f.text ++ [out] } fuel
        | none =>
          let width := escapeLength e
          if width = 0 then
            fail "while parsing a quoted scalar" start "found unknown escape character"
          else do
            skipN 2
            need width
            let digits := (← get).rest.take width
            if digits.length < width || !digits.all isHexDigit then
              fail "while parsing a quoted scalar" start "did not find expected hexdecimal number"
            let code := digits.foldl (fun acc d => acc * 16 + hexValue d) 0
            if (0xD800 ≤ code && code ≤ 0xDFFF) || code > 0x10FFFF then
              fail "while parsing a quoted scalar" start "found invalid Unicode character escape code"
            skipN width
            need 2
            quotedChars single start { f with text := f.text ++ [Char.ofNat code] } fuel
      else do
        skip
        need 2
        quotedChars single start { f with text := f.text ++ [c] } fuel

/-- Consumes the lines of a quoted scalar up to its closing quote, at most `fuel` of them. -/
def quotedLines (single : Bool) (start : Mark) (f : Folding) : Nat → ScanM Folding
  | 0 => pure f
  | fuel + 1 => do
    need 4
    let s ← get
    if s.mark.column = 0 && atDocumentIndicator s.rest then
      fail "while scanning a quoted scalar" start "found unexpected document indicator"
    if s.rest.isEmpty then
      fail "while scanning a quoted scalar" start "found unexpected end of stream"
    let (f, escapedBreak) ← quotedChars single start { f with leadingBlanks := false }
      (s.rest.length + 1)
    need 1
    let next ← peekAt 0
    if (single && next = some '\'') || (!single && next = some '"') then return f
    let f ← foldBlanks none { f with leadingBlanks := escapedBreak } ((← get).rest.length + 1)
    let f := f.join
    quotedLines single start f fuel

/-- Fetches a single- or double-quoted scalar. -/
def fetchFlowScalar (single : Bool) : ScanM Unit := do
  saveSimpleKey
  modify fun s => { s with simpleKeyAllowed := false }
  let start := (← get).mark
  skip
  let f ← quotedLines single start {} ((← get).rest.length + 1)
  skip
  let style := if single then ScalarStyle.singleQuoted else .doubleQuoted
  append { kind := .scalar (String.ofList f.text) style, start, stop := (← get).mark }

/-- Skips the indentation spaces of a block scalar's line, up to `indent` when it is known,
at most `fuel` of them. -/
def blockIndentSpaces (indent : Nat) : Nat → ScanM Unit
  | 0 => pure ()
  | fuel + 1 => do
    let s ← get
    if (indent = 0 || s.mark.column < indent) && s.rest.head? = some ' ' then do
      skip
      need 1
      blockIndentSpaces indent fuel

/-- The indentation of a block scalar: the one given, else the deepest seen before its first
line, but deeper than the enclosing block and at least one. -/
def blockIndentOf (indent deepest : Nat) : ScanM Nat := do
  if indent ≠ 0 then return indent
  let s ← get
  return max (max deepest (s.indent + 1).toNat) 1

/-- Consumes the indentation and empty lines before a line of a block scalar, at most `fuel`
lines, and gives the indentation, the line breaks met, and where they end. -/
def blockBreaks (start : Mark) (indent : Nat) (breaks : List Char) (stop : Mark) (deepest : Nat) :
    Nat → ScanM (Nat × List Char × Mark)
  | 0 => do pure (← blockIndentOf indent deepest, breaks, stop)
  | fuel + 1 => do
    need 1
    blockIndentSpaces indent ((← get).rest.length + 1)
    let s ← get
    let deepest := max deepest s.mark.column
    if (indent = 0 || s.mark.column < indent) && s.rest.head? = some '\t' then
      fail "while scanning a block scalar" start
        "found a tab character where an indentation space is expected"
    match s.rest.head? with
    | some c =>
      if isBreak c then do
        need 2
        let line ← readLine
        blockBreaks start indent (breaks ++ line) (← get).mark deepest fuel
      else pure (← blockIndentOf indent deepest, breaks, stop)
    | none => pure (← blockIndentOf indent deepest, breaks, stop)

/-- Reads the characters up to a line break or the end, at most `fuel` of them. -/
def readToBreak (acc : List Char) : Nat → ScanM (List Char)
  | 0 => pure acc
  | fuel + 1 => do
    match ← peekAt 0 with
    | some c => if isBreak c then pure acc else do skip; need 1; readToBreak (acc ++ [c]) fuel
    | none => pure acc

/-- Consumes the lines of a block scalar at its indentation, at most `fuel` of them. -/
def blockLines (literal : Bool) (start : Mark) (indent : Nat) (text leadingBreak trailing : List Char)
    (leadingBlank : Bool) (stop : Mark) : Nat → ScanM (List Char × List Char × List Char × Mark)
  | 0 => pure (text, leadingBreak, trailing, stop)
  | fuel + 1 => do
    let s ← get
    if s.mark.column ≠ indent || s.rest.isEmpty then return (text, leadingBreak, trailing, stop)
    let trailingBlank := (s.rest.head?.map isBlank).getD false
    let text :=
      if !literal && !leadingBlank && !trailingBlank && leadingBreak.head? = some '\n' then
        if trailing.isEmpty then text ++ [' '] else text
      else text ++ leadingBreak
    let text := text ++ trailing
    let leadingBlank := trailingBlank
    let text ← readToBreak text (s.rest.length + 1)
    need 2
    let leadingBreak ← readLine
    let (indent, trailing, stop) ← blockBreaks start indent [] (← get).mark 0 ((← get).rest.length + 1)
    blockLines literal start indent text leadingBreak trailing leadingBlank stop fuel

/-- Fetches a literal (`|`) or folded (`>`) block scalar, with its chomping (`+`, `-`) and
indentation indicators. -/
def fetchBlockScalar (literal : Bool) : ScanM Unit := do
  removeSimpleKey
  modify fun s => { s with simpleKeyAllowed := true }
  let start := (← get).mark
  skip
  need 1
  let sign := fun (c : Option Char) => match c with
    | some '+' => some (1 : Int)
    | some '-' => some (-1)
    | _ => none
  let digit := fun (c : Option Char) => match c with
    | some d => if d.isDigit then some (d.toNat - '0'.toNat) else none
    | none => none
  let (chomping, increment) ← do
    match sign (← peekAt 0) with
    | some chomp => do
      skip
      need 1
      match digit (← peekAt 0) with
      | some 0 => fail "while scanning a block scalar" start "found an indentation indicator equal to 0"
      | some n => do skip; pure (chomp, n)
      | none => pure (chomp, 0)
    | none =>
      match digit (← peekAt 0) with
      | some 0 => fail "while scanning a block scalar" start "found an indentation indicator equal to 0"
      | some n => do
        skip
        need 1
        match sign (← peekAt 0) with
        | some chomp => do skip; pure (chomp, n)
        | none => pure (0, n)
      | none => pure (0, 0)
  let fuel := (← get).rest.length + 1
  skipBlanks fuel
  if (← peekAt 0) = some '#' then skipToBreak fuel
  if !breakZ (← peekAt 0) then
    fail "while scanning a block scalar" start "did not find expected comment or line break"
  if (← peekAt 0).isSome then need 2
  skipLine
  let s ← get
  let indent : Nat :=
    if increment > 0 then (if s.indent ≥ 0 then (s.indent + increment).toNat else increment) else 0
  let (indent, trailing, stop) ← blockBreaks start indent [] s.mark 0 (s.rest.length + 1)
  need 1
  let (text, leadingBreak, trailing, stop) ←
    blockLines literal start indent [] [] trailing false stop ((← get).rest.length + 1)
  let text := if chomping ≠ -1 then text ++ leadingBreak else text
  let text := if chomping = 1 then text ++ trailing else text
  let style := if literal then ScalarStyle.literal else .folded
  append { kind := .scalar (String.ofList text) style, start, stop }

/-- Whether a character may start a plain scalar, given the next one. -/
def startsPlain (flow : Bool) (c : Char) (next : Option Char) : Bool :=
  !(isBlank c || isBreak c || ['-', '?', ':', ',', '[', ']', '\x7b', '\x7d', '#', '&', '*', '!', '|', '>', '\'', '"', '%',
      '@', '`'].contains c) ||
    (c = '-' && !((next.map isBlank).getD false)) ||
    (!flow && (c = '?' || c = ':') && !blankZ next)

/-- Fetches the next token, with the tokens it settles. -/
def fetchNextToken : ScanM Unit := do
  need 1
  let s ← get
  if !s.started then fetchStreamStart
  else
    let scanMark := s.mark
    scanToNextToken (s.rest.length + 1)
    unrollIndent (← get).mark.column scanMark
    need 4
    let s ← get
    match s.rest with
    | [] => fetchStreamEnd
    | c :: more =>
      let next := more.head?
      if s.mark.column = 0 && c = '%' then fetchDirective
      else if s.mark.column = 0 && atDocumentIndicator s.rest && c = '-' then
        fetchDocumentIndicator .documentStart
      else if s.mark.column = 0 && atDocumentIndicator s.rest && c = '.' then
        fetchDocumentIndicator .documentEnd
      else
        let flow := s.flowLevel > 0
        if c = '[' then fetchFlowCollectionStart .flowSequenceStart
        else if c = '{' then fetchFlowCollectionStart .flowMappingStart
        else if c = ']' then fetchFlowCollectionEnd .flowSequenceEnd
        else if c = '}' then fetchFlowCollectionEnd .flowMappingEnd
        else if c = ',' then fetchFlowEntry
        else if c = '-' && blankZ next then fetchBlockEntry
        else if c = '?' && (flow || blankZ next) then fetchKey
        else if c = ':' && (flow || blankZ next) then fetchValue
        else if c = '*' then fetchAnchor true
        else if c = '&' then fetchAnchor false
        else if c = '!' then fetchTag
        else if c = '|' && !flow then fetchBlockScalar true
        else if c = '>' && !flow then fetchBlockScalar false
        else if c = '\'' then fetchFlowScalar true
        else if c = '"' then fetchFlowScalar false
        else if startsPlain flow c next then fetchPlainScalar
        else fail "while scanning for the next token" s.mark "found character that cannot start any token"
        if !(c = '-' && blankZ next) then scanLineComment

/-- Fetches tokens until at least three wait and the first cannot become a simple key any more,
fetching at most `fuel` times. -/
def fetchMoreTokens : Nat → ScanM Unit
  | 0 => pure ()
  | fuel + 1 => do
    let s ← get
    if s.queue.length ≥ 3 then
      match s.simpleKeys.findIdx? (fun k => k.possible && k.tokenNumber == s.parsed) with
      | none => pure ()
      | some i =>
        let k := s.simpleKeys[i]?.getD {}
        if k.mark.line < s.mark.line || k.mark.index + 1024 < s.mark.index then
          if k.required then fail "while scanning a simple key" k.mark "could not find expected ':'"
          else set { s with simpleKeys := s.simpleKeys.set i { k with possible := false } }
        else do
          fetchNextToken
          fetchMoreTokens fuel
    else do
      fetchNextToken
      fetchMoreTokens fuel

/-- The next token, fetching what it takes to settle it. -/
def peekToken : ScanM Token := do
  let s ← get
  if !s.available then
    fetchMoreTokens (s.rest.length + s.queue.length + 8)
    modify fun s => { s with available := true }
  let s ← get
  pure (s.queue.head?.getD { kind := .streamEnd, start := s.mark, stop := s.mark })

/-- Takes the next token. -/
def skipToken : ScanM Unit := modify fun s =>
  { s with available := false, parsed := s.parsed + 1, queue := s.queue.drop 1 }

/-- A scanner at the start of a stream's input. -/
def start (input : Input) : Scanner :=
  { rest := input.chars, refusal := input.refusal }

end Scanner

end StableWatch.Yaml
